import Pax.Cli.HexPayload
import Pax.Core.AddressText
import Pax.Framework.Program
import Pax.Transport.Backend

/-!
# The gatt command

`gatt` of `pax-cli/src/main.rs`: connect, one GATT operation on a characteristic, what it came to on
the standard output, and disconnect. The UUIDs and the payload are only read once there is a
connection, and each `?` up to the disconnect returns without it: `gatt_releases_iff` says that
those are all the ways for the connection to be left.

The command is a program whose calls are those of the backend, the notifications that are received
and the lines that are printed. A panic in reading a text is `none`, and the error is the text that
`main` prints.

* `orReturn` and `attempt` are the `?` on what was read and on what the backend replied.
* `Ends` says, for the part of the command after the connection, that it disconnects exactly once if
  it is not left by a `?`; `ends_onConnection` has one case for each operation.
-/

namespace Pax
namespace Cli

open Program (Returns)

/-- A subcommand of `gatt`, with the texts of its arguments. -/
inductive GattOp where
  | read (addr service characteristic : String)
  | write (addr service characteristic hex : String)
  | subscribe (addr service characteristic : String) (count : ℕ)

/-- What `gatt` calls: the backend, the stream of notifications, and the standard output. -/
inductive GattCall where
  | connect (target : DeviceId)
  | gattRead (conn : Connection) (service characteristic : Uuid)
  | gattWrite (conn : Connection) (service characteristic : Uuid) (data : List UInt8)
    (withResponse : Bool)
  | gattSubscribe (conn : Connection) (service characteristic : Uuid)
  /-- The next notification of the stream, if there is another. -/
  | next
  | println (line : String)
  | disconnect (conn : Connection)

def GattCall.Reply : GattCall → Type
  | .connect _ => Except TransportError Connection
  | .gattRead .. => Except TransportError (List UInt8)
  | .gattWrite .. => Except TransportError Unit
  | .gattSubscribe .. => Except TransportError Unit
  | .next => Option (Uuid × List UInt8)
  | .println _ => Unit
  | .disconnect _ => Except TransportError Unit

abbrev gattCalls : Interface := { Call := GattCall, Reply := GattCall.Reply }

/-- A run of the command, with the text of its error. `none` is a panic. -/
abbrev Gatt := Program gattCalls (Option (Except String Unit))

/-- `?` on a text that was parsed: go on with the value, return the error, or panic. -/
def orReturn {α : Type} (parsed : Option (Except String α)) (body : α → Gatt) : Gatt :=
  match parsed with
  | none => return none
  | some (.error e) => return some (.error e)
  | some (.ok a) => body a

/-- `?` on the reply of the backend: go on with the value, or return the error. -/
def attempt {α : Type} (operation : Program gattCalls (Except TransportError α)) (body : α → Gatt) :
    Gatt := do
  match ← operation with
  | .error e => return some (.error e.display)
  | .ok a => body a

def parseUuid (s : String) : Option (Except String Uuid) :=
  (Uuid.fromStr s).map fun r => r.mapError CoreError.display

def println (line : String) : Program gattCalls Unit :=
  Program.call (I := gattCalls) (.println line)

/-- `let _ = backend.disconnect(&conn).await`, and the end of the command, without an error. -/
def disconnectAndReturn (conn : Connection) : Gatt := do
  let _ ← Program.call (I := gattCalls) (.disconnect conn)
  return some (.ok ())

/-- `backend.connect(addr.parse()?).await?`, and what is done with the connection. -/
def connectTo (addr : String) (body : Connection → Gatt) : Gatt :=
  orReturn (some ((DeviceId.fromStr addr).mapError CoreError.display)) fun target =>
    attempt (Program.call (I := gattCalls) (.connect target)) body

/-- `{value:02X?}`: the bytes as Rust prints them. -/
def debugBytes (value : List UInt8) : String :=
  "[" ++ String.intercalate ", " (value.map hex2) ++ "]"

/-- Print up to `left` more notifications, each on a line of its own. -/
def printNotifications : (left : ℕ) → Program gattCalls Unit
  | 0 => return ()
  | left + 1 => do
    match ← Program.call (I := gattCalls) .next with
    | none => return ()
    | some (uuid, value) =>
      println (uuid.display ++ " = " ++ debugBytes value)
      printNotifications left

/-- What `gatt` does once it is connected: read its arguments, do the operation, print, and
disconnect. -/
def onConnection (conn : Connection) : GattOp → Gatt
  | .read _ service characteristic =>
    orReturn (parseUuid service) fun service' =>
    orReturn (parseUuid characteristic) fun characteristic' =>
    attempt (Program.call (I := gattCalls)
        (.gattRead conn service' characteristic')) fun value => do
      println (characteristic ++ " = " ++ debugBytes value)
      disconnectAndReturn conn
  | .write _ service characteristic hex =>
    -- the payload comes first
    orReturn (parseHex hex) fun data =>
    orReturn (parseUuid service) fun service' =>
    orReturn (parseUuid characteristic) fun characteristic' =>
    attempt (Program.call (I := gattCalls)
        (.gattWrite conn service' characteristic' data true)) fun _ => do
      println ("wrote " ++ toString data.length ++ " byte(s)")
      disconnectAndReturn conn
  | .subscribe _ service characteristic count =>
    orReturn (parseUuid service) fun service' =>
    orReturn (parseUuid characteristic) fun characteristic' =>
    attempt (Program.call (I := gattCalls)
        (.gattSubscribe conn service' characteristic')) fun _ => do
      -- the count is looked at after a line is printed, so there may be one even if it is 0
      printNotifications (max count 1)
      disconnectAndReturn conn

def GattOp.addr : GattOp → String
  | .read addr _ _ => addr
  | .write addr _ _ _ => addr
  | .subscribe addr _ _ _ => addr

/-- Run one subcommand of `gatt`. -/
def gatt (op : GattOp) : Gatt := connectTo op.addr fun conn => onConnection conn op

/-! ### Which connections are left -/

/-- The exchange is a `disconnect` of the connection. -/
def disconnects (conn : Connection) : Exchange gattCalls → Bool
  | ⟨.disconnect conn', _⟩ => conn' = conn
  | _ => false

/-- The exchange is a GATT operation that the backend has refused. -/
def refused : Exchange gattCalls → Bool
  | ⟨.gattRead .., .error _⟩ => true
  | ⟨.gattWrite .., .error _⟩ => true
  | ⟨.gattSubscribe .., .error _⟩ => true
  | _ => false

def connects : Exchange gattCalls → Bool
  | ⟨.connect _, _⟩ => true
  | _ => false

/-- The text is read without an error, and without a panic. -/
def Reads {α : Type} (parsed : Option (Except String α)) : Prop := ∃ a, parsed = some (.ok a)

/-- All texts of the operation but the address are read without an error. -/
def GattOp.Parses : GattOp → Prop
  | .read _ service characteristic => Reads (parseUuid service) ∧ Reads (parseUuid characteristic)
  | .write _ service characteristic hex =>
    Reads (parseHex hex) ∧ Reads (parseUuid service) ∧ Reads (parseUuid characteristic)
  | .subscribe _ service characteristic _ =>
    Reads (parseUuid service) ∧ Reads (parseUuid characteristic)

variable {α : Type} {conn : Connection}

/-- What is left of a run on the connection: it connects no more, and it disconnects once if and
only if `ok` holds and no operation is refused. -/
def Ends (conn : Connection) (ok : Prop) (p : Gatt) : Prop :=
  ∀ es r, Returns p es (some r) → (∀ e ∈ es, connects e = false) ∧
    (es.countP (disconnects conn) = 1 ↔ ok ∧ ∀ e ∈ es, refused e = false)

theorem Ends.imp {ok ok' : Prop} {p : Gatt} (h : Ends conn ok p) (hiff : ok ↔ ok') :
    Ends conn ok' p := by
  rwa [← hiff]

/-- A text is read first, and the run ends if there is an error in it. -/
theorem ends_orReturn {parsed : Option (Except String α)} {body : α → Gatt} {ok : Prop}
    (h : ∀ a, Ends conn ok (body a)) : Ends conn (Reads parsed ∧ ok) (orReturn parsed body) := by
  intro es r hreturns
  -- The parser panics, fails, which returns without a call, or reads the text.
  cases parsed with
  | none => cases (Program.returns_done.mp hreturns).2
  | some parsed =>
    cases parsed with
    | error e =>
      obtain ⟨rfl, -⟩ := Program.returns_done.mp hreturns
      refine ⟨fun e he => absurd he List.not_mem_nil, iff_of_false Nat.zero_ne_one ?_⟩
      rintro ⟨⟨⟨a, ha⟩, -⟩, -⟩
      cases ha
    | ok a =>
      have hreads : Reads (some (.ok a : Except String α)) := ⟨a, rfl⟩
      obtain ⟨hconnects, hiff⟩ := h a es r hreturns
      exact ⟨hconnects, hiff.trans (and_congr_left' (and_iff_right hreads).symm)⟩

/-- The exchange is one of those of `gatt` on its connection, other than the disconnect at the
end. -/
def Operates (e : Exchange gattCalls) : Prop :=
  connects e = false ∧ ∀ conn, disconnects conn e = false

/-- With an exchange of another kind first, a run ends as it does without it. -/
theorem ends_cons {e : Exchange gattCalls} {es : List (Exchange gattCalls)} (he : Operates e)
    (hrefused : refused e = false) {ok : Prop}
    (h : (∀ e ∈ es, connects e = false) ∧
      (es.countP (disconnects conn) = 1 ↔ ok ∧ ∀ e ∈ es, refused e = false)) :
    (∀ e' ∈ e :: es, connects e' = false) ∧
      ((e :: es).countP (disconnects conn) = 1 ↔ ok ∧ ∀ e' ∈ e :: es, refused e' = false) := by
  rw [List.countP_cons_of_neg (by simp [he.2]), h.2, List.forall_mem_cons, List.forall_mem_cons]
  exact ⟨⟨he.1, h.1⟩, by simp [hrefused]⟩

/-- The run goes on with `body` if the operation is not refused. -/
theorem ends_attempt {operation : Program gattCalls (Except TransportError α)} {body : α → Gatt}
    (hoperation : ∀ es result, Returns operation es result → ∃ e, es = [e] ∧ Operates e ∧
      (refused e = false ↔ ∃ a, result = .ok a))
    (h : ∀ a, Ends conn True (body a)) : Ends conn True (attempt operation body) := by
  intro es r hreturns
  obtain ⟨es₁, result, es₂, rfl, hfirst, hrest⟩ := Program.returns_bind.mp hreturns
  obtain ⟨e, rfl, hoperates, hrefused⟩ := hoperation es₁ result hfirst
  -- A failure returns at once: this is the way past the disconnect.
  cases result with
  | error error =>
    obtain ⟨rfl, -⟩ := Program.returns_done.mp hrest
    have hnot : ¬ refused e = false := fun hok => by
      obtain ⟨a, ha⟩ := hrefused.mp hok
      cases ha
    have hzero : [e].countP (disconnects conn) = 0 := by simp [hoperates.2]
    refine ⟨List.forall_mem_singleton.mpr hoperates.1, iff_of_false ?_ ?_⟩
    · rw [List.append_nil, hzero]
      exact Nat.zero_ne_one
    · rintro ⟨-, hall⟩
      exact hnot (hall e List.mem_cons_self)
  | ok a => exact ends_cons hoperates (hrefused.mpr ⟨a, rfl⟩) (h a es₂ r hrest)

/-- With calls first that neither connect nor disconnect, and are not refused, the rest of the
run decides how it ends. -/
theorem ends_bind {first : Program gattCalls α} {rest : α → Gatt}
    (hfirst : first.Uses fun c => ∀ reply, Operates ⟨c, reply⟩ ∧ refused ⟨c, reply⟩ = false)
    (h : ∀ a, Ends conn True (rest a)) : Ends conn True (first >>= rest) := by
  induction first with
  | done a => exact h a
  | ask c next ih =>
    intro es r hreturns
    obtain ⟨reply, es', rfl, hrest⟩ := Program.returns_ask.mp hreturns
    obtain ⟨hoperates, hrefused⟩ := hfirst.1 reply
    exact ends_cons hoperates hrefused (ih reply (hfirst.2 reply) es' r hrest)

/-- The last part of every operation disconnects once, and returns without an error. -/
theorem ends_disconnectAndReturn : Ends conn True (disconnectAndReturn conn) := by
  intro es r hreturns
  obtain ⟨reply, es', rfl, hend⟩ := Program.returns_call_bind hreturns
  obtain ⟨rfl, -⟩ := Program.returns_done.mp hend
  refine ⟨List.forall_mem_singleton.mpr rfl, iff_of_true ?_ ⟨trivial, ?_⟩⟩
  · simp [disconnects]
  · exact List.forall_mem_singleton.mpr rfl

theorem uses_println (line : String) : (println line).Uses fun c =>
    ∀ reply, Operates ⟨c, reply⟩ ∧ refused ⟨c, reply⟩ = false :=
  ⟨fun _ => ⟨⟨rfl, fun _ => rfl⟩, rfl⟩, fun _ => trivial⟩

theorem uses_printNotifications (left : ℕ) : (printNotifications left).Uses fun c =>
    ∀ reply, Operates ⟨c, reply⟩ ∧ refused ⟨c, reply⟩ = false := by
  induction left with
  | zero => trivial
  | succ left ih =>
    refine ⟨fun _ => ⟨⟨rfl, fun _ => rfl⟩, rfl⟩, fun notification => ?_⟩
    cases notification with
    | none => trivial
    | some notification => exact (uses_println _).bind fun _ => ih

/-- **What each operation does with its connection.** -/
theorem ends_onConnection (op : GattOp) : Ends conn op.Parses (onConnection conn op) := by
  -- The three operations read their texts in the order of the source, and then make their call.
  cases op with
  | read addr service characteristic =>
    have htexts : Reads (parseUuid service) ∧ Reads (parseUuid characteristic) ∧ True ↔
        (GattOp.read addr service characteristic).Parses := by rw [and_true]; rfl
    refine Ends.imp ?_ htexts
    refine ends_orReturn fun service' => ends_orReturn fun characteristic' => ends_attempt ?_ ?_
    · intro es result h
      obtain rfl := Program.returns_call.mp h
      exact ⟨_, rfl, ⟨rfl, fun _ => rfl⟩, by cases result <;> simp [refused]⟩
    · exact fun value => ends_bind (uses_println _) fun _ => ends_disconnectAndReturn
  | write addr service characteristic hex =>
    have htexts : Reads (parseHex hex) ∧ Reads (parseUuid service) ∧
        Reads (parseUuid characteristic) ∧ True ↔
        (GattOp.write addr service characteristic hex).Parses := by rw [and_true]; rfl
    refine Ends.imp ?_ htexts
    refine ends_orReturn fun data => ends_orReturn fun service' =>
      ends_orReturn fun characteristic' => ends_attempt ?_ ?_
    · intro es result h
      obtain rfl := Program.returns_call.mp h
      exact ⟨_, rfl, ⟨rfl, fun _ => rfl⟩, by cases result <;> simp [refused]⟩
    · exact fun _ => ends_bind (uses_println _) fun _ => ends_disconnectAndReturn
  | subscribe addr service characteristic count =>
    have htexts : Reads (parseUuid service) ∧ Reads (parseUuid characteristic) ∧ True ↔
        (GattOp.subscribe addr service characteristic count).Parses := by rw [and_true]; rfl
    refine Ends.imp ?_ htexts
    refine ends_orReturn fun service' => ends_orReturn fun characteristic' => ends_attempt ?_ ?_
    · intro es result h
      obtain rfl := Program.returns_call.mp h
      exact ⟨_, rfl, ⟨rfl, fun _ => rfl⟩, by cases result <;> simp [refused]⟩
    · exact fun _ => ends_bind (uses_printNotifications _) fun _ => ends_disconnectAndReturn

/-- **When `gatt` disconnects.** A run that has connected, and returns, disconnects once if and only
if all its texts are read without an error and the backend has not refused the operation. -/
theorem gatt_releases_iff (op : GattOp) (es : List (Exchange gattCalls)) (r : Except String Unit)
    (target : DeviceId) (conn : Connection) (h : Returns (gatt op) es (some r))
    (hconn : ⟨.connect target, .ok conn⟩ ∈ es) :
    es.countP (disconnects conn) = 1 ↔ op.Parses ∧ ∀ e ∈ es, refused e = false := by
  rw [gatt, connectTo] at h
  cases haddr : (DeviceId.fromStr op.addr).mapError CoreError.display with
  | error e =>
    rw [haddr] at h
    obtain ⟨rfl, -⟩ := Program.returns_done.mp h
    cases hconn
  | ok target' =>
    rw [haddr] at h
    obtain ⟨es₁, connected, es₂, rfl, hfirst, hrest⟩ := Program.returns_bind.mp h
    obtain rfl := Program.returns_call.mp hfirst
    cases connected with
    | error e =>
      obtain ⟨rfl, -⟩ := Program.returns_done.mp hrest
      cases List.mem_singleton.mp hconn
    | ok conn' =>
      -- the command connects once, so this is the connection it works on
      have hsame : conn' = conn := by
        rcases List.mem_cons.mp hconn with heq | hlater
        · cases heq
          rfl
        · cases ((ends_onConnection op) es₂ r hrest).1 _ hlater
      subst hsame
      obtain ⟨-, hiff⟩ := (ends_onConnection op) es₂ r hrest
      rw [List.cons_append, List.nil_append, List.forall_mem_cons]
      rw [List.countP_cons_of_neg Bool.false_ne_true, hiff]
      exact and_congr_right' (and_iff_right rfl).symm

/-- A connection to a peripheral. -/
def peripheral : Connection :=
  { peer := .pub .nil, local' := .virtualModel "pax-mock-0", spec := ⟨.v5_2, .brEdr⟩
    standards := .bredrDefault, token := 1 }

/-- The command gets as far as its connection. -/
theorem returns_gatt {op : GattOp} {target : DeviceId} {es : List (Exchange gattCalls)}
    {r : Option (Except String Unit)}
    (haddr : (DeviceId.fromStr op.addr).mapError CoreError.display = .ok target)
    (h : Returns (onConnection conn op) es r) :
    Returns (gatt op) (⟨.connect target, .ok conn⟩ :: es) r := by
  rw [gatt, connectTo, haddr]
  exact .cons _ h

/-- A read of the battery level, which is printed: the connection is released. -/
theorem gatt_releases_battery :
    [(⟨.connect (.pub .nil), .ok peripheral⟩ : Exchange gattCalls),
      ⟨.gattRead peripheral (Uuid.fromU16 0x180f) (Uuid.fromU16 0x2a19), .ok [100]⟩,
      ⟨.println "2a19 = [64]", ()⟩, ⟨.disconnect peripheral, .ok ()⟩].countP
        (disconnects peripheral) = 1 := by
  have hservice : parseUuid "180f" = some (.ok (Uuid.fromU16 0x180f)) := by decide
  have hcharacteristic : parseUuid "2a19" = some (.ok (Uuid.fromU16 0x2a19)) := by decide
  have hline : "2a19" ++ " = " ++ debugBytes [100] = "2a19 = [64]" := by decide
  have h : Returns (gatt (.read "00:00:00:00:00:00" "180f" "2a19"))
      [⟨.connect (.pub .nil), .ok peripheral⟩,
        ⟨.gattRead peripheral (Uuid.fromU16 0x180f) (Uuid.fromU16 0x2a19), .ok [100]⟩,
        ⟨.println "2a19 = [64]", ()⟩, ⟨.disconnect peripheral, .ok ()⟩] (some (.ok ())) := by
    refine returns_gatt (by decide) ?_
    rw [onConnection, hservice, hcharacteristic]
    rw [← hline]
    exact .cons _ (.cons _ (.cons _ (.nil _)))
  refine (gatt_releases_iff _ _ _ _ peripheral h List.mem_cons_self).mpr ⟨⟨⟨_, hservice⟩, _,
    hcharacteristic⟩, ?_⟩
  simp [refused]

/-- A text that is no UUID ends the command with the connection left open. -/
theorem gatt_leaves_connection :
    ¬ ∀ op es r target conn, Returns (gatt op) es (some r) →
      ⟨.connect target, .ok conn⟩ ∈ es → es.countP (disconnects conn) = 1 := by
  intro hall
  have hservice : parseUuid "xyz" = some (.error "invalid UUID: cannot parse `xyz`") := by decide
  have h : Returns (gatt (.read "11:22:33:44:55:66" "xyz" "2a29"))
      [⟨.connect (.pub ⟨#v[0x11, 0x22, 0x33, 0x44, 0x55, 0x66]⟩), .ok peripheral⟩]
      (some (.error "invalid UUID: cannot parse `xyz`")) := by
    refine returns_gatt (by decide) ?_
    rw [onConnection, hservice]
    exact .nil _
  cases hall _ _ _ _ peripheral h List.mem_cons_self

end Cli
end Pax
