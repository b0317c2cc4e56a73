import Pax.Cli.Gatt

/-!
# The course of a gatt command

What a run of `gatt` has called, from its end (`gatt_course`). A run that succeeds has connected,
and has then made the calls of its operation and no others (`Course`). A run that fails has called
nothing, or has not been connected, or has made the call of its operation at most, which was not
served (`Fails`).

The course of a subscription has the notifications that were received, each with the line that
prints it, and the end of the stream or of the count (`Over`). The lemmas follow the command from
its last call to its first: the disconnect, the operations on a connection (`onConnection_course`),
and the connection.
-/

namespace Pax
namespace Cli

open Program (Returns)

/-- The line that prints a notification: its characteristic and its bytes. -/
def notificationLine (n : Uuid × List UInt8) : String := n.1.display ++ " = " ++ debugBytes n.2

def service : GattOp → String
  | .read _ service _ => service
  | .write _ service _ _ => service
  | .subscribe _ service _ _ => service

def characteristic : GattOp → String
  | .read _ _ characteristic => characteristic
  | .write _ _ characteristic _ => characteristic
  | .subscribe _ _ characteristic _ => characteristic

/-- The exchange is quiet: nothing was done to a characteristic, and nothing was printed. -/
def quiet : Exchange gattCalls → Bool
  | ⟨.gattRead .., .ok _⟩ => false
  | ⟨.gattWrite .., .ok _⟩ => false
  | ⟨.gattSubscribe .., .ok _⟩ => false
  | ⟨.println _, _⟩ => false
  | _ => true

/-- The exchanges of one notification: it is received, and printed. -/
def noted (n : Uuid × List UInt8) : List (Exchange gattCalls) :=
  [⟨.next, some n⟩, ⟨.println (notificationLine n), ()⟩]

/-- The exchanges of a subscription: the call, the notifications, what ends them, and the
disconnect. -/
def subscription (conn : Connection) (service characteristic : Uuid)
    (notes : List (Uuid × List UInt8)) (rest : List (Exchange gattCalls))
    (reply : Except TransportError Unit) : List (Exchange gattCalls) :=
  ⟨.gattSubscribe conn service characteristic, .ok ()⟩ ::
    (notes.flatMap noted ++ rest ++ [⟨.disconnect conn, reply⟩])

/-- The notifications are as many as were asked for, or there are no more. -/
def Over (left : ℕ) (notes : List (Uuid × List UInt8)) (rest : List (Exchange gattCalls)) : Prop :=
  rest = [] ∧ notes.length = left ∨ rest = [⟨.next, none⟩] ∧ notes.length < left

/-- What was called on the connection, if the operation was done. -/
def Course (conn : Connection) (service characteristic : Uuid) (cs : List (Exchange gattCalls)) :
    GattOp → Prop
  | .read _ _ name => ∃ value reply, cs = [⟨.gattRead conn service characteristic, .ok value⟩,
    ⟨.println (name ++ " = " ++ debugBytes value), ()⟩, ⟨.disconnect conn, reply⟩]
  | .write _ _ _ hex => ∃ data reply, parseHex hex = some (.ok data) ∧
    cs = [⟨.gattWrite conn service characteristic data true, .ok ()⟩,
      ⟨.println ("wrote " ++ toString data.length ++ " byte(s)"), ()⟩, ⟨.disconnect conn, reply⟩]
  | .subscribe _ _ _ count => ∃ notes rest reply, Over (max count 1) notes rest ∧
    cs = subscription conn service characteristic notes rest reply

/-- The call of the operation, if the backend does not serve it. -/
def Refusal (conn : Connection) (service characteristic : Uuid) (c : Exchange gattCalls) :
    GattOp → Prop
  | .read .. => ∃ e, c = ⟨.gattRead conn service characteristic, .error e⟩
  | .write _ _ _ hex => ∃ data e, parseHex hex = some (.ok data) ∧
    c = ⟨.gattWrite conn service characteristic data true, .error e⟩
  | .subscribe .. => ∃ e, c = ⟨.gattSubscribe conn service characteristic, .error e⟩

/-- What was called on the connection, if the operation was not done. -/
def Refused (conn : Connection) (cs : List (Exchange gattCalls)) (op : GattOp) : Prop :=
  cs = [] ∨ ∃ service' characteristic' c, parseUuid (service op) = some (.ok service') ∧
    parseUuid (characteristic op) = some (.ok characteristic') ∧
    Refusal conn service' characteristic' c op ∧ cs = [c]

/-- What was called in a run that fails: nothing, a `connect` that was refused, or the one call
of the operation, refused as well. -/
def Fails (op : GattOp) (cs : List (Exchange gattCalls)) : Prop :=
  cs = [] ∨ ∃ target, DeviceId.fromStr op.addr = .ok target ∧
    ((∃ e, cs = [⟨.connect target, .error e⟩]) ∨
      ∃ conn cs', cs = ⟨.connect target, .ok conn⟩ :: cs' ∧ Refused conn cs' op)

variable {α : Type} {conn : Connection} {op : GattOp} {cs : List (Exchange gattCalls)}
  {r : Except String Unit}

/-- A text that is not read ends the run, before any further call. -/
theorem returns_orReturn {parsed : Option (Except String α)} {body : α → Gatt}
    (h : Returns (orReturn parsed body) cs (some r)) :
    (cs = [] ∧ ∃ e, r = .error e) ∨ ∃ a, parsed = some (.ok a) ∧ Returns (body a) cs (some r) := by
  unfold orReturn at h
  rcases parsed with _ | e | a
  · cases (Program.returns_done.mp h).2
  · obtain ⟨rfl, hr⟩ := Program.returns_done.mp h
    obtain rfl := Option.some.inj hr
    exact .inl ⟨rfl, e, rfl⟩
  · exact .inr ⟨a, rfl, h⟩

theorem returns_attempt {operation : Program gattCalls (Except TransportError α)} {body : α → Gatt}
    (h : Returns (attempt operation body) cs (some r)) :
    (∃ e, Returns operation cs (.error e) ∧ r = .error e.display) ∨
      ∃ a cs₁ cs₂, cs = cs₁ ++ cs₂ ∧ Returns operation cs₁ (.ok a) ∧
        Returns (body a) cs₂ (some r) := by
  obtain ⟨cs₁, result, cs₂, rfl, hfirst, hrest⟩ := Program.returns_bind.mp h
  cases result with
  | error e =>
    obtain ⟨rfl, hr⟩ := Program.returns_done.mp hrest
    rw [List.append_nil]
    exact .inl ⟨e, hfirst, Option.some.inj hr⟩
  | ok a => exact .inr ⟨a, cs₁, cs₂, rfl, hfirst, hrest⟩

/-- The last call of a run that succeeds is the disconnect, whatever the reply to it is. -/
theorem returns_disconnectAndReturn (h : Returns (disconnectAndReturn conn) cs (some r)) :
    r = .ok () ∧ ∃ reply, cs = [⟨.disconnect conn, reply⟩] := by
  obtain ⟨reply, cs', rfl, hend⟩ := Program.returns_call_bind h
  obtain ⟨rfl, hr⟩ := Program.returns_done.mp hend
  exact ⟨Option.some.inj hr, reply, rfl⟩

/-- The notifications are printed, until there are enough or no more. -/
theorem returns_printNotifications {left : ℕ} {u : Unit}
    (h : Returns (printNotifications left) cs u) :
    ∃ notes rest, cs = notes.flatMap noted ++ rest ∧ Over left notes rest := by
  -- On the notifications that are still wanted; the stream may end before.
  induction left generalizing cs with
  | zero =>
    obtain ⟨rfl, -⟩ := Program.returns_done.mp h
    exact ⟨[], [], rfl, .inl ⟨rfl, rfl⟩⟩
  | succ left ih =>
    obtain ⟨notification, cs', rfl, hrest⟩ := Program.returns_call_bind h
    rcases notification with _ | n
    · obtain ⟨rfl, -⟩ := Program.returns_done.mp hrest
      exact ⟨[], _, rfl, .inr ⟨rfl, Nat.succ_pos left⟩⟩
    · obtain ⟨u, cs'', rfl, hmore⟩ := Program.returns_call_bind hrest
      obtain ⟨notes, rest, rfl, hover⟩ := ih hmore
      refine ⟨n :: notes, rest, rfl, hover.imp (And.imp_right ?_) (And.imp_right ?_)⟩
      · exact congrArg (· + 1)
      · exact Nat.succ_lt_succ

/-- Both UUIDs are read, or the run fails without any further call. -/
theorem returns_uuids {service characteristic : String} {body : Uuid → Uuid → Gatt}
    (h : Returns (orReturn (parseUuid service) fun service' =>
      orReturn (parseUuid characteristic) fun characteristic' => body service' characteristic') cs
      (some r)) : (cs = [] ∧ ∃ e, r = .error e) ∨ ∃ service' characteristic',
        parseUuid service = some (.ok service') ∧
        parseUuid characteristic = some (.ok characteristic') ∧
        Returns (body service' characteristic') cs (some r) := by
  rcases returns_orReturn h with hfails | ⟨service', hservice, hrest⟩
  · exact .inl hfails
  rcases returns_orReturn hrest with hfails | ⟨characteristic', hcharacteristic, hbody⟩
  · exact .inl hfails
  exact .inr ⟨service', characteristic', hservice, hcharacteristic, hbody⟩

/-- **What is called on the connection**: the operation was refused, or this is its whole course. -/
theorem onConnection_course (h : Returns (onConnection conn op) cs (some r)) :
    ((∃ e, r = .error e) ∧ Refused conn cs op) ∨ r = .ok () ∧ ∃ service' characteristic',
      parseUuid (service op) = some (.ok service') ∧
      parseUuid (characteristic op) = some (.ok characteristic') ∧
      Course conn service' characteristic' cs op := by
  -- The texts may not parse, the call may fail, or it is printed and the link let go.
  cases op with
  | read addr service characteristic =>
    rcases returns_uuids h with
      ⟨rfl, herror⟩ | ⟨service', characteristic', hservice, hcharacteristic, hop⟩
    · exact .inl ⟨herror, .inl rfl⟩
    rcases returns_attempt hop with ⟨e, hcall, rfl⟩ | ⟨value, cs₁, cs₂, rfl, hcall, hrest⟩
    · obtain rfl := Program.returns_call.mp hcall
      exact .inl ⟨⟨_, rfl⟩, .inr ⟨service', characteristic', _, hservice, hcharacteristic,
        ⟨e, rfl⟩, rfl⟩⟩
    · obtain rfl := Program.returns_call.mp hcall
      obtain ⟨u, cs₃, rfl, hend⟩ := Program.returns_call_bind hrest
      obtain ⟨rfl, reply, rfl⟩ := returns_disconnectAndReturn hend
      exact .inr ⟨rfl, service', characteristic', hservice, hcharacteristic, value, reply, rfl⟩
  | write addr service characteristic hex =>
    rcases returns_orReturn h with ⟨rfl, herror⟩ | ⟨data, hdata, htexts⟩
    · exact .inl ⟨herror, .inl rfl⟩
    rcases returns_uuids htexts with
      ⟨rfl, herror⟩ | ⟨service', characteristic', hservice, hcharacteristic, hop⟩
    · exact .inl ⟨herror, .inl rfl⟩
    rcases returns_attempt hop with ⟨e, hcall, rfl⟩ | ⟨u, cs₁, cs₂, rfl, hcall, hrest⟩
    · obtain rfl := Program.returns_call.mp hcall
      exact .inl ⟨⟨_, rfl⟩, .inr ⟨service', characteristic', _, hservice, hcharacteristic,
        ⟨data, e, hdata, rfl⟩, rfl⟩⟩
    · obtain rfl := Program.returns_call.mp hcall
      obtain ⟨u', cs₃, rfl, hend⟩ := Program.returns_call_bind hrest
      obtain ⟨rfl, reply, rfl⟩ := returns_disconnectAndReturn hend
      exact .inr
        ⟨rfl, service', characteristic', hservice, hcharacteristic, data, reply, hdata, rfl⟩
  | subscribe addr service characteristic count =>
    rcases returns_uuids h with
      ⟨rfl, herror⟩ | ⟨service', characteristic', hservice, hcharacteristic, hop⟩
    · exact .inl ⟨herror, .inl rfl⟩
    rcases returns_attempt hop with ⟨e, hcall, rfl⟩ | ⟨u, cs₁, cs₂, rfl, hcall, hrest⟩
    · obtain rfl := Program.returns_call.mp hcall
      exact .inl ⟨⟨_, rfl⟩, .inr ⟨service', characteristic', _, hservice, hcharacteristic,
        ⟨e, rfl⟩, rfl⟩⟩
    · obtain rfl := Program.returns_call.mp hcall
      obtain ⟨cs₃, u', cs₄, rfl, hnotes, hend⟩ := Program.returns_bind.mp hrest
      obtain ⟨rfl, reply, rfl⟩ := returns_disconnectAndReturn hend
      obtain ⟨notes, rest, rfl, hover⟩ := returns_printNotifications hnotes
      exact .inr ⟨rfl, service', characteristic', hservice, hcharacteristic, notes, rest, reply,
        hover, rfl⟩

/-- **The course of a gatt command**: what was called in a run that fails, and in one that
succeeds. -/
theorem gatt_course (h : Returns (gatt op) cs (some r)) :
    ((∃ e, r = .error e) ∧ Fails op cs) ∨ r = .ok () ∧ ∃ target conn service' characteristic' cs',
      DeviceId.fromStr op.addr = .ok target ∧ parseUuid (service op) = some (.ok service') ∧
      parseUuid (characteristic op) = some (.ok characteristic') ∧
      cs = ⟨.connect target, .ok conn⟩ :: cs' ∧ Course conn service' characteristic' cs' op := by
  rcases returns_orReturn h with ⟨rfl, herror⟩ | ⟨target, hparsed, hconnect⟩
  · exact .inl ⟨herror, .inl rfl⟩
  have haddr : DeviceId.fromStr op.addr = .ok target := by
    cases hid : DeviceId.fromStr op.addr with
    | error e =>
      rw [hid] at hparsed
      cases hparsed
    | ok id =>
      rw [hid] at hparsed
      cases hparsed
      rfl
  rcases returns_attempt hconnect with ⟨e, hcall, rfl⟩ | ⟨conn, cs₁, cs₂, rfl, hcall, hrest⟩
  · obtain rfl := Program.returns_call.mp hcall
    exact .inl ⟨⟨_, rfl⟩, .inr ⟨target, haddr, .inl ⟨e, rfl⟩⟩⟩
  · obtain rfl := Program.returns_call.mp hcall
    rcases onConnection_course hrest with
      ⟨herror, hrefused⟩ | ⟨rfl, service', characteristic', hservice, hcharacteristic, hcourse⟩
    · exact .inl ⟨herror, .inr ⟨target, haddr, .inr ⟨conn, cs₂, rfl, hrefused⟩⟩⟩
    · exact .inr ⟨rfl, target, conn, service', characteristic', cs₂, haddr, hservice,
        hcharacteristic, rfl, hcourse⟩

end Cli
end Pax
