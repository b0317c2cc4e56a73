import Pax.Cli.GattCourse
import Pax.Framework.Layer
import Pax.Transport.BtleplugActs

/-!
# The gatt command on the radio

A client of the backend, with `BtleplugBackend` under it, down to what the radio is told. Whatever
the client is, and whatever the radio answers, the observer is told of the changes of links that
there were, in order (`events_mirror_links`).

For the gatt command the two ends are compared: what is done to a characteristic, and printed, is
what the texts of the command line say (`Reaches`). A run that fails prints nothing, and does
nothing to a characteristic either, but for one way in which a subscription may fail after the
characteristic was subscribed to (`Remains`, `gatt_on_radio`).

Three layers are put together: the course of the command in terms of its calls
(`Pax.Cli.GattCourse`), what each call does on the radio (`Pax.Transport.BtleplugActs`), and the
rules for a program that is run by means of another one (`Layered`, `Pax.Framework.Layer`).
-/

namespace Pax
namespace Cli

open Program (Returns Path Layered)
open Btleplug (RadioCall radio Act Shows Resolved Silent Unheard acts lines)

/-- The notifications of a subscription that were not received yet. -/
abbrev Pending := List (Uuid × List UInt8)

/-- The calls of a client, as the backend carries them out on the radio; the state is the
notifications that are still to come. -/
def onRadio (backend : RealBackend) :
    (c : GattCall) → Pending → Program radio (c.Reply × Pending)
  | .connect target, pending => do
    let connected ← Btleplug.connect backend target
    return (connected, pending)
  | .gattRead conn service characteristic, pending => do
    let value ← Btleplug.gattRead conn service characteristic
    return (value, pending)
  | .gattWrite conn service characteristic data withResponse, pending => do
    let written ← Btleplug.gattWrite conn service characteristic data withResponse
    return (written, pending)
  | .gattSubscribe conn service characteristic, pending => do
    match ← Btleplug.gattSubscribe conn service characteristic with
    | .error e => return (.error e, pending)
    | .ok notifications => return (.ok (), notifications)
  | .next, [] => return (none, [])
  | .next, n :: pending => return (some n, pending)
  | .println line, pending => do
    Btleplug.call (.println line)
    return ((), pending)
  | .disconnect conn, pending => do
    let disconnected ← Btleplug.disconnect backend conn
    return (disconnected, pending)

/-! ### What the observer is told -/

section Mirror

open Btleplug (watch Watch)

variable {backend : RealBackend} {α : Type}

theorem conforms_onRadio (c : GattCall) (pending : Pending) (w : Watch) (h : w.Free) :
    (onRadio backend c pending).Conforms watch (fun _ w' => w'.Free) w := by
  -- Every call keeps the order in which the radio is to be used; only a subscription makes two.
  cases c with
  | connect target =>
    exact Program.conforms_bind.mpr (Btleplug.conforms_connect backend target h)
  | gattRead conn service characteristic =>
    refine Program.conforms_bind.mpr (Btleplug.conforms_onCharacteristic ?_ h)
    exact fun p chr w hfree value => ⟨_, Btleplug.next_of_free hfree rfl, rfl⟩
  | gattWrite conn service characteristic data withResponse =>
    refine Program.conforms_bind.mpr (Btleplug.conforms_onCharacteristic ?_ h)
    exact fun p chr w hfree written => ⟨_, Btleplug.next_of_free hfree rfl, rfl⟩
  | gattSubscribe conn service characteristic =>
    have hsubscribe : (Btleplug.gattSubscribe conn service characteristic).Conforms watch
        (fun _ w' => w'.Free) w := by
      refine Btleplug.conforms_onCharacteristic (fun p chr w hfree reply => ?_) h
      rcases reply with e | ⟨⟩
      · exact ⟨_, Btleplug.next_of_free hfree rfl, rfl⟩
      refine ⟨_, Btleplug.next_of_free hfree rfl, fun reply => ?_⟩
      rcases reply with e | stream
      · exact ⟨_, Btleplug.next_of_free rfl rfl, rfl⟩
      · exact ⟨_, Btleplug.next_of_free rfl rfl, rfl⟩
    refine Program.conforms_bind.mpr (hsubscribe.mono fun subscribed w' hfree => ?_)
    cases subscribed <;> exact hfree
  | next => cases pending <;> exact h
  | println line => exact fun u => ⟨_, Btleplug.next_of_free h rfl, rfl⟩
  | disconnect conn =>
    exact Program.conforms_bind.mpr (Btleplug.conforms_disconnect backend conn h)

end Mirror

/-! ### From the command line to the radio -/

section EndToEnd

variable {backend : RealBackend} {pending pending' : Pending} {es : List (Exchange radio)}

/-- A call that is answered from what was received takes no exchange. -/
theorem returns_next {reply : Option (Uuid × List UInt8)}
    (h : Returns (onRadio backend .next pending) es (reply, pending')) :
    es = [] ∧ reply = pending.head? ∧ pending' = pending.tail := by
  cases pending with
  | nil =>
    obtain ⟨rfl, heq⟩ := Program.returns_done.mp h
    obtain ⟨rfl, rfl⟩ := Prod.mk.inj heq
    exact ⟨rfl, rfl, rfl⟩
  | cons n pending =>
    obtain ⟨rfl, heq⟩ := Program.returns_done.mp h
    obtain ⟨rfl, rfl⟩ := Prod.mk.inj heq
    exact ⟨rfl, rfl, rfl⟩

theorem returns_println {line : String} {u : Unit}
    (h : Returns (onRadio backend (.println line) pending) es (u, pending')) :
    acts es = [] ∧ lines es = [line] ∧ pending' = pending := by
  obtain ⟨u', es', rfl, hend⟩ := Program.returns_call_bind h
  obtain ⟨rfl, heq⟩ := Program.returns_done.mp hend
  obtain ⟨rfl, rfl⟩ := Prod.mk.inj heq
  exact ⟨rfl, rfl, rfl⟩

/-- The backend's operation, for a call that keeps what was received. -/
theorem returns_kept {α : Type} {operation : Program radio α} {a : α}
    (h : Returns (do
      let a ← operation
      return (a, pending)) es (a, pending')) : Returns operation es a ∧ pending' = pending := by
  obtain ⟨es₁, a', es₂, rfl, hoperation, hend⟩ := Program.returns_bind.mp h
  obtain ⟨rfl, heq⟩ := Program.returns_done.mp hend
  obtain ⟨rfl, rfl⟩ := Prod.mk.inj heq
  rw [List.append_nil]
  exact ⟨hoperation, rfl⟩

/-- A subscription that is served leaves the notifications to be received. -/
theorem returns_subscribe {conn : Connection} {service characteristic : Uuid}
    {reply : Except TransportError Unit}
    (h : Returns (onRadio backend (.gattSubscribe conn service characteristic) pending) es
      (reply, pending')) :
    (∃ e, reply = .error e ∧ pending' = pending ∧
      Returns (Btleplug.gattSubscribe conn service characteristic) es (.error e)) ∨
      reply = .ok () ∧
        Returns (Btleplug.gattSubscribe conn service characteristic) es (.ok pending') := by
  obtain ⟨es₁, subscribed, es₂, rfl, hsubscribe, hend⟩ := Program.returns_bind.mp h
  cases subscribed with
  | error e =>
    obtain ⟨rfl, heq⟩ := Program.returns_done.mp hend
    obtain ⟨rfl, rfl⟩ := Prod.mk.inj heq
    rw [List.append_nil]
    exact .inl ⟨e, rfl, rfl, hsubscribe⟩
  | ok notifications =>
    obtain ⟨rfl, heq⟩ := Program.returns_done.mp hend
    obtain ⟨rfl, rfl⟩ := Prod.mk.inj heq
    rw [List.append_nil]
    exact .inr ⟨rfl, hsubscribe⟩

/-- A quiet call that is no subscription: what a subscription does before it fails is seen. -/
def unseen : Exchange gattCalls → Bool
  | ⟨.gattSubscribe .., _⟩ => false
  | c => quiet c

/-- **An unseen call** is silent: it does nothing to a characteristic, and prints nothing. -/
theorem silent_onRadio {c : GattCall} {reply : c.Reply} (hunseen : unseen ⟨c, reply⟩ = true)
    (h : Returns (onRadio backend c pending) es (reply, pending')) : Silent es := by
  -- What does not reach a characteristic is refused on the way to it, without a line.
  cases c with
  | connect target => exact (Btleplug.returns_connect (returns_kept h).1).1
  | gattRead conn service characteristic =>
    rcases Btleplug.returns_gattRead (returns_kept h).1 with
      ⟨hsilent, -⟩ | ⟨value, p, chr, rfl, -⟩
    · exact hsilent
    · cases hunseen
  | gattWrite conn service characteristic data withResponse =>
    rcases Btleplug.returns_gattWrite (returns_kept h).1 with ⟨hsilent, -⟩ | ⟨p, chr, rfl, -⟩
    · exact hsilent
    · cases hunseen
  | gattSubscribe conn service characteristic => cases hunseen
  | next =>
    obtain ⟨rfl, -⟩ := returns_next h
    exact Btleplug.silent_nil
  | println line => cases hunseen
  | disconnect conn => exact Btleplug.silent_disconnect (returns_kept h).1

theorem silent_layered {cs : List (Exchange gattCalls)} (hunseen : ∀ c ∈ cs, unseen c = true)
    (h : Layered (onRadio backend) pending cs es pending') : Silent es := by
  induction h with
  | nil => exact Btleplug.silent_nil
  | cons hserved hrest ih =>
    obtain ⟨hfirst, hunseen⟩ := List.forall_mem_cons.mp hunseen
    exact (silent_onRadio hfirst hserved).append (ih hunseen)

/-- **The notifications** are printed as they were received, until there are enough. -/
theorem layered_notes {notes : List (Uuid × List UInt8)} {rest cs : List (Exchange gattCalls)}
    {left : ℕ} (hover : Over left notes rest) (hcs : ∀ c ∈ cs, unseen c = true)
    (h : Layered (onRadio backend) pending (notes.flatMap noted ++ rest ++ cs) es pending') :
    acts es = [] ∧ lines es = (pending.take left).map notificationLine := by
  -- On the notifications: each is taken from the stream and printed.
  induction notes generalizing pending left es with
  | nil =>
    rcases hover with ⟨rfl, rfl⟩ | ⟨rfl, hlt⟩
    · exact silent_layered hcs h
    · obtain ⟨es₁, s, es₂, rfl, hnext, hrest⟩ := h.of_cons
      obtain ⟨rfl, hhead, rfl⟩ := returns_next hnext
      obtain rfl := List.head?_eq_none_iff.mp hhead.symm
      rw [List.take_nil]
      exact silent_layered hcs hrest
  | cons n notes ih =>
    obtain ⟨es₁, s, es', rfl, hnext, hprinting⟩ := Layered.of_cons h
    obtain ⟨rfl, hhead, rfl⟩ := returns_next hnext
    obtain ⟨es₂, s', es₃, rfl, hprint, hrest⟩ := Layered.of_cons hprinting
    obtain ⟨hacts, hlines, rfl⟩ := returns_println hprint
    obtain ⟨left, rfl⟩ : ∃ m, left = m + 1 := by
      refine Nat.exists_eq_add_one.mpr ?_
      rcases hover with ⟨-, heq⟩ | ⟨-, hlt⟩
      · exact heq ▸ Nat.succ_pos _
      · exact Nat.zero_lt_of_lt hlt
    have hover : Over left notes rest :=
      hover.imp (And.imp_right Nat.succ.inj) (And.imp_right Nat.lt_of_succ_lt_succ)
    obtain ⟨pending, rfl⟩ : ∃ tail, pending = n :: tail := by
      obtain ⟨tail, htail⟩ := List.head?_eq_some_iff.mp hhead.symm
      exact ⟨tail, htail⟩
    obtain ⟨hacts', hlines'⟩ := ih hover hrest
    rw [List.nil_append, Btleplug.acts_append, Btleplug.lines_append, hacts, hlines, hacts',
      hlines']
    exact ⟨rfl, rfl⟩

/-- The operation, as it reaches the radio: what is done to the characteristic, and the lines
that are printed. -/
def Reaches (es : List (Exchange radio)) (p : ℕ) (chr : Btleplug.Characteristic) : GattOp → Prop
  | .read _ _ name => ∃ value, acts es = [.read p chr value] ∧
    lines es = [name ++ " = " ++ debugBytes value]
  | .write _ _ _ hex => ∃ data, parseHex hex = some (.ok data) ∧
    acts es = [.write p chr data .withResponse] ∧
    lines es = ["wrote " ++ toString data.length ++ " byte(s)"]
  | .subscribe _ _ _ count => ∃ stream, acts es = [.subscribe p chr, .listen p stream] ∧
    lines es = ((stream.filter fun n => n.1 = chr.uuid).take (max count 1)).map notificationLine

/-- An operation reaches the radio also with silent exchanges before it. -/
theorem Reaches.after {es' : List (Exchange radio)} {p : ℕ} {chr : Btleplug.Characteristic}
    {op : GattOp} (h : Reaches es p chr op) (hsilent : Silent es') :
    Reaches (es' ++ es) p chr op := by
  have hacts : acts (es' ++ es) = acts es := by rw [Btleplug.acts_append, hsilent.1]; rfl
  have hlines : lines (es' ++ es) = lines es := by rw [Btleplug.lines_append, hsilent.2]; rfl
  cases op with
  | read addr service name =>
    obtain ⟨value, hread, hline⟩ := h
    exact ⟨value, hacts.trans hread, hlines.trans hline⟩
  | write addr service name hex =>
    obtain ⟨data, hdata, hwrite, hline⟩ := h
    exact ⟨data, hdata, hacts.trans hwrite, hlines.trans hline⟩
  | subscribe addr service name count =>
    obtain ⟨stream, hlisten, hprinted⟩ := h
    exact ⟨stream, hacts.trans hlisten, hlines.trans hprinted⟩

/-- What a run that has failed may have done to a characteristic. A read or a write has done
nothing. A subscription has done nothing either, unless it failed for want of the notifications
alone: then the characteristic of the command line stays subscribed to. -/
def Remains (es : List (Exchange radio)) : GattOp → Prop
  | .subscribe addr service characteristic _ => acts es = [] ∨
    ∃ target service' characteristic' p chr, DeviceId.fromStr addr = .ok target ∧
      parseUuid service = some (.ok service') ∧
      parseUuid characteristic = some (.ok characteristic') ∧
      Resolved es target.addr service' characteristic' p chr ∧ Unheard es p chr
  | _ => acts es = []

theorem remains_of_silent {op : GattOp} (h : Silent es) : Remains es op := by
  cases op with
  | read | write => exact h.1
  | subscribe => exact .inl h.1

/-- **The calls on a connection** reach the radio, as the operation with the texts that were
read. -/
theorem Course.reaches {op : GattOp} {conn : Connection} {service' characteristic' : Uuid}
    {cs : List (Exchange gattCalls)} (hcourse : Course conn service' characteristic' cs op)
    (h : Layered (onRadio backend) pending cs es pending') :
    ∃ p chr, Resolved es conn.peer.addr service' characteristic' p chr ∧ Reaches es p chr op := by
  -- The call reaches its characteristic, and the rest prints what was found there.
  cases op with
  | read addr service name =>
    obtain ⟨value, reply, rfl⟩ := hcourse
    obtain ⟨es₁, s₁, es', rfl, hread, hrest⟩ := h.of_cons
    obtain ⟨es₂, s₂, es₃, rfl, hprint, hend⟩ := hrest.of_cons
    obtain ⟨hacts, hlines, rfl⟩ := returns_println hprint
    have hsilent := silent_layered (List.forall_mem_singleton.mpr rfl) hend
    rcases Btleplug.returns_gattRead (returns_kept hread).1 with
      ⟨-, e, he⟩ | ⟨value', p, chr, hvalue, hresolved, hdone, hnone⟩
    · cases he
    obtain rfl := Except.ok.inj hvalue
    refine ⟨p, chr, hresolved.mono (List.subset_append_left _ _), value, ?_, ?_⟩
    · rw [Btleplug.acts_append, Btleplug.acts_append, hdone, hacts, hsilent.1]
      rfl
    · rw [Btleplug.lines_append, Btleplug.lines_append, hnone, hlines, hsilent.2]
      rfl
  | write addr service name hex =>
    obtain ⟨data, reply, hdata, rfl⟩ := hcourse
    obtain ⟨es₁, s₁, es', rfl, hwrite, hrest⟩ := h.of_cons
    obtain ⟨es₂, s₂, es₃, rfl, hprint, hend⟩ := hrest.of_cons
    obtain ⟨hacts, hlines, rfl⟩ := returns_println hprint
    have hsilent := silent_layered (List.forall_mem_singleton.mpr rfl) hend
    rcases Btleplug.returns_gattWrite (returns_kept hwrite).1 with
      ⟨-, e, he⟩ | ⟨p, chr, -, hresolved, hdone, hnone⟩
    · cases he
    refine ⟨p, chr, hresolved.mono (List.subset_append_left _ _), data, hdata, ?_, ?_⟩
    · rw [Btleplug.acts_append, Btleplug.acts_append, hdone, hacts, hsilent.1]
      rfl
    · rw [Btleplug.lines_append, Btleplug.lines_append, hnone, hlines, hsilent.2]
      rfl
  | subscribe addr service name count =>
    obtain ⟨notes, rest, reply, hover, rfl⟩ := hcourse
    obtain ⟨es₁, s₁, es₂, rfl, hsubscribe, hnotes⟩ := h.of_cons
    rcases returns_subscribe hsubscribe with ⟨e, he, -⟩ | ⟨-, hgatt⟩
    · cases he
    obtain ⟨hnone, ⟨⟨e, he⟩, -⟩ | ⟨p, chr, stream, hs, hresolved, hlisten⟩⟩ :=
      Btleplug.returns_gattSubscribe hgatt
    · cases he
    obtain rfl := Except.ok.inj hs
    obtain ⟨hacts, hlines⟩ := layered_notes hover (List.forall_mem_singleton.mpr rfl) hnotes
    refine ⟨p, chr, hresolved.mono (List.subset_append_left _ _), stream, ?_, ?_⟩
    · rw [Btleplug.acts_append, hlisten, hacts]
      rfl
    · rw [Btleplug.lines_append, hnone, hlines, hresolved.uuid_eq]
      rfl

/-- **A run that fails**, down to the radio: no lines, and what remains of the operation. -/
theorem Fails.remains {op : GattOp} {cs : List (Exchange gattCalls)} (hfails : Fails op cs)
    (h : Layered (onRadio backend) pending cs es pending') : lines es = [] ∧ Remains es op := by
  have hnothing (hunseen : ∀ c ∈ cs, unseen c = true) : lines es = [] ∧ Remains es op :=
    have hsilent := silent_layered hunseen h
    ⟨hsilent.2, remains_of_silent hsilent⟩
  -- It fails on a text, on the connection, or on the call itself.
  rcases hfails with rfl | ⟨target, haddr, ⟨e, rfl⟩ | ⟨conn, cs', rfl, hrefused⟩⟩
  · exact hnothing fun c hc => absurd hc List.not_mem_nil
  · exact hnothing (List.forall_mem_singleton.mpr rfl)
  rcases hrefused with rfl | ⟨service', characteristic', c, hservice, hcharacteristic, hc, rfl⟩
  · exact hnothing (List.forall_mem_singleton.mpr rfl)
  cases op with
  | read addr service name =>
    obtain ⟨e, rfl⟩ := hc
    exact hnothing (List.forall_mem_cons.mpr ⟨rfl, List.forall_mem_singleton.mpr rfl⟩)
  | write addr service name hex =>
    obtain ⟨data, e, -, rfl⟩ := hc
    exact hnothing (List.forall_mem_cons.mpr ⟨rfl, List.forall_mem_singleton.mpr rfl⟩)
  | subscribe addr service name count =>
    -- the connection is silent, and what comes then is the subscription alone
    obtain ⟨e, rfl⟩ := hc
    obtain ⟨es₁, s₁, es', rfl, hconnect, hrest⟩ := h.of_cons
    obtain ⟨hsilent, hconnected⟩ := Btleplug.returns_connect (returns_kept hconnect).1
    obtain ⟨rfl, -⟩ := hconnected conn rfl
    obtain ⟨es₂, s₂, es₃, rfl, hsubscribe, hend⟩ := hrest.of_cons
    obtain ⟨rfl, -⟩ := hend.of_nil
    rw [List.append_nil]
    rcases returns_subscribe hsubscribe with ⟨e', -, -, hgatt⟩ | ⟨he, -⟩
    · obtain ⟨hnone, ⟨-, hacts⟩ | ⟨p, chr, stream, hs, -⟩⟩ := Btleplug.returns_gattSubscribe hgatt
      · refine ⟨by rw [Btleplug.lines_append, hsilent.2, hnone]; rfl, ?_⟩
        rcases hacts with hacts | ⟨p, chr, hresolved, hunheard⟩
        · exact .inl (by rw [Btleplug.acts_append, hsilent.1, hacts]; rfl)
        · exact .inr ⟨conn.peer, service', characteristic', p, chr, haddr, hservice,
            hcharacteristic, hresolved.mono (List.subset_append_right _ _), hunheard.after hsilent⟩
      · cases hs
    · cases he

/-! ### A heart rate sensor -/

/-- An adapter on which to listen to a sensor. -/
def lowEnergy : RealBackend where
  controller := .virtualModel "btleplug-adapter"
  spec := ⟨.v5_2, .le⟩
  standards _ := .bredrDefault

def sensor : DeviceId := .pub ⟨#v[0, 0, 0, 0, 0, 7]⟩

def heartRate : Uuid := Uuid.fromU16 0x180d

def measurement : Uuid := Uuid.fromU16 0x2a37

/-- The connection to the sensor, as the backend hands it out. -/
def toSensor : Connection where
  peer := sensor
  local' := lowEnergy.controller
  spec := lowEnergy.spec
  standards := .bredrDefault
  token := 0

def sensorShown : Btleplug.PeripheralProperties where
  address := sensor.addr
  addressType := some .pub
  localName := some "Sensor"
  rssi := none

/-- The sensor is the second peripheral, and sends a battery level first. -/
def listening : List (Exchange radio) :=
  [⟨.peripherals, .ok [0, 1]⟩, ⟨.properties 0, .ok none⟩, ⟨.properties 1, .ok (some sensorShown)⟩,
    ⟨.connect 1, .ok ()⟩, ⟨.emit .nextSeq, (0 : UInt64)⟩, ⟨.emit .clock, (⟨5⟩ : Timestamp)⟩,
    ⟨.emit (.onEvent ⟨0, ⟨5⟩, toSensor.origin, .connected⟩), ()⟩,
    ⟨.peripherals, .ok [1]⟩, ⟨.properties 1, .ok (some sensorShown)⟩, ⟨.discoverServices 1, .ok ()⟩,
    ⟨.characteristics 1, [⟨heartRate, measurement⟩]⟩,
    ⟨.subscribe 1 ⟨heartRate, measurement⟩, .ok ()⟩,
    ⟨.notifications 1, .ok [(Uuid.fromU16 0x2a19, [100]), (measurement, [6, 72])]⟩,
    ⟨.println (notificationLine (measurement, [6, 72])), ()⟩, ⟨.peripherals, .error "gone"⟩]

/-- What the command calls in that run. -/
def asked : List (Exchange gattCalls) :=
  [⟨.connect sensor, .ok toSensor⟩, ⟨.gattSubscribe toSensor heartRate measurement, .ok ()⟩,
    ⟨.next, some (measurement, [6, 72])⟩,
    ⟨.println (notificationLine (measurement, [6, 72])), ()⟩,
    ⟨.disconnect toSensor, .error (.backend "gone")⟩]

/-- The same sensor, except that there is no stream of notifications to be had. -/
def deaf : List (Exchange radio) := listening.take 12 ++ [⟨.notifications 1, .error "busy"⟩]

def askedInVain : List (Exchange gattCalls) :=
  [⟨.connect sensor, .ok toSensor⟩,
    ⟨.gattSubscribe toSensor heartRate measurement, .error (.backend "busy")⟩]

/-- The texts of the command line are read as the sensor, the service and the characteristic. -/
theorem sensor_texts : DeviceId.fromStr "00:00:00:00:00:07" = .ok sensor ∧
    parseUuid "180d" = some (.ok heartRate) ∧ parseUuid "2a37" = some (.ok measurement) := by
  decide

/-- The calls on the connection are those of the command. -/
theorem returns_gatt_sensor {cs : List (Exchange gattCalls)} {r : Except String Unit}
    (h : Returns (attempt (Program.call (I := gattCalls)
      (.gattSubscribe toSensor heartRate measurement)) fun _ => do
        printNotifications (max 1 1)
        disconnectAndReturn toSensor) cs (some r)) :
    Returns (gatt (.subscribe "00:00:00:00:00:07" "180d" "2a37" 1))
      (⟨.connect sensor, .ok toSensor⟩ :: cs) (some r) := by
  obtain ⟨haddr, hservice, hcharacteristic⟩ := sensor_texts
  refine returns_gatt (congrArg (Except.mapError CoreError.display) haddr) ?_
  rw [onConnection, hservice, hcharacteristic]
  exact h

theorem returns_onRadio_connect :
    Returns (onRadio lowEnergy (.connect sensor) []) (listening.take 7) (.ok toSensor, []) :=
  .cons _ (.cons _ (.cons _ (.cons _ (.cons _ (.cons _ (.cons _ (.nil _)))))))

theorem returns_listening : Returns ((gatt (.subscribe "00:00:00:00:00:07" "180d" "2a37" 1)).layer
    (onRadio lowEnergy) []) listening (some (.ok ()), []) := by
  have hsubscribe : Returns (onRadio lowEnergy (.gattSubscribe toSensor heartRate measurement) [])
      ((listening.drop 7).take 6) (.ok (), [(measurement, [6, 72])]) :=
    .cons _ (.cons _ (.cons _ (.cons _ (.cons _ (.cons _ (.nil _))))))
  have hprint : Returns (onRadio lowEnergy
      (.println (notificationLine (measurement, [6, 72]))) []) ((listening.drop 13).take 1)
      ((), []) := .cons _ (.nil _)
  have hdisconnect : Returns (onRadio lowEnergy (.disconnect toSensor) []) (listening.drop 14)
      (.error (.backend "gone"), []) := .cons _ (.nil _)
  have hnext : Returns (onRadio lowEnergy .next [(measurement, [6, 72])]) []
      (some (measurement, [6, 72]), []) := .nil _
  have hcalls : Layered (onRadio lowEnergy) [] asked (listening.take 7 ++
      ((listening.drop 7).take 6 ++ ([] ++ ((listening.drop 13).take 1 ++
        (listening.drop 14 ++ []))))) [] :=
    .cons returns_onRadio_connect
      (.cons hsubscribe (.cons hnext (.cons hprint (.cons hdisconnect (.nil _)))))
  have hasked : Returns (gatt (.subscribe "00:00:00:00:00:07" "180d" "2a37" 1)) asked
      (some (.ok ())) := returns_gatt_sensor (.cons _ (.cons _ (.cons _ (.cons _ (.nil _)))))
  exact Program.returns_layer.mpr ⟨asked, hasked, hcalls⟩

theorem returns_deaf : Returns ((gatt (.subscribe "00:00:00:00:00:07" "180d" "2a37" 1)).layer
    (onRadio lowEnergy) []) deaf (some (.error (TransportError.backend "busy").display), []) := by
  have hsubscribe : Returns (onRadio lowEnergy (.gattSubscribe toSensor heartRate measurement) [])
      (deaf.drop 7) (.error (.backend "busy"), []) :=
    .cons _ (.cons _ (.cons _ (.cons _ (.cons _ (.cons _ (.nil _))))))
  have hcalls : Layered (onRadio lowEnergy) [] askedInVain
      (listening.take 7 ++ (deaf.drop 7 ++ [])) [] :=
    .cons returns_onRadio_connect (.cons hsubscribe (.nil _))
  have hasked : Returns (gatt (.subscribe "00:00:00:00:00:07" "180d" "2a37" 1)) askedInVain
      (some (.error (TransportError.backend "busy").display)) :=
    returns_gatt_sensor (.cons _ (.nil _))
  exact Program.returns_layer.mpr ⟨askedInVain, hasked, hcalls⟩

end EndToEnd

/-! ### The two guarantees -/

/-- **The observer is told what happens to the links.** At every point of every run of every client,
whatever the radio answers: the changes that were announced are the changes there were, in order,
but for one that is being announced. A run that is over owes none. -/
theorem events_mirror_links (backend : RealBackend) {α : Type}
    (client : Program gattCalls α) (es : List (Exchange radio)) (q : Program radio (α × Pending))
    (h : Path (client.layer (onRadio backend) []) es q) :
    (Btleplug.announced es <+: Btleplug.linkChanges none es ∧
      (Btleplug.linkChanges none es).length ≤ (Btleplug.announced es).length + 1) ∧
      ∀ r, q = .done r → Btleplug.announced es = Btleplug.linkChanges none es := by
  have hconforms : (client.layer (onRadio backend) []).Conforms Btleplug.watch (fun _ w => w.Free)
      { seen := none, owed := none } :=
    Program.conforms_layer (fun _ (w : Btleplug.Watch) => w.Free) conforms_onRadio client rfl
  obtain ⟨w, hrun, hrest⟩ := hconforms.path h
  have hchanges : Btleplug.linkChanges none es = Btleplug.announced es ++ w.owed.toList :=
    Btleplug.linkChanges_of_run hrun
  rw [hchanges]
  refine ⟨⟨List.prefix_append _ _, ?_⟩, ?_⟩
  · rw [List.length_append]
    exact Nat.add_le_add_left (Option.length_toList_le) _
  · rintro r rfl
    have hfree : w.owed = none := hrest
    rw [hfree]
    exact (List.append_nil _).symm

/-- The run of the sensor: the observer was told of the connection, and that it was closed again. -/
theorem events_mirror_links_sensor :
    Btleplug.announced listening = Btleplug.linkChanges none listening :=
  (events_mirror_links lowEnergy _ listening _ returns_listening).2 _ rfl

/-- **The gatt command on the radio.** Whatever the radio answers: a run that succeeds has connected
to a peripheral that shows the address of the command line, and has done the one operation, to a
characteristic of such a peripheral with the UUIDs of the command line: with the payload of the
command line, or printing what was read, or the notifications of the characteristic as they came, as
many as were asked for. In a run that fails nothing was printed, and nothing was done to a
characteristic, except that the one of the command line may have been subscribed to. -/
theorem gatt_on_radio (backend : RealBackend) (op : GattOp) (es : List (Exchange radio))
    (r : Except String Unit) (pending : Pending)
    (h : Returns ((gatt op).layer (onRadio backend) []) es (some r, pending)) :
    ((∃ e, r = .error e) ∧ lines es = [] ∧ Remains es op) ∨ r = .ok () ∧
      ∃ target service' characteristic' p chr, DeviceId.fromStr op.addr = .ok target ∧
        parseUuid (service op) = some (.ok service') ∧
        parseUuid (characteristic op) = some (.ok characteristic') ∧
        (∃ q, Shows es q target.addr ∧ ⟨.connect q, .ok ()⟩ ∈ es) ∧
        Resolved es target.addr service' characteristic' p chr ∧ Reaches es p chr op := by
  obtain ⟨cs, hgatt, hlayered⟩ := Program.returns_layer.mp h
  rcases gatt_course hgatt with ⟨herror, hfails⟩ |
    ⟨rfl, target, conn, service', characteristic', cs', haddr, hservice, hcharacteristic, rfl,
      hcourse⟩
  · exact .inl ⟨herror, hfails.remains hlayered⟩
  · obtain ⟨es₁, s, es₂, rfl, hconnect, hrest⟩ := hlayered.of_cons
    obtain ⟨hsilent, hconnected⟩ := Btleplug.returns_connect (returns_kept hconnect).1
    obtain ⟨rfl, q, hshows, hq⟩ := hconnected conn rfl
    obtain ⟨p, chr, hresolved, hreaches⟩ := hcourse.reaches hrest
    exact .inr ⟨rfl, conn.peer, service', characteristic', p, chr, haddr, hservice, hcharacteristic,
      ⟨q, hshows.mono (List.subset_append_left _ _), List.mem_append_left _ hq⟩,
      hresolved.mono (List.subset_append_right _ _), hreaches.after hsilent⟩

/-- One notification is printed, and it is that of the characteristic. If there is no stream to be
had, then the command fails, and the characteristic of the sensor stays subscribed to. -/
theorem gatt_on_radio_sensor :
    (∃ p chr, Resolved listening sensor.addr heartRate measurement p chr ∧
      Reaches listening p chr (.subscribe "00:00:00:00:00:07" "180d" "2a37" 1)) ∧
    lines deaf = [] ∧
      ∃ p chr, Resolved deaf sensor.addr heartRate measurement p chr ∧ Unheard deaf p chr := by
  obtain ⟨haddr, hservice, hcharacteristic⟩ := sensor_texts
  constructor
  · rcases gatt_on_radio _ _ _ _ _ returns_listening with
      ⟨⟨e, he⟩, -⟩ | ⟨-, target, s, c, p, chr, htarget, hs, hc, -, hresolved, hreaches⟩
    · cases he
    · obtain rfl := Except.ok.inj (haddr.symm.trans htarget)
      obtain rfl := Except.ok.inj (Option.some.inj (hservice.symm.trans hs))
      obtain rfl := Except.ok.inj (Option.some.inj (hcharacteristic.symm.trans hc))
      exact ⟨p, chr, hresolved, hreaches⟩
  · rcases gatt_on_radio _ _ _ _ _ returns_deaf with ⟨-, hlines, hremains⟩ | ⟨he, -⟩
    · refine ⟨hlines, ?_⟩
      rcases hremains with hnone | ⟨target, s, c, p, chr, htarget, hs, hc, hresolved, hunheard⟩
      · cases hnone
      · obtain rfl := Except.ok.inj (haddr.symm.trans htarget)
        obtain rfl := Except.ok.inj (Option.some.inj (hservice.symm.trans hs))
        obtain rfl := Except.ok.inj (Option.some.inj (hcharacteristic.symm.trans hc))
        exact ⟨p, chr, hresolved, hunheard⟩
    · cases he

end Cli
end Pax
