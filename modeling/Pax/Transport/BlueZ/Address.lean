import Pax.Hci.Spoof
import Pax.Transport.Backend

/-!
# Setting the local address on BlueZ

`BlueZBackend::set_local_address` of `pax-transport/src/bluez.rs`: the adapter's name gives the
controller index, the mgmt power cycle runs on a blocking task, and `bluetoothd` is told to power
the adapter afterwards. That last step is only reached when the power cycle succeeded.

`setLocalAddress_refused_iff` settles when a refused change leaves no trace: exactly when the
controller was off to begin with. What the power cycle itself does is known from `Pax.Hci.Spoof`,
and what is added here is that the backend passes the failure on without a further step
(`run_setLocalAddress_failed`).
-/

namespace Pax
namespace BlueZ

open Hci

/-- Rust's `u16::from_str`: an optional plus sign and at least one decimal digit, in range. -/
def parseU16 (s : String) : Option UInt16 :=
  let digits := if s.toList.head? = some '+' then s.toList.tail else s.toList
  if digits ≠ [] ∧ digits.all Char.isDigit then
    let n := digits.foldl (fun n c => n * 10 + (c.toNat - '0'.toNat)) 0
    if n < 2 ^ 16 then some (UInt16.ofNat n) else none
  else none

/-- The adapter, as far as setting its address goes: its name, and what `bluetoothd` answers when
it is told to power the adapter. -/
structure Adapter where
  name : String
  setPowered : Except String Unit

/-- The HCI index in the name of an adapter, as in `hci0`. A name of another form has none. -/
def Adapter.hciIndex (adapter : Adapter) : Option UInt16 :=
  if "hci".toList <+: adapter.name.toList then parseU16 (adapter.name.drop 3).toString else none

/-- Set the address of the local controller. -/
def setLocalAddress (kernel : Kernel) (adapter : Adapter) (addr : BdAddr) :
    EStateM TransportError MgmtState Unit := fun st =>
  match adapter.hciIndex with
  | none =>
    -- the name is part of a D-Bus object path, so quoting it escapes nothing
    .error (.localAddress
      ("cannot derive an HCI index from adapter name \"" ++ adapter.name ++ "\"")) st
  | some index =>
    -- a blocking task; if it panics, the join fails
    match (spoofPublicAddress kernel index addr).run st with
    | .error .panicked st' => .error (.localAddress "spoof task failed: task panicked") st'
    | .error (.failed e) st' => .error (.localAddress e.display) st'
    | .ok () st' =>
      match adapter.setPowered with
      | .error detail => .error (.backend detail) st'
      | .ok () =>
        -- `set_powered(true)` after the raw sequence, for `bluetoothd` to notice
        .ok () { st' with
          host := Function.update st'.host index ((st'.host index).setPower true) }

/-- A failed power cycle is reported, and `bluetoothd` is not told to power the adapter. -/
theorem run_setLocalAddress_failed {kernel : Kernel} {adapter : Adapter} {index : UInt16}
    (hindex : adapter.hciIndex = some index) {addr : BdAddr} {st st' : MgmtState}
    {e : SetAddressError}
    (hspoof : (spoofPublicAddress kernel index addr).run st = .error (.failed e) st') :
    (setLocalAddress kernel adapter addr).run st = .error (.localAddress e.display) st' := by
  unfold setLocalAddress EStateM.run at *
  rw [hindex]
  dsimp only
  rw [hspoof]

/-- **A refused address change is undone exactly when there is nothing to undo.** For every
controller state, index and address, and every kernel whose power commands succeed and which
refuses the address command: both the mgmt call and the backend's call on top of it fail, and the
controller keeps its power state and address if and only if it was off before. -/
theorem setLocalAddress_refused_iff (kernel : Kernel) (index : UInt16) (addr : BdAddr)
    (st : MgmtState) (hpower : kernel.PowerSucceeds index)
    (hrefused : (kernel.answer (st.sent + 1) (addressBytes index addr)).Refuses
      MGMT_OP_SET_PUBLIC_ADDRESS) :
    ∃ err st', (spoofPublicAddress kernel index addr).run st = .error (.failed err) st' ∧
      (∀ adapter : Adapter, adapter.hciIndex = some index →
        (setLocalAddress kernel adapter addr).run st = .error (.localAddress err.display) st') ∧
      (Unchanged index st st' ↔ (st.host index).powered = false) := by
  obtain ⟨err, hspoof⟩ := run_spoofPublicAddress_refused hpower hrefused
  refine ⟨err, _, hspoof, ?_, unchanged_setPower_false index st _⟩
  intro adapter hindex
  exact run_setLocalAddress_failed hindex hspoof

/-- A controller that is on or off, with nothing staged. All controllers of the host are in this
state. -/
def controllerState (powered : Bool) : MgmtState :=
  { host := fun _ => { powered, address := BdAddr.nil, staged := none }, sent := 0 }

/-- A host whose controllers are on. -/
def poweredState : MgmtState := controllerState true

/-- A refusal on a controller whose driver cannot change its address. It is left off, which is a
change if it was on before, and none if it was off. -/
theorem setLocalAddress_refused_iff_notSupported :
    (∃ err st', (setLocalAddress notSupportedKernel ⟨"hci0", .ok ()⟩ BdAddr.nil).run poweredState
        = .error (.localAddress err) st' ∧ ¬ Unchanged 0 poweredState st') ∧
      ∃ err st', (setLocalAddress notSupportedKernel ⟨"hci0", .ok ()⟩ BdAddr.nil).run
          (controllerState false) = .error (.localAddress err) st' ∧
        Unchanged 0 (controllerState false) st' := by
  have hindex : (⟨"hci0", .ok ()⟩ : Adapter).hciIndex = some 0 := rfl
  -- Once with the controller powered, which the refusal leaves down, and once with it down before.
  constructor
  · obtain ⟨err, st', -, hset, hiff⟩ := setLocalAddress_refused_iff notSupportedKernel 0 BdAddr.nil
      poweredState (powerSucceeds_notSupportedKernel 0) (refuses_notSupportedKernel _ 0 _)
    exact ⟨err.display, st', hset _ hindex, fun h => Bool.noConfusion (hiff.mp h)⟩
  · obtain ⟨err, st', -, hset, hiff⟩ := setLocalAddress_refused_iff notSupportedKernel 0 BdAddr.nil
      (controllerState false) (powerSucceeds_notSupportedKernel 0)
      (refuses_notSupportedKernel _ 0 _)
    exact ⟨err.display, st', hset _ hindex, hiff.mpr rfl⟩

/-- A powered controller whose driver cannot change its address is left off by the attempt, though
every power command would have succeeded. -/
theorem refused_change_powers_off :
    notSupportedKernel.PowerSucceeds 0 ∧
      (notSupportedKernel.answer 1 (addressBytes 0 BdAddr.nil)).Refuses
        MGMT_OP_SET_PUBLIC_ADDRESS ∧
      ∃ err st', (setLocalAddress notSupportedKernel ⟨"hci0", .ok ()⟩ BdAddr.nil).run poweredState
          = .error err st' ∧
        (poweredState.host 0).powered = true ∧ (st'.host 0).powered = false ∧
        ¬ Unchanged 0 poweredState st' := by
  have hpower := powerSucceeds_notSupportedKernel 0
  have hrefused := refuses_notSupportedKernel 1 0 BdAddr.nil
  have hindex : (⟨"hci0", .ok ()⟩ : Adapter).hciIndex = some 0 := rfl
  -- off, refused, and never on again
  have hoff : ∃ err, (spoofPublicAddress notSupportedKernel 0 BdAddr.nil).run poweredState
      = .error (.failed err)
        { host := Function.update poweredState.host 0 ((poweredState.host 0).setPower false)
          sent := 2 } := run_spoofPublicAddress_refused hpower hrefused
  obtain ⟨err, hspoof⟩ := hoff
  refine ⟨hpower, hrefused, .localAddress err.display, _,
    run_setLocalAddress_failed hindex hspoof, rfl, rfl, ?_⟩
  rw [unchanged_setPower_false]
  exact Bool.noConfusion

end BlueZ
end Pax
