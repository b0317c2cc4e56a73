import Pax.Pairing.Determined
import Pax.Transport.Mock.Ledger
import Pax.Transport.Mock.Secrecy

/-!
# What comes of pairing with the mock

With an agent that answers by the prompt alone, the scripts of the devices say what comes of every
pairing: who bonds, what each call returns, and how often it was tried. It does not matter what else
goes on, in which order, or how many calls of a batch are in progress (`pairing_determined`).

The ready-made agents are such: one bonds whatever does not fail, one that knows a PIN bonds all but
those that ask for a passkey, and one bonds nothing.

The proof goes call by call. `ensures_pair` and its like say what an operation does if its prompts
are answered by the policy; `ensures_runCall` says the same of every call of a session, the
workflows and uploads included; and a session is composed of its calls.
-/

namespace Pax
namespace MockBackend

open Pairing (Entered Determined itemOf)
open Program (Returns)

variable {backend : MockBackend} {devices : List MockDevice}
  {policy : PairingRequest → PairingResponse} {es : List (Exchange mockSteps)}

/-! ### Attempts -/

/-- What comes of an attempt with the device, by its script and by what the policy says to its
prompt. -/
def outcomeOf (policy : PairingRequest → PairingResponse) (device : MockDevice) :
    Except TransportError Unit :=
  if (policy (requestFor device.pairingMethod)).IsRefusal then .error (.pairingRejected declined)
  else
    match device.pairingFailure with
    | some reason => .error (.pairingFailed reason)
    | none => .ok ()

/-- What comes of `pair`: an attempt with the first device of that id, if there is one. -/
def verdict (devices : List MockDevice) (policy : PairingRequest → PairingResponse)
    (target : DeviceId) : Except TransportError PairingOutcome :=
  match scripted devices target with
  | none => .error (.deviceNotFound target)
  | some device => (outcomeOf policy device).map fun _ => .ofBond device.pairingMethod

/-- The devices that bond in a pairing window. -/
def accepted (backend : MockBackend) (policy : PairingRequest → PairingResponse)
    (opts : InboundPairing) : List DeviceId :=
  ((backend.tried opts).filter fun device => (outcomeOf policy device).isOk).map
    fun device => device.info.id

/-- Devices are found as they were scripted, and prompts are answered by the policy. -/
def Answered (devices : List MockDevice) (policy : PairingRequest → PairingResponse) :
    Exchange mockSteps → Prop
  | ⟨.lookup id, found⟩ => Option.map script found = (scripted devices id).map script
  | ⟨.respond _ request, response⟩ => response = policy request
  | _ => True

/-- The step enters the device into the paired set. -/
def enters (e : Exchange mockSteps) (id : DeviceId) : Prop := e = ⟨.insertPaired id, ()⟩

theorem entered_iff {id : DeviceId} : Entered enters es id ↔ id ∈ enteredIds es := by
  rw [mem_enteredIds]
  constructor
  · rintro ⟨e, he, rfl⟩
    exact he
  · intro h
    exact ⟨_, h, rfl⟩

theorem Attempt.eq_outcomeOf {device : MockDevice} {target : DeviceId}
    {r : Except TransportError Unit} (h : Attempt backend device target es r)
    (hok : ∀ e ∈ es, Answered devices policy e) : r = outcomeOf policy device := by
  have hresponse (response : PairingResponse)
      (hmem : (⟨.respond device (requestFor device.pairingMethod), response⟩ : Exchange mockSteps)
        ∈ es) : response = policy (requestFor device.pairingMethod) :=
    hok _ hmem
  -- The one prompt was answered by the policy, which decides between the three ways.
  cases h with
  | @declined response started failed hrefusal =>
    rw [outcomeOf, ← hresponse response (by simp), if_pos hrefusal]
  | @failed response reason started failed haccepted hreason =>
    rw [outcomeOf, ← hresponse response (by simp), if_neg haccepted, hreason]
  | @completed response started completed haccepted hnone =>
    rw [outcomeOf, ← hresponse response (by simp), if_neg haccepted, hnone]

theorem ensures_pairDevice (device : MockDevice) (target : DeviceId) :
    (backend.pairDevice device target).Ensures (Answered devices policy) fun es r =>
      r = outcomeOf policy device ∧
        ∀ id, Entered enters es id ↔ id = target ∧ (outcomeOf policy device).isOk := by
  intro es r hreturns hok
  have hattempt := returns_pairDevice hreturns
  obtain rfl := hattempt.eq_outcomeOf hok
  exact ⟨rfl, fun id => entered_iff.trans hattempt.mem_enteredIds⟩

theorem ensures_pair (target : DeviceId) :
    (backend.pair target).Ensures (Answered devices policy) fun es r =>
      r = verdict devices policy target ∧
        ∀ id, Entered enters es id ↔ id = target ∧ (verdict devices policy target).isOk := by
  refine Program.Ensures.ask fun found hfound => ?_
  have hscripts : Option.map script found = (scripted devices target).map script := hfound
  have hlookup {es : List (Exchange mockSteps)} {id : DeviceId} :
      Entered enters (⟨.lookup target, found⟩ :: es) id ↔ Entered enters es id := by
    rw [entered_iff, entered_iff]
    rfl
  -- The device that is found has the script of the one that was given, or there is none.
  cases found with
  | none =>
    have hnone : scripted devices target = none := Option.map_eq_none_iff.mp hscripts.symm
    rw [verdict, hnone]
    refine .done ⟨rfl, fun id => ?_⟩
    rw [hlookup]
    exact iff_of_false Pairing.not_entered_nil fun h => Bool.false_ne_true h.2
  | some device =>
    obtain ⟨device₀, hscripted, hscript⟩ := Option.map_eq_some_iff.mp hscripts.symm
    have houtcome : verdict devices policy target
        = (outcomeOf policy device).map fun _ => .ofBond device.pairingMethod := by
      rw [verdict, hscripted, eq_of_script hscript]
      rfl
    rw [houtcome]
    refine (ensures_pairDevice device target).bind fun es r => ?_
    rintro ⟨rfl, hentered⟩
    cases hresult : outcomeOf policy device with
    | error e =>
      refine .done ⟨rfl, fun id => ?_⟩
      rw [List.append_nil, hlookup, hentered, hresult]
      rfl
    | ok u =>
      refine .done ⟨rfl, fun id => ?_⟩
      rw [List.append_nil, hlookup, hentered, hresult]
      rfl

theorem ensures_acceptFrom (tried : List MockDevice) (bonded : List DeviceId) :
    (backend.acceptFrom tried bonded).Ensures (Answered devices policy) fun es out =>
      out = bonded ++ (tried.filter fun device => (outcomeOf policy device).isOk).map
          (fun device => device.info.id) ∧
        ∀ id, Entered enters es id ↔ ∃ device ∈ tried, device.info.id = id ∧
          (outcomeOf policy device).isOk := by
  -- On the devices to be tried, for any list of those that have bonded already.
  induction tried generalizing bonded with
  | nil =>
    refine .done ⟨(List.append_nil _).symm, fun id => ?_⟩
    exact iff_of_false Pairing.not_entered_nil (by simp)
  | cons device tried ih =>
    refine (ensures_pairDevice device device.info.id).bind fun es r => ?_
    rintro ⟨rfl, hentered⟩
    have hiff {es' : List (Exchange mockSteps)} {id : DeviceId}
        (hrest : Entered enters es' id ↔ ∃ device ∈ tried, device.info.id = id ∧
          (outcomeOf policy device).isOk) :
        Entered enters (es ++ es') id ↔ ∃ device' ∈ device :: tried, device'.info.id = id ∧
          (outcomeOf policy device').isOk := by
      rw [Pairing.entered_append, hentered, hrest, List.exists_mem_cons_iff, eq_comm]
    cases hresult : outcomeOf policy device with
    | error e =>
      refine (ih bonded).mono fun es' out => ?_
      rintro ⟨rfl, hrest⟩
      refine ⟨?_, fun id => hiff (hrest id)⟩
      rw [List.filter_cons_of_neg (by rw [hresult]; exact Bool.false_ne_true)]
    | ok u =>
      refine (ih (bonded ++ [device.info.id])).mono fun es' out => ?_
      rintro ⟨rfl, hrest⟩
      refine ⟨?_, fun id => hiff (hrest id)⟩
      rw [List.filter_cons_of_pos (by rw [hresult]; rfl), List.map_cons, List.append_assoc]
      rfl

theorem ensures_acceptPairings (opts : InboundPairing) :
    (backend.acceptPairings opts).Ensures (Answered devices policy) fun es r =>
      r = .ok (accepted backend policy opts) ∧
        ∀ id, Entered enters es id ↔ id ∈ accepted backend policy opts := by
  refine (ensures_acceptFrom _ []).bind fun es out => ?_
  rintro ⟨rfl, hentered⟩
  refine Program.Ensures.ask fun u _ => .done ⟨rfl, fun id => ?_⟩
  rw [Pairing.entered_append, hentered, accepted, List.mem_map]
  -- The last step only moves the clock, and enters nobody.
  have hlast : ¬ Entered enters [⟨.advance opts.window, u⟩] id := by
    rw [entered_iff]
    exact List.not_mem_nil
  rw [or_iff_left hlast]
  simp only [List.mem_filter]
  constructor
  · rintro ⟨device, hmem, rfl, hbond⟩
    exact ⟨device, ⟨hmem, hbond⟩, rfl⟩
  · rintro ⟨device, ⟨hmem, hbond⟩, rfl⟩
    exact ⟨device, hmem, rfl, hbond⟩

/-- The other operations enter no device. -/
theorem ensures_other {op : MockOp} (hpair : ∀ target, op ≠ .pair target)
    (haccept : ∀ opts, op ≠ .acceptPairings opts) :
    (backend.run op).Ensures (Answered devices policy) fun es _ =>
      ∀ id, ¬ Entered enters es id := by
  rintro es r hreturns - id ⟨e, he, rfl⟩
  cases (pairing_free hreturns hpair haccept _ he).1

/-! ### Sessions -/

section Sessions

variable {F : Type}

variable (backend devices policy) in
/-- The reply to a call of a session, if it is one that pairs. -/
def Told : (c : SessionCall F) → c.Reply → Prop
  | .operation (.pair target), r => r = verdict devices policy target
  | .operation (.acceptPairings opts), r => r = .ok (accepted backend policy opts)
  | .pairDevice target _, r => r = Pairing.reported (verdict devices policy) 0 target
  | .pairDevices _ targets options, r => r = some
      (targets.eraseDups.map (itemOf (verdict devices policy) (max options.rounds.toNat 1)))
  | _, _ => True

variable (backend devices policy) in
/-- The device bonds in a call of a session: this is the part of the specification that is about
the paired set. -/
def Bonding : SessionCall F → DeviceId → Prop
  | .operation (.pair target), id => id = target ∧ (verdict devices policy target).isOk
  | .operation (.acceptPairings opts), id => id ∈ accepted backend policy opts
  | .pairDevice target _, id => id = target ∧ (verdict devices policy target).isOk
  | .pairDevices _ targets _, id => id ∈ targets ∧ (verdict devices policy id).isOk
  | _, _ => False

theorem determined_pairingOps :
    Determined backend.pairingOps (Answered devices policy) enters (verdict devices policy) where
  pair target := ensures_pair target
  setLocalAddress _ := .done ⟨rfl, fun _ => Pairing.not_entered_nil⟩
  canSpoof := rfl

/-- An upload enters no device, whatever becomes of it. -/
theorem ensures_interpret_runLink {α : Type} (p : Upload.Links α) :
    (p.interpret backend.runLink).Ensures (Answered devices policy) fun es _ =>
      ∀ id, ¬ Entered enters es id := by
  have hlink (c : LinkOp) : (backend.runLink c).Ensures (Answered devices policy) fun es _ =>
      ∀ id, ¬ Entered enters es id := by
    apply ensures_other
    · cases c <;> rintro _ ⟨⟩
    · cases c <;> rintro _ ⟨⟩
  refine (Program.Ensures.interpreted hlink p).mono fun es a => ?_
  rintro ⟨runs, -, rfl, hruns⟩ id ⟨e, he, hid⟩
  obtain ⟨run, hrun, he⟩ := List.mem_flatMap.mp he
  exact hruns run hrun id ⟨e, he, hid⟩

/-- **What comes of a call of a session**: its reply is the one that the scripts say, and the
devices that bond in it are entered. -/
theorem ensures_runCall (files : F → OutboundFile) (c : SessionCall F) :
    (backend.runCall files c).Ensures (Answered devices policy) fun es r =>
      Told backend devices policy c r ∧
        ∀ id, Entered enters es id ↔ Bonding backend devices policy c id := by
  have hother (op : MockOp) (hpair : ∀ target, op ≠ .pair target)
      (haccept : ∀ opts, op ≠ .acceptPairings opts) :
      (backend.run op).Ensures (Answered devices policy) fun es _ =>
        True ∧ ∀ id, Entered enters es id ↔ False :=
    (ensures_other hpair haccept).mono fun es r h => ⟨trivial, fun id => iff_false_intro (h id)⟩
  have hupload {α : Type} (p : Upload.Links α) :
      (p.interpret backend.runLink).Ensures (Answered devices policy) fun es _ =>
        True ∧ ∀ id, Entered enters es id ↔ False :=
    (ensures_interpret_runLink p).mono fun es r h => ⟨trivial, fun id => iff_false_intro (h id)⟩
  -- Only a pairing enters devices; every other call is told nothing about, and enters none.
  cases c with
  | operation op =>
    cases op with
    | pair target => exact ensures_pair target
    | acceptPairings opts => exact ensures_acceptPairings opts
    | _ => exact hother _ (by rintro _ ⟨⟩) (by rintro _ ⟨⟩)
  | pushFile conn file =>
    exact hother (.pushFile conn (files file)) (by rintro _ ⟨⟩) (by rintro _ ⟨⟩)
  | pairDevice target options => exact determined_pairingOps.ensures_pairDevice target options
  | pairDevices picks targets options =>
    exact determined_pairingOps.ensures_pairDevices picks targets options
  | uploadFile target file options => exact hupload _
  | uploadFiles target names options => exact hupload _

end Sessions

/-! ### In a run -/

section Run

variable {ι : Type} [DecidableEq ι] {α : ι → Type} {steps : List (ι × PairingResponse)}
  {w : Pool mockSteps MockState α} {policy : ι → PairingRequest → PairingResponse}

/-- The prompts of each task are answered by its policy. -/
def AnswersBy (policy : ι → PairingRequest → PairingResponse) (w : Pool mockSteps MockState α)
    (step : ι × PairingResponse) : Prop :=
  ∀ p ∈ prompt? (w.task step.1), step.2 = policy step.1 p.2

instance (w : Pool mockSteps MockState α) (step : ι × PairingResponse) :
    Decidable (AnswersBy policy w step) :=
  inferInstanceAs (Decidable (∀ p ∈ prompt? (w.task step.1), _))

theorem answered_of_meets {task : (i : ι) → Steps (α i)}
    (hrun : (Pool.system serve).Run (.start (.init devices) task) steps w)
    (hanswers : (Pool.system serve).Meets (AnswersBy policy) (.start (.init devices) task) steps) :
    ∀ i, ∀ e ∈ own w.trace i, Answered devices (policy i) e := by
  have hall : Scripted devices w.shared ∧ ∀ i e, (i, e) ∈ w.trace →
      Answered devices (policy i) e := by
    have hinit : Scripted devices (MockState.init devices) := rfl
    refine hrun.invariant_of_meets (I := fun w => Scripted devices w.shared ∧
      ∀ i e, (i, e) ∈ w.trace → Answered devices (policy i) e) ?_ hanswers
      ⟨hinit, fun i e he => absurd he List.not_mem_nil⟩
    rintro w ⟨i, answer⟩ w' ⟨hscripted, hw⟩ hstep hnext
    obtain ⟨c, next, htask, rfl⟩ := Pool.next_eq_some.mp hnext
    refine ⟨hscripted.serve c answer, fun j e he => ?_⟩
    -- The exchange of this step is answered by the policy of its task, and the others were before.
    rcases List.mem_append.mp he with hbefore | hlast
    · exact hw j e hbefore
    · cases List.mem_singleton.mp hlast
      cases c with
      | lookup id => exact hscripted.find id
      | respond device request =>
        refine hstep (device, request) ?_
        dsimp only
        rw [htask]
        rfl
      | _ => trivial
  exact fun i e he => hall.2 i e (mem_own.mp he)

variable {F : Type} {files : F → OutboundFile} {sessions : (i : ι) → Program (sessionCalls F) (α i)}

/-- **What comes of pairing is told by the scripts.** Take any sessions on a mock, interleaved in
any way, each with an agent that answers by the prompt alone. Each reply to a call that pairs is the
one that the scripts and the agent of the session settle; and if no session is in progress, then
bonded are exactly the devices that these calls were to bond.

`made` are the calls of a session that has returned, with the replies that its program went on with
to its end. Of a session that is still in progress nothing is said, and `made` is empty for it. -/
theorem pairing_determined
    (hrun : (Pool.system serve).Run (backend.startSessions files devices sessions) steps w)
    (hanswers : (Pool.system serve).Meets (AnswersBy policy)
      (backend.startSessions files devices sessions) steps) :
    ∃ made : ι → List (Exchange (sessionCalls F)),
      (∀ i a, w.task i = .done a → Returns (sessions i) (made i) a) ∧
      (∀ i, (∀ a, w.task i ≠ .done a) → made i = []) ∧
      (∀ i, ∀ e ∈ made i, Told backend devices (policy i) e.call e.reply) ∧
      (w.Quiescent → ∀ id, id ∈ w.shared.paired ↔
        ∃ i, ∃ e ∈ made i, Bonding backend devices (policy i) e.call id) := by
  have hreached := Pool.reached_of_run hrun
  have hanswered := answered_of_meets hrun hanswers
  have hsession (i : ι) : ∃ cs : List (Exchange (sessionCalls F)),
      (∀ a, w.task i = .done a → Returns (sessions i) cs a) ∧
      ((∀ a, w.task i ≠ .done a) → cs = []) ∧
      (∀ e ∈ cs, Told backend devices (policy i) e.call e.reply) ∧
      ∀ a, w.task i = .done a → ∀ id, Entered enters (own w.trace i) id ↔
        ∃ e ∈ cs, Bonding backend devices (policy i) e.call id := by
    -- A session that has returned has made its calls, and what they are told is known; of any other
    -- nothing is said.
    by_cases hdone : ∃ a, w.task i = .done a
    · obtain ⟨a, hdone⟩ := hdone
      obtain ⟨runs, hreturns, hown, hruns⟩ := hreached.ensures
        (Program.Ensures.interpreted (ensures_runCall files) (sessions i)) (hanswered i) hdone
      refine ⟨runs.map Prod.fst, ?_, fun h => absurd hdone (h a), ?_, ?_⟩
      · intro a' hdone'
        cases hdone.symm.trans hdone'
        exact hreturns
      · intro e he
        obtain ⟨run, hrun, rfl⟩ := List.mem_map.mp he
        exact (hruns run hrun).1
      · rintro - - id
        rw [hown]
        constructor
        · rintro ⟨e, he, hid⟩
          obtain ⟨run, hrun, he⟩ := List.mem_flatMap.mp he
          exact ⟨run.1, List.mem_map_of_mem hrun, ((hruns run hrun).2 id).mp ⟨e, he, hid⟩⟩
        · rintro ⟨e, he, hid⟩
          obtain ⟨run, hrun, rfl⟩ := List.mem_map.mp he
          obtain ⟨e, he, hid⟩ := ((hruns run hrun).2 id).mpr hid
          exact ⟨e, List.mem_flatMap.mpr ⟨run, hrun, he⟩, hid⟩
    · have hnot : ∀ a, w.task i ≠ .done a := fun a h => hdone ⟨a, h⟩
      refine ⟨[], fun a h => absurd h (hnot a), fun _ => rfl, ?_, fun a h => absurd h (hnot a)⟩
      intro e he
      cases he
  choose made hreturns hnone htold hbonds using hsession
  refine ⟨made, hreturns, hnone, htold, fun hquiescent id => ?_⟩
  -- The paired set has the devices that some session has entered.
  have hpaired : id ∈ w.shared.paired ↔ ∃ i, Entered enters (own w.trace i) id := by
    rw [mem_paired_iff hreached.served, mem_enteredIds, List.mem_map]
    constructor
    · rintro ⟨⟨i, e⟩, hmem, rfl⟩
      exact ⟨i, _, mem_own.mpr hmem, rfl⟩
    · rintro ⟨i, e, hmem, rfl⟩
      exact ⟨_, mem_own.mp hmem, rfl⟩
  rw [hpaired]
  refine exists_congr fun i => ?_
  by_cases hdone : ∃ a, w.task i = .done a
  · obtain ⟨a, hdone⟩ := hdone
    exact hbonds i a hdone id
  · -- a session at rest that has not returned has not begun
    have hnot : ∀ a, w.task i ≠ .done a := fun a h => hdone ⟨a, h⟩
    have hown := (hquiescent i).resolve_right hdone
    rw [hown, hnone i hnot]
    exact iff_of_false Pairing.not_entered_nil (by simp)

end Run

/-! ### The ready-made agents -/

/-- Which devices the ready-made agents bond: all that do not fail, but for those of which the
passkey is asked if there is only a PIN; and none if everything is rejected. -/
theorem isOk_outcomeOf_acceptAll (agent : AcceptAllAgent) (device : MockDevice) :
    (outcomeOf agent.respond device).isOk = device.pairingFailure.isNone := by
  have haccepts : ¬ (agent.respond (requestFor device.pairingMethod)).IsRefusal := by
    cases device.pairingMethod <;> simp [requestFor, AcceptAllAgent.respond,
      PairingResponse.IsRefusal]
  rw [outcomeOf, if_neg haccepts]
  cases device.pairingFailure <;> rfl

theorem isOk_outcomeOf_fixedPin (agent : FixedPinAgent) (device : MockDevice) :
    (outcomeOf agent.respond device).isOk
      = (decide (device.pairingMethod ≠ .passkeyEntry) && device.pairingFailure.isNone) := by
  rw [outcomeOf]
  cases device.pairingMethod <;> cases device.pairingFailure <;>
    simp [requestFor, FixedPinAgent.respond, PairingResponse.IsRefusal, Except.isOk, Except.toBool]

theorem outcomeOf_rejectAll (device : MockDevice) :
    outcomeOf RejectAllAgent.respond device = .error (.pairingRejected declined) := by
  have hrejects : (RejectAllAgent.respond (requestFor device.pairingMethod)).IsRefusal := by
    cases device.pairingMethod <;> simp [requestFor, RejectAllAgent.respond,
      PairingResponse.IsRefusal]
  rw [outcomeOf, if_pos hrejects]

/-! ### Two sessions -/

/-- A tag next to the phone, which pairs as the phone does. -/
def tag : MockDevice := { phone with info := { phone.info with id := .pub ⟨.replicate 6 9⟩ } }

/-- A batch of one device, tried once. -/
def batchOf (device : MockDevice) : SessionCall Empty :=
  .pairDevices (fun _ => []) [device.info.id]
    { concurrency := none, rounds := 1, perDevice := { retries := 0, spoofLocal := none } }

/-- The phone is paired in one session, and the tag in the other. -/
def sideBySide : Bool → Program (sessionCalls Empty) (Option (List PairItem))
  | false => .call (I := sessionCalls Empty) (batchOf phone)
  | true => .call (I := sessionCalls Empty) (batchOf tag)

/-- The first session has an agent that accepts, and the second one an agent that does not. -/
def sidePolicy : Bool → PairingRequest → PairingResponse
  | false => AcceptAllAgent.new.respond
  | true => RejectAllAgent.respond

/-- The sessions take turns. A rejected attempt is one step shorter. -/
def sideSteps : List (Bool × PairingResponse) :=
  (List.replicate 6 [(false, .confirm true), (true, .confirm false)]).flatten ++
    [(false, .confirm true)]

theorem exists_run_sideBySide : ∃ w, (Pool.system serve).Run
    (quietBackend.startSessions Empty.elim [phone, tag] sideBySide) sideSteps w ∧
      ∀ i, ∃ a, w.task i = .done a :=
  ⟨_, rfl, Bool.forall_bool.mpr ⟨⟨_, rfl⟩, ⟨_, rfl⟩⟩⟩

/-- The phone is bonded and the tag is not, and each of the two calls says so. -/
theorem pairing_determined_sideBySide : ∃ w,
    ∃ made : Bool → List (Exchange (sessionCalls Empty)),
    (Pool.system serve).Run (quietBackend.startSessions Empty.elim [phone, tag] sideBySide)
      sideSteps w ∧
    made false = [⟨batchOf phone, some [⟨phone.info.id, .ok ⟨⟨true, true, .justWorks⟩, 1⟩, 1⟩]⟩] ∧
    made true = [⟨batchOf tag, some [⟨tag.info.id, .error (.pairingRejected declined), 1⟩]⟩] ∧
    phone.info.id ∈ w.shared.paired ∧ tag.info.id ∉ w.shared.paired := by
  obtain ⟨w, hrun, hdone⟩ := exists_run_sideBySide
  have hanswers : (Pool.system serve).Meets (AnswersBy sidePolicy)
      (quietBackend.startSessions Empty.elim [phone, tag] sideBySide) sideSteps := by
    decide
  obtain ⟨made, hreturns, -, htold, hpaired⟩ := pairing_determined hrun hanswers
  obtain ⟨a, ha⟩ := hdone false
  obtain ⟨b, hb⟩ := hdone true
  -- Each session has made the one call that it is made of.
  have hfirst : made false = [⟨batchOf phone, a⟩] := Program.returns_call.mp (hreturns false a ha)
  have hsecond : made true = [⟨batchOf tag, b⟩] := Program.returns_call.mp (hreturns true b hb)
  have htoldFirst : a = some [⟨phone.info.id, .ok ⟨⟨true, true, .justWorks⟩, 1⟩, 1⟩] :=
    htold false ⟨batchOf phone, a⟩ (hfirst ▸ List.mem_singleton_self _)
  have htoldSecond : b = some [⟨tag.info.id, .error (.pairingRejected declined), 1⟩] :=
    htold true ⟨batchOf tag, b⟩ (hsecond ▸ List.mem_singleton_self _)
  have hbonded := hpaired fun i => .inr (hdone i)
  have hphone : phone.info.id ∈ w.shared.paired := (hbonded _).mpr
    ⟨false, ⟨batchOf phone, a⟩, hfirst ▸ List.mem_singleton_self _, List.mem_singleton_self _, rfl⟩
  refine ⟨w, made, hrun, by rw [hfirst, htoldFirst], by rw [hsecond, htoldSecond], hphone,
    fun hmem => ?_⟩
  -- the tag is in neither of the two calls that bond
  obtain ⟨i, e, he, hbonding⟩ := (hbonded _).mp hmem
  cases i with
  | false =>
    rw [hfirst] at he
    obtain rfl := List.mem_singleton.mp he
    cases List.mem_singleton.mp hbonding.1
  | true =>
    rw [hsecond] at he
    obtain rfl := List.mem_singleton.mp he
    cases hbonding.2

end MockBackend
end Pax
