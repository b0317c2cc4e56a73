import Pax.Transport.BlueZ.Pair
import Pax.Transport.Mock.Runs

/-!
# Pairing with the mock backend

What a pairing attempt does from its start to its end (`Attempt`), for `pair` and for each device of
`accept_pairings`, and what answer of the agent a bond takes.

The mock refuses to bond on two answers and takes every other one. The agent that the BlueZ backend
registers takes one kind of answer for each prompt (`BlueZ.Affirms`) and refuses every other one. So
a policy that answers a prompt with the wrong kind of answer bonds with the mock and not with BlueZ,
and `bonding_affirmed` says that nothing else goes wrong.
-/

namespace Pax
namespace BlueZ

/-- The callback of the BlueZ agent that raises a request. It raises none to display a passkey. -/
def bridgeCallback : PairingRequest → Option Callback
  | .confirmJustWorks => some requestAuthorization
  | .confirmPasskey passkey => some (requestConfirmation passkey)
  | .requestPinCode => some requestPinCode
  | .requestPasskey => some requestPasskey
  | .displayPasskey _ => none

/-- The answer is one that the BlueZ agent takes for that request; and a passkey that is displayed
is acknowledged. -/
def Affirms (request : PairingRequest) (response : PairingResponse) : Bool :=
  match bridgeCallback request with
  | some callback => (callback.accept response).isSome
  | none => response = .acknowledged

theorem request_of_bridgeCallback {request : PairingRequest} {callback : Callback}
    (h : bridgeCallback request = some callback) : callback.request = request := by
  cases request with
  | displayPasskey passkey => cases h
  | _ =>
    cases h
    rfl

/-- What the BlueZ agent takes is what it replies to without an error. -/
theorem affirms_iff_reply {request : PairingRequest} {callback : Callback}
    (h : bridgeCallback request = some callback) (response : PairingResponse) :
    Affirms request response = true ↔ ∃ reply, callback.reply response = .ok reply := by
  rw [Affirms, h]
  unfold Callback.reply
  dsimp only
  -- A response that the callback does not accept is an error, whatever it is.
  cases callback.accept response with
  | some reply => exact ⟨fun _ => ⟨reply, rfl⟩, fun _ => rfl⟩
  | none =>
    constructor
    · intro hsome
      cases hsome
    · rintro ⟨reply, hreply⟩
      cases response <;> cases hreply

end BlueZ

namespace MockBackend

open Program (Returns returns_done)

variable {backend : MockBackend}

/-! ### Attempts -/

/-- What a pairing attempt with a device does, and how it ends. -/
inductive Attempt (backend : MockBackend) (device : MockDevice) (target : DeviceId) :
    List (Exchange mockSteps) → Except TransportError Unit → Prop
  | declined {response : PairingResponse} (started failed : TransitEvent)
    (h : response.IsRefusal) :
    Attempt backend device target
      [⟨.stamp (device.origin backend.controller) (.pairingStarted device.pairingMethod) step,
          started⟩,
        ⟨.onEvent started, ()⟩,
        ⟨.respond device (requestFor device.pairingMethod), response⟩,
        ⟨.stamp (device.origin backend.controller) (.pairingFailed declined) step, failed⟩,
        ⟨.onEvent failed, ()⟩]
      (.error (.pairingRejected declined))
  | failed {response : PairingResponse} {reason : String} (started failed : TransitEvent)
    (h : ¬ response.IsRefusal) (hreason : device.pairingFailure = some reason) :
    Attempt backend device target
      [⟨.stamp (device.origin backend.controller) (.pairingStarted device.pairingMethod) step,
          started⟩,
        ⟨.onEvent started, ()⟩,
        ⟨.respond device (requestFor device.pairingMethod), response⟩,
        ⟨.stamp (device.origin backend.controller) (.pairingFailed reason) step, failed⟩,
        ⟨.onEvent failed, ()⟩]
      (.error (.pairingFailed reason))
  | completed {response : PairingResponse} (started completed : TransitEvent)
    (h : ¬ response.IsRefusal) (hnone : device.pairingFailure = none) :
    Attempt backend device target
      [⟨.stamp (device.origin backend.controller) (.pairingStarted device.pairingMethod) step,
          started⟩,
        ⟨.onEvent started, ()⟩,
        ⟨.respond device (requestFor device.pairingMethod), response⟩,
        ⟨.insertPaired target, ()⟩,
        ⟨.stamp (device.origin backend.controller) .pairingCompleted step, completed⟩,
        ⟨.onEvent completed, ()⟩]
      (.ok ())

/-- Attempts with devices in turn, and the devices that bonded. -/
inductive Attempts (backend : MockBackend) :
    List MockDevice → List (Exchange mockSteps) → List DeviceId → Prop
  | nil : Attempts backend [] [] []
  | failed {device : MockDevice} {devices : List MockDevice} {es es' : List (Exchange mockSteps)}
    {ids : List DeviceId} {e : TransportError}
    (h : Attempt backend device device.info.id es (.error e))
    (hrest : Attempts backend devices es' ids) :
    Attempts backend (device :: devices) (es ++ es') ids
  | completed {device : MockDevice} {devices : List MockDevice} {es es' : List (Exchange mockSteps)}
    {ids : List DeviceId} (h : Attempt backend device device.info.id es (.ok ()))
    (hrest : Attempts backend devices es' ids) :
    Attempts backend (device :: devices) (es ++ es') (device.info.id :: ids)

section Returns

variable {es : List (Exchange mockSteps)}

theorem returns_pairDevice {device : MockDevice} {target : DeviceId}
    {r : Except TransportError Unit} (h : Returns (backend.pairDevice device target) es r) :
    Attempt backend device target es r := by
  obtain ⟨started, es₁, rfl, hstarted⟩ := returns_emit_bind h
  obtain ⟨response, es₂, rfl, hanswered⟩ := Program.returns_call_bind hstarted
  -- The agent has refused; or the device fails as it is scripted to, or bonds.
  split at hanswered
  next hrefusal =>
    obtain ⟨failed, es₃, rfl, hend⟩ := returns_emit_bind hanswered
    obtain ⟨rfl, rfl⟩ := returns_done.mp hend
    exact .declined started failed hrefusal
  next haccepted =>
    cases hfailure : device.pairingFailure with
    | some reason =>
      rw [hfailure] at hanswered
      obtain ⟨failed, es₃, rfl, hend⟩ := returns_emit_bind hanswered
      obtain ⟨rfl, rfl⟩ := returns_done.mp hend
      exact .failed started failed haccepted hfailure
    | none =>
      rw [hfailure] at hanswered
      obtain ⟨u, es₃, rfl, hentered⟩ := Program.returns_call_bind hanswered
      obtain ⟨completed, es₄, rfl, hend⟩ := returns_emit_bind hentered
      obtain ⟨rfl, rfl⟩ := returns_done.mp hend
      exact .completed started completed haccepted hfailure

theorem returns_pair {target : DeviceId} {r : Except TransportError PairingOutcome}
    (h : Returns (backend.pair target) es r) :
    (es = [⟨.lookup target, none⟩] ∧ r = .error (.deviceNotFound target)) ∨
      ∃ device es' result, es = ⟨.lookup target, some device⟩ :: es' ∧
        Attempt backend device target es' result ∧
        r = result.map fun _ => PairingOutcome.ofBond device.pairingMethod := by
  obtain ⟨found, es₁, rfl, hfound⟩ := Program.returns_call_bind h
  cases found with
  | none =>
    obtain ⟨rfl, rfl⟩ := returns_done.mp hfound
    exact .inl ⟨rfl, rfl⟩
  | some device =>
    obtain ⟨es₂, result, es₃, rfl, hattempt, hend⟩ := Program.returns_bind.mp hfound
    refine .inr ⟨device, es₂, result, ?_, returns_pairDevice hattempt, ?_⟩
    -- the result is that of the attempt, with the method of the bond
    all_goals
      cases result with
      | error e =>
        obtain ⟨rfl, rfl⟩ := returns_done.mp hend
        simp [Except.map]
      | ok u =>
        obtain ⟨rfl, rfl⟩ := returns_done.mp hend
        simp [Except.map]

theorem returns_acceptFrom {devices : List MockDevice} {bonded out : List DeviceId}
    (h : Returns (backend.acceptFrom devices bonded) es out) :
    ∃ ids, out = bonded ++ ids ∧ Attempts backend devices es ids := by
  -- On the devices: an attempt that fails is passed over, and the next one is tried.
  induction devices generalizing bonded es with
  | nil =>
    obtain ⟨rfl, rfl⟩ := returns_done.mp h
    exact ⟨[], (List.append_nil _).symm, .nil⟩
  | cons device devices ih =>
    obtain ⟨es₁, result, es₂, rfl, hattempt, hrest⟩ := Program.returns_bind.mp h
    cases result with
    | error e =>
      obtain ⟨ids, rfl, hids⟩ := ih hrest
      exact ⟨ids, rfl, .failed (returns_pairDevice hattempt) hids⟩
    | ok u =>
      obtain ⟨ids, rfl, hids⟩ := ih hrest
      refine ⟨device.info.id :: ids, ?_, .completed (returns_pairDevice hattempt) hids⟩
      rw [List.append_assoc, List.singleton_append]

theorem returns_acceptPairings {opts : InboundPairing}
    {r : Except TransportError (List DeviceId)}
    (h : Returns (backend.acceptPairings opts) es r) :
    ∃ es' ids, es = es' ++ [⟨.advance opts.window, ()⟩] ∧
      Attempts backend (backend.tried opts) es' ids ∧ r = .ok ids := by
  obtain ⟨es₁, out, es₂, rfl, haccepted, hend⟩ := Program.returns_bind.mp h
  obtain ⟨bonded, hout, hbonded⟩ := returns_acceptFrom haccepted
  rw [List.nil_append] at hout
  subst hout
  obtain ⟨u, es₃, rfl, hlast⟩ := Program.returns_call_bind hend
  obtain ⟨rfl, rfl⟩ := returns_done.mp hlast
  exact ⟨es₁, out, rfl, hbonded, rfl⟩

end Returns

/-! ### Answers and bonds -/

/-- The device bonds if the agent answers so: it is scripted not to fail, and the answer is no
refusal. -/
def Bonds (device : MockDevice) (response : PairingResponse) : Prop :=
  ¬ response.IsRefusal ∧ device.pairingFailure = none

/-- The steps that decide who is bonded: the answers of the agent, and the entries. -/
def decides : MockCall → Bool
  | .respond _ _ => true
  | .insertPaired _ => true
  | _ => false

/-- A device is entered, under an id that is its name, right after an answer on which it bonds; and
after each such answer one is. -/
inductive Paired (named : MockDevice → DeviceId → Prop) : List (Exchange mockSteps) → Prop
  | nil : Paired named []
  | other {e : Exchange mockSteps} {es : List (Exchange mockSteps)} (he : decides e.call = false)
    (h : Paired named es) : Paired named (e :: es)
  | refused {device : MockDevice} {request : PairingRequest} {response : PairingResponse}
    {es : List (Exchange mockSteps)} (hbonds : ¬ Bonds device response) (h : Paired named es) :
    Paired named (⟨.respond device request, response⟩ :: es)
  | bond {device : MockDevice} {response : PairingResponse} {id : DeviceId} {u : Unit}
    {es : List (Exchange mockSteps)} (hbonds : Bonds device response) (hid : named device id)
    (h : Paired named es) :
    Paired named (⟨.respond device (requestFor device.pairingMethod), response⟩
      :: ⟨.insertPaired id, u⟩ :: es)

namespace Paired

variable {named : MockDevice → DeviceId → Prop} {es es' pre post : List (Exchange mockSteps)}

theorem append (h : Paired named es) (h' : Paired named es') : Paired named (es ++ es') := by
  induction h with
  | nil => exact h'
  | other he _ ih => exact .other he ih
  | refused hbonds _ ih => exact .refused hbonds ih
  | bond hbonds hid _ ih => exact .bond hbonds hid ih

theorem of_forall (h : ∀ e ∈ es, decides e.call = false) : Paired named es := by
  induction es with
  | nil => exact .nil
  | cons e es ih =>
    exact .other (h e List.mem_cons_self) (ih fun e' he' => h e' (List.mem_cons_of_mem e he'))

/-- Right before an entry comes the answer on which the device has bonded. -/
theorem before_insert {id : DeviceId} {u : Unit} (h : Paired named es)
    (hes : es = pre ++ ⟨.insertPaired id, u⟩ :: post) :
    ∃ pre' device response,
      pre = pre' ++ [⟨.respond device (requestFor device.pairingMethod), response⟩] ∧
      named device id ∧ Bonds device response := by
  -- On the exchanges: an entry comes with the answer before it, so it is this one or a later one.
  induction h generalizing pre with
  | nil => exact absurd hes.symm (List.append_ne_nil_of_right_ne_nil _ (List.cons_ne_nil _ _))
  | other he _ ih =>
    cases pre with
    | nil =>
      rw [List.head_eq_of_cons_eq hes] at he
      cases he
    | cons e pre =>
      obtain ⟨rfl, htail⟩ := List.cons_eq_cons.mp hes
      obtain ⟨pre', device, response, rfl, hanswer⟩ := ih htail
      exact ⟨_ :: pre', device, response, rfl, hanswer⟩
  | refused hbonds _ ih =>
    cases pre with
    | nil => cases List.head_eq_of_cons_eq hes
    | cons e pre =>
      obtain ⟨rfl, htail⟩ := List.cons_eq_cons.mp hes
      obtain ⟨pre', device, response, rfl, hanswer⟩ := ih htail
      exact ⟨_ :: pre', device, response, rfl, hanswer⟩
  | bond hbonds hid _ ih =>
    rcases pre with _ | ⟨e, _ | ⟨e', pre⟩⟩
    · cases List.head_eq_of_cons_eq hes
    · -- this entry
      obtain ⟨rfl, htail⟩ := List.cons_eq_cons.mp hes
      cases List.head_eq_of_cons_eq htail
      exact ⟨[], _, _, rfl, hid, hbonds⟩
    · obtain ⟨rfl, htail⟩ := List.cons_eq_cons.mp hes
      obtain ⟨rfl, hrest⟩ := List.cons_eq_cons.mp htail
      obtain ⟨pre', device, response, rfl, hanswer⟩ := ih hrest
      exact ⟨_ :: _ :: pre', device, response, rfl, hanswer⟩

/-- What comes right after an answer on which a device bonds. -/
theorem after_answer {device : MockDevice} {request : PairingRequest} {response : PairingResponse}
    (h : Paired named es) (hes : es = pre ++ ⟨.respond device request, response⟩ :: post)
    (hbonds : Bonds device response) :
    ∃ id u post', post = ⟨.insertPaired id, u⟩ :: post' := by
  -- On the exchanges: an answer that bonds is followed by its entry at once.
  induction h generalizing pre with
  | nil => exact absurd hes.symm (List.append_ne_nil_of_right_ne_nil _ (List.cons_ne_nil _ _))
  | other he _ ih =>
    cases pre with
    | nil =>
      rw [List.head_eq_of_cons_eq hes] at he
      cases he
    | cons e pre => exact ih (List.cons_eq_cons.mp hes).2
  | refused hnot _ ih =>
    cases pre with
    | nil =>
      cases List.head_eq_of_cons_eq hes
      exact absurd hbonds hnot
    | cons e pre => exact ih (List.cons_eq_cons.mp hes).2
  | bond hbonds' hid _ ih =>
    rcases pre with _ | ⟨e, _ | ⟨e', pre⟩⟩
    · obtain ⟨-, rfl⟩ := List.cons_eq_cons.mp hes
      exact ⟨_, _, _, rfl⟩
    · obtain ⟨rfl, htail⟩ := List.cons_eq_cons.mp hes
      cases List.head_eq_of_cons_eq htail
    · exact ih (List.cons_eq_cons.mp (List.cons_eq_cons.mp hes).2).2

end Paired

theorem Attempt.paired {named : MockDevice → DeviceId → Prop} {device : MockDevice}
    {target : DeviceId} {es : List (Exchange mockSteps)} {r : Except TransportError Unit}
    (h : Attempt backend device target es r) (hnamed : named device target) : Paired named es := by
  -- The three ways of an attempt: two without an entry, and one with it.
  cases h with
  | declined started failed hrefusal =>
    exact .other rfl (.other rfl (.refused (fun hbonds => hbonds.1 hrefusal)
      (.other rfl (.other rfl .nil))))
  | failed started failed haccepted hreason =>
    have hbonds (response : PairingResponse) : ¬ Bonds device response := by
      rintro ⟨-, hnone⟩
      rw [hnone] at hreason
      cases hreason
    exact .other rfl (.other rfl (.refused (hbonds _) (.other rfl (.other rfl .nil))))
  | completed started completed haccepted hnone =>
    exact .other rfl (.other rfl (.bond ⟨haccepted, hnone⟩ hnamed (.other rfl (.other rfl .nil))))

theorem Attempts.paired {named : MockDevice → DeviceId → Prop} {devices : List MockDevice}
    {es : List (Exchange mockSteps)} {ids : List DeviceId} (h : Attempts backend devices es ids)
    (hnamed : ∀ device, named device device.info.id) : Paired named es := by
  induction h with
  | nil => exact .nil
  | failed hattempt _ ih => exact (hattempt.paired (hnamed _)).append ih
  | completed hattempt _ ih => exact (hattempt.paired (hnamed _)).append ih

/-- The id is the device's, or the device is what the operation has found under it. -/
def Named (es : List (Exchange mockSteps)) (device : MockDevice) (id : DeviceId) : Prop :=
  device.info.id = id ∨ es.head? = some ⟨.lookup id, some device⟩

/-- Who is bonded is decided, and said, by `pair` and `accept_pairings` alone. -/
theorem pairing_free {op : MockOp} {es : List (Exchange mockSteps)} {r : op.Result}
    (h : Returns (backend.run op) es r) (hpair : ∀ target, op ≠ .pair target)
    (haccept : ∀ opts, op ≠ .acceptPairings opts) :
    ∀ e ∈ es, decides e.call = false ∧
      ∀ origin dt, e.call ≠ .stamp origin .pairingCompleted dt := by
  intro e he
  obtain ⟨c, reply⟩ := e
  rcases (built_run backend op).calls h _ he with hholds | ⟨event, hevent⟩ | hstamp
  -- No other operation prompts the agent, or enters a device.
  · have hdecides : decides c = false := by
      cases c with
      | respond device request =>
        cases op <;> first
          | exact absurd rfl (hpair _)
          | exact absurd rfl (haccept _)
          | cases hholds
      | insertPaired id =>
        cases op <;> first
          | exact absurd rfl (hpair _)
          | exact absurd rfl (haccept _)
          | cases hholds
      | _ => rfl
    refine ⟨hdecides, ?_⟩
    rintro origin dt rfl
    cases op <;> cases hholds
  · cases hevent
    exact ⟨rfl, by rintro _ _ ⟨⟩⟩
  · obtain ⟨origin, kind, dt, hcall, hemits⟩ := hstamp
    cases hcall
    refine ⟨rfl, ?_⟩
    rintro _ _ ⟨⟩
    cases op <;> first | exact absurd rfl (hpair _) | exact absurd rfl (haccept _) | cases hemits

/-- **In every operation a device is entered right after an answer on which it bonds.** -/
theorem paired_run {op : MockOp} {es : List (Exchange mockSteps)} {r : op.Result}
    (h : Returns (backend.run op) es r) : Paired (Named es) es := by
  -- No other operation has any step of pairing.
  have hother (hpair : ∀ target, op ≠ .pair target) (haccept : ∀ opts, op ≠ .acceptPairings opts) :
      Paired (Named es) es :=
    Paired.of_forall fun e he => (pairing_free h hpair haccept e he).1
  cases op with
  | pair target =>
    obtain ⟨rfl, -⟩ | ⟨device, es', result, rfl, hattempt, -⟩ := returns_pair h
    · exact .other rfl .nil
    · exact .other rfl (hattempt.paired (.inr rfl))
  | acceptPairings opts =>
    obtain ⟨es', bonded, rfl, hattempts, -⟩ := returns_acceptPairings h
    exact (hattempts.paired fun device => .inl rfl).append (.other rfl .nil)
  | _ => exact hother (by rintro _ ⟨⟩) (by rintro _ ⟨⟩)

/-! ### In a run -/

section Run

variable {devices : List MockDevice} {ι : Type} [DecidableEq ι] {ops : ι → MockOp}
  {steps : List (ι × PairingResponse)}
  {w w' : Pool mockSteps MockState fun i => (ops i).Result} {i : ι}

instance (c : MockCall) : Nonempty (mockSteps.Reply c) :=
  ⟨(serve c .cancel (.init [])).1⟩

/-- What an operation in progress has done is part of what one does that returns. -/
theorem exists_returns_own
    (hreached : Pool.Reached serve (.init devices) (fun i => backend.run (ops i)) w) (i : ι) :
    ∃ es r, Returns (backend.run (ops i)) (own w.trace i ++ es) r := by
  obtain ⟨es, r, hreturns⟩ := Program.exists_returns (w.task i)
  exact ⟨es, r, (hreached.path i).append hreturns⟩

/-- A device that an operation has found has the id it was looked up by. -/
theorem id_of_lookup_mem
    (hreached : Pool.Reached serve (.init devices) (fun i => backend.run (ops i)) w) {id : DeviceId}
    {device : MockDevice}
    (h : (⟨.lookup id, some device⟩ : Exchange mockSteps) ∈ own w.trace i) :
    device.info.id = id := by
  have hmem : (⟨.lookup id, some device⟩ : Exchange mockSteps) ∈ w.trace.map Prod.snd :=
    List.mem_map.mpr ⟨_, mem_own.mp h, rfl⟩
  obtain ⟨s, answer, hreply⟩ := hreached.served.answered _ hmem
  exact id_of_find hreply

/-- The ids that some step has entered into the paired set, in order. -/
def enteredIds (es : List (Exchange mockSteps)) : List DeviceId :=
  es.filterMap fun
    | ⟨.insertPaired id, _⟩ => some id
    | _ => none

theorem mem_enteredIds {es : List (Exchange mockSteps)} {id : DeviceId} :
    id ∈ enteredIds es ↔ (⟨.insertPaired id, ()⟩ : Exchange mockSteps) ∈ es := by
  constructor
  · intro h
    obtain ⟨⟨c, reply⟩, hmem, hc⟩ := List.mem_filterMap.mp h
    cases c with
    | insertPaired id' =>
      cases hc
      exact hmem
    | _ => cases hc
  · intro h
    exact List.mem_filterMap.mpr ⟨_, h, rfl⟩

/-- A step enters the id that it says, and no step takes an id out. -/
theorem mem_paired_serve (c : MockCall) (answer : PairingResponse) (s : MockState) (id : DeviceId) :
    id ∈ (serve c answer s).2.paired ↔
      id ∈ s.paired ∨ id ∈ enteredIds [⟨c, (serve c answer s).1⟩] := by
  have hnone : id ∈ s.paired ↔ id ∈ s.paired ∨ id ∈ ([] : List DeviceId) := by simp
  -- Only the entry of a device changes the paired set, and it adds that device.
  cases hc : changes c with
  | true =>
    cases c with
    | insertPaired id' =>
      show id ∈ insert id' s.paired ↔ id ∈ s.paired ∨ id ∈ [id']
      rw [Finset.mem_insert, List.mem_singleton, or_comm]
    | _ => first | exact hnone | cases hc
  | false =>
    obtain ⟨devices, hs⟩ := serve_of_changes hc answer s
    rw [hs]
    cases c <;> first | exact hnone | cases hc

/-- The paired set is what was entered, and nothing is ever taken out of it. -/
theorem mem_paired_iff {s : MockState} {es : List (Exchange mockSteps)}
    (h : Served serve (.init devices) es s) (id : DeviceId) :
    id ∈ s.paired ↔ id ∈ enteredIds es := by
  refine h.invariant (P := fun es s => id ∈ s.paired ↔ id ∈ enteredIds es) ?_ ?_
  · show id ∈ (∅ : Finset DeviceId) ↔ id ∈ []
    simp
  · intro es s c answer ih
    rw [mem_paired_serve, ih, ← List.mem_append, enteredIds, enteredIds, enteredIds,
      List.filterMap_append]

/-- The prompt that a program is about to raise. -/
def prompt? {α : Type} : Steps α → Option (MockDevice × PairingRequest)
  | .ask (.respond device request) _ => some (device, request)
  | _ => none

/-- An answer for a device that would bond refuses, or it is of the right kind. -/
def InKind (w : Pool mockSteps MockState fun i => (ops i).Result) (step : ι × PairingResponse) :
    Prop :=
  ∀ p ∈ prompt? (w.task step.1), p.1.pairingFailure = none →
    step.2.IsRefusal ∨ BlueZ.Affirms p.2 step.2 = true

instance (w : Pool mockSteps MockState fun i => (ops i).Result) (step : ι × PairingResponse) :
    Decidable (InKind w step) :=
  inferInstanceAs (Decidable (∀ p ∈ prompt? (w.task step.1), _))

/-- Each device that an operation has entered was entered right after an answer of the right kind to
its prompt. -/
def AffirmedBonds (w : Pool mockSteps MockState fun i => (ops i).Result) : Prop :=
  ∀ i pre id u post, own w.trace i = pre ++ ⟨.insertPaired id, u⟩ :: post →
    ∃ pre' device response,
      pre = pre' ++ [⟨.respond device (requestFor device.pairingMethod), response⟩] ∧
      device.info.id = id ∧ BlueZ.Affirms (requestFor device.pairingMethod) response = true

theorem eq_of_prompt? {α : Type} {p : Steps α} {device : MockDevice} {request : PairingRequest}
    (h : prompt? p = some (device, request)) : ∃ next, p = .ask (.respond device request) next := by
  cases p with
  | done a => cases h
  | ask c next =>
    cases c with
    | respond device' request' =>
      cases h
      exact ⟨next, rfl⟩
    | _ => cases h

/-- In a run whose prompts are answered in kind, every answer is one of the right kind. -/
theorem inKind_of_meets (hrun : (system ops).Run (backend.start devices ops) steps w)
    (hkind : (system ops).Meets InKind (backend.start devices ops) steps) :
    ∀ i device request response, (i, ⟨.respond device request, response⟩) ∈ w.trace →
      device.pairingFailure = none →
        response.IsRefusal ∨ BlueZ.Affirms request response = true := by
  refine hrun.invariant_of_meets (I := fun w => ∀ i device request response,
    (i, ⟨.respond device request, response⟩) ∈ w.trace →
      device.pairingFailure = none → response.IsRefusal ∨ BlueZ.Affirms request response = true)
    ?_ hkind ?_
  · rintro w ⟨i, answer⟩ w' hw hok hstep
    obtain ⟨c, next, htask, rfl⟩ := Pool.next_eq_some.mp hstep
    intro j device request response hmem hnone
    rcases List.mem_append.mp hmem with hbefore | hlast
    · exact hw j device request response hbefore hnone
    · cases List.mem_singleton.mp hlast
      -- the answer just given
      apply hok (device, request) _ hnone
      dsimp only
      rw [htask]
      rfl
  · intro i device request response hmem
    cases hmem

/-- A bond that the run does not affirm can come of each answer that is not in kind. -/
theorem exists_not_affirmedBonds
    (hreached : Pool.Reached serve (.init devices) (fun i => backend.run (ops i)) w)
    {answer : PairingResponse} (hstep : (system ops).next w (i, answer) = some w')
    (hnot : ¬ InKind w (i, answer)) :
    ∃ steps' w'', (system ops).Run w' steps' w'' ∧ ¬ AffirmedBonds w'' := by
  rw [InKind] at hnot
  push Not at hnot
  obtain ⟨⟨device, request⟩, hprompt, hnone, hrefusal, haffirms⟩ := hnot
  obtain ⟨next, htask⟩ := eq_of_prompt? hprompt
  obtain ⟨c, next', htask', rfl⟩ := Pool.next_eq_some.mp hstep
  dsimp only at htask
  rw [htask] at htask'
  cases htask'
  -- Let the operation run on to its end: it enters the device on that answer.
  obtain ⟨steps', w'', es, r, hrun, -, htrace, hreturns, -⟩ := Pool.exists_run_done (H := serve)
    { shared := (serve (.respond device request) answer w.shared).2
      task := Function.update w.task i (next answer)
      trace := w.trace ++ [(i, ⟨.respond device request, answer⟩)] } i
  refine ⟨steps', w'', hrun, ?_⟩
  intro hbonds
  have hown : own w''.trace i
      = own w.trace i ++ ⟨.respond device request, answer⟩ :: es := by
    rw [htrace, own_append, own_concat_self, own_map_mk, List.append_assoc, List.singleton_append]
  have hpath : Returns (backend.run (ops i)) (own w''.trace i) r := by
    rw [hown, List.append_cons]
    dsimp only at hreturns
    rw [Function.update_self] at hreturns
    have hbefore := hreached.path i
    rw [htask] at hbefore
    exact (hbefore.snoc answer).append hreturns
  obtain ⟨id, u, post, rfl⟩ := (paired_run hpath).after_answer hown ⟨hrefusal, hnone⟩
  obtain ⟨pre', device', response', hpre, -, haffirmed⟩ := hbonds i
    (own w.trace i ++ [⟨.respond device request, answer⟩]) id u post (by
      rw [hown, List.append_assoc, List.singleton_append])
  obtain ⟨-, hlast⟩ := List.append_inj' hpre rfl
  cases List.singleton_inj.mp hlast
  exact haffirms haffirmed

/-- **What answer a bond takes.** The paired set is what the operations have entered. If each answer
for a device that has no scripted failure refuses or is one that the BlueZ agent takes for the same
prompt, then each device was entered right after an answer of the latter kind to its own prompt. If
an answer is given that is neither, then from there a device may be entered that was not. -/
theorem bonding_affirmed (hrun : (system ops).Run (backend.start devices ops) steps w) :
    (∀ id, id ∈ w.shared.paired ↔ ∃ i, (⟨.insertPaired id, ()⟩ : Exchange mockSteps)
      ∈ own w.trace i) ∧
    ((system ops).Meets InKind (backend.start devices ops) steps → AffirmedBonds w) ∧
    ∀ step w', (system ops).next w step = some w' → ¬ InKind w step →
      ∃ steps' w'', (system ops).Run w' steps' w'' ∧ ¬ AffirmedBonds w'' := by
  have hreached := reached hrun
  refine ⟨?_, ?_, ?_⟩
  · intro id
    rw [mem_paired_iff hreached.served, mem_enteredIds, List.mem_map]
    constructor
    · rintro ⟨⟨i, e⟩, hmem, rfl⟩
      exact ⟨i, mem_own.mpr hmem⟩
    · rintro ⟨i, hmem⟩
      exact ⟨_, mem_own.mp hmem, rfl⟩
  · intro hkind i pre id u post hown
    obtain ⟨es, r, hreturns⟩ := exists_returns_own hreached i
    have hwhole : own w.trace i ++ es = pre ++ ⟨.insertPaired id, u⟩ :: (post ++ es) := by
      rw [hown, List.append_assoc, List.cons_append]
    obtain ⟨pre', device, response, rfl, hnamed, hbonds⟩ :=
      (paired_run hreturns).before_insert hwhole
    refine ⟨pre', device, response, rfl, ?_, ?_⟩
    · rcases hnamed with hid | hhead
      · exact hid
      · -- the device was found by this operation
        apply id_of_lookup_mem (i := i) hreached
        rw [List.head?_append_of_ne_nil _ (by rw [hown]; simp)] at hhead
        exact List.mem_of_mem_head? hhead
    · have hmem : (i, ⟨.respond device (requestFor device.pairingMethod), response⟩) ∈ w.trace := by
        rw [← mem_own, hown]
        simp
      exact (inKind_of_meets hrun hkind _ _ _ _ hmem hbonds.2).resolve_left hbonds.1
  -- a prompt that is not answered in kind
  · rintro ⟨i, answer⟩ w' hstep hnot
    exact exists_not_affirmedBonds hreached hstep hnot

end Run

/-- A device on which a passkey is shown, to be typed in here. -/
def keypad : MockDevice := { phone with pairingMethod := .passkeyEntry }

/-- Pairing with it, outbound and inbound. -/
def pairKeypad : Bool → MockOp
  | false => .pair keypad.info.id
  | true => .acceptPairings { window := .zero, maxDevices := none }

def keypadBackend : MockBackend := { quietBackend with incoming := [keypad] }

/-- Both attempts one after the other, all prompts answered alike. -/
def pairBoth (answer : PairingResponse) : List (Bool × PairingResponse) :=
  (List.replicate 7 false ++ List.replicate 7 true).map fun i => (i, answer)

/-- The passkey is typed in, for both attempts, and both bonds are affirmed. -/
theorem bonding_affirmed_keypad : ∃ w,
    (system pairKeypad).Run (keypadBackend.start [keypad] pairKeypad) (pairBoth (.passkey 5)) w ∧
      keypad.info.id ∈ w.shared.paired ∧ AffirmedBonds w := by
  let p (w : Pool mockSteps MockState fun i => (pairKeypad i).Result) : Bool :=
    decide (keypad.info.id ∈ w.shared.paired)
  have hcomputed : ((system pairKeypad).exec (keypadBackend.start [keypad] pairKeypad)
      (pairBoth (.passkey 5))).any p = true := by decide
  obtain ⟨w, hrun, hp⟩ := Lts.exists_run_of_any hcomputed
  exact ⟨w, hrun, of_decide_eq_true hp, (bonding_affirmed hrun).2.1 (by decide)⟩

/-- Asked for the passkey, the agent says yes, and the device is entered. -/
theorem bonds_without_passkey : ∃ steps w,
    (system pairKeypad).Run (keypadBackend.start [keypad] pairKeypad)
      (List.replicate 3 (false, .confirm true) ++ (false, .confirm true) :: steps) w ∧
      ¬ AffirmedBonds w := by
  let p (w : Pool mockSteps MockState fun i => (pairKeypad i).Result) : Bool :=
    decide (¬ InKind w (false, .confirm true)) &&
      ((system pairKeypad).next w (false, .confirm true)).isSome
  -- Up to the prompt the run is computed; from there it is the one that exists.
  have hcomputed : ((system pairKeypad).exec (keypadBackend.start [keypad] pairKeypad)
      (List.replicate 3 (false, .confirm true))).any p = true := by decide
  obtain ⟨w, hrun, hp⟩ := Lts.exists_run_of_any hcomputed
  obtain ⟨hnot, hnext⟩ := (Bool.and_eq_true _ _).mp hp
  obtain ⟨w', hstep⟩ := Option.isSome_iff_exists.mp hnext
  obtain ⟨steps, w'', hrest, hbonds⟩ :=
    exists_not_affirmedBonds (reached hrun) hstep (of_decide_eq_true hnot)
  exact ⟨steps, w'', hrun.append (.cons hstep hrest), hbonds⟩

end MockBackend
end Pax
