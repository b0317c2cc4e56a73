import Pax.Pairing.Workflow

/-!
# What a round does, on any backend

A step of a round starts a call, or lets a call in flight make its next attempt (`RoundStep`). From
this alone it follows that a round ends, whatever the schedule and whatever the backend answers, and
that it hands out exactly one result for each pending device. What a backend adds to this is brought
in as an invariant of the steps (`runRound_invariant`).

That a round ends is by a measure, the starts and attempts that are left (`RoundState.work`), which
every step makes smaller. The code of a step is only unfolded in `RoundState.step_spec`.
-/

namespace Pax

section Rounds

variable {σ : Type} {backend : BluetoothBackend σ} {agent : PairingAgent}

/-! ### One call, attempt by attempt -/

/-- What is left of `pair_device` after the spoof, `made` attempts having been made, over any way of
making an attempt. -/
def pairFrom {τ : Type} (attempt : EStateM TransportError τ PairingOutcome) (made left : ℕ) :
    EStateM TransportError τ PairReport := do
  let (outcome, attempts) ← Retry.retryFrom attempt isFinal made left exhaustedRetries
  return { outcome, attempts }

theorem pairDevice_eq (target : DeviceId) (options : PairOptions) (h : options.spoofLocal = none) :
    pairDevice backend target agent options
      = pairFrom (backend.pair target agent) 0 (saturatingSucc options.retries) := by
  rw [pairDevice, h]
  rfl

/-- Calls of `pair_device` match, from related states, if their attempts do. -/
theorem match_pairFrom {τ τ' : Type} {R : τ → τ' → Prop}
    {attempt : EStateM TransportError τ PairingOutcome}
    {attempt' : EStateM TransportError τ' PairingOutcome}
    (h : ∀ s t, R s t → Outcome.Match R (attempt.run s) (attempt'.run t)) (made left : ℕ) (s : τ)
    (t : τ') (hst : R s t) :
    Outcome.Match R ((pairFrom attempt made left).run s) ((pairFrom attempt' made left).run t) :=
  Outcome.Match.bind (Retry.match_retryFrom h made left exhaustedRetries s t hst)
    fun _ _ _ h' => .ok _ h'

/-- What is left of a call is one attempt, and what is left of it after that. -/
theorem run_pairFrom_succ {τ : Type} (attempt : EStateM TransportError τ PairingOutcome)
    (made left : ℕ) (s : τ) :
    (pairFrom attempt made (left + 1)).run s
      = match Retry.attemptOnce attempt isFinal s with
        | (.stop (.ok outcome), s') => .ok { outcome, attempts := made + 1 } s'
        | (.stop (.error e), s') => .error e s'
        | (.again e, s') =>
          if left = 0 then .error e s' else (pairFrom attempt (made + 1) left).run s' := by
  -- three ways for an attempt: it succeeds, it fails finally, it is worth a retry
  rw [pairFrom, EStateM.run_bind, Retry.run_retryFrom_succ]
  rcases Retry.attemptOnce attempt isFinal s with ⟨(outcome | e) | e, s'⟩
  · rfl
  · rfl
  · cases left with
    | zero => rfl
    | succ left =>
      -- With an attempt left, the error on record does not matter.
      simp only [Nat.succ_ne_zero, if_false, pairFrom, EStateM.run_bind,
        Retry.run_retryFrom_last (made + 1) left e exhaustedRetries s']

/-- What is left of a call in flight is its next attempt, and what is left then. -/
theorem Flight.run_pairFrom (flight : Flight) (hleft : 1 ≤ flight.left) (s : σ) :
    (pairFrom (backend.pair flight.id agent) flight.made flight.left).run s
      = match flight.advance backend agent s with
        | (.inr result, s') => Outcome.ofExcept result.2 s'
        | (.inl flight', s') =>
          (pairFrom (backend.pair flight'.id agent) flight'.made flight'.left).run s' := by
  obtain ⟨id, made, left⟩ := flight
  -- the loop counts the attempts that are left down to 0, the call in flight down to 1
  obtain ⟨left, rfl⟩ := Nat.exists_eq_add_of_le' hleft
  rw [run_pairFrom_succ, Flight.advance]
  rcases Retry.attemptOnce (backend.pair id agent) isFinal s with ⟨(outcome | e) | e, s'⟩
  · rfl
  · rfl
  · by_cases h : left = 0
    · simp [h, Outcome.ofExcept]
    · have h' : ¬ left + 1 ≤ 1 := by omega
      simp only [h, h', if_false, Nat.add_sub_cancel]

variable (backend agent) in
/-- The next attempt of a call in flight ends the call, or leaves it with one attempt fewer. -/
theorem Flight.advance_cases (flight : Flight) (s : σ) :
    (∃ r s', flight.advance backend agent s = (.inr (flight.id, r), s')) ∨
      (2 ≤ flight.left ∧ ∃ s', flight.advance backend agent s
        = (.inl { flight with made := flight.made + 1, left := flight.left - 1 }, s')) := by
  rw [Flight.advance]
  rcases Retry.attemptOnce (backend.pair flight.id agent) isFinal s with
    ⟨(outcome | e) | e, s'⟩
  · exact .inl ⟨_, s', rfl⟩
  · exact .inl ⟨_, s', rfl⟩
  · by_cases h : flight.left ≤ 1
    · exact .inl ⟨_, s', if_pos h⟩
    · exact .inr ⟨by omega, s', if_neg h⟩

variable (backend agent) in
theorem Flight.advance_snd (flight : Flight) (s : σ) :
    (flight.advance backend agent s).2
      = (Outcome.split ((backend.pair flight.id agent).run s)).2 := by
  rw [← Retry.attemptOnce_snd isFinal, Flight.advance]
  rcases Retry.attemptOnce (backend.pair flight.id agent) isFinal s with ⟨(outcome | e) | e, s'⟩
  · rfl
  · rfl
  · dsimp only
    split_ifs <;> rfl

theorem Flight.advance_inl {flight flight' : Flight} {s s' : σ}
    (h : flight.advance backend agent s = (.inl flight', s')) :
    flight'.id = flight.id ∧ 1 ≤ flight'.left ∧ flight'.left < flight.left := by
  obtain ⟨r, t, ht⟩ | ⟨hleft, t, ht⟩ := flight.advance_cases backend agent s
  · rw [ht] at h
    cases h
  · rw [ht] at h
    cases h
    exact ⟨rfl, by dsimp only; omega, by dsimp only; omega⟩

theorem Flight.advance_inr {flight : Flight} {result : RoundResult} {s s' : σ}
    (h : flight.advance backend agent s = (.inr result, s')) : result.1 = flight.id := by
  obtain ⟨r, t, ht⟩ | ⟨hleft, t, ht⟩ := flight.advance_cases backend agent s
  · rw [ht] at h
    cases h
    rfl
  · rw [ht] at h
    cases h

/-- A call that ends with an error ends with that of its last attempt. -/
theorem Flight.run_pair_of_error {flight : Flight} {result : RoundResult} {s s' : σ}
    {e : TransportError} (h : flight.advance backend agent s = (.inr result, s'))
    (he : result.2 = .error e) : (backend.pair flight.id agent).run s = .error e s' := by
  rw [Flight.advance, Retry.attemptOnce] at h
  cases hrun : (backend.pair flight.id agent).run s with
  | ok outcome t =>
    rw [hrun] at h
    cases h
    cases he
  | error e' t =>
    rw [hrun] at h
    -- The flight ends on a final error, or on its last attempt.
    cases hfinal : isFinal e' with
    | true =>
      simp only [hfinal, if_true] at h
      cases h
      cases he
      rfl
    | false =>
      simp only [hfinal, Bool.false_eq_true, if_false] at h
      by_cases hleft : flight.left ≤ 1
      · rw [if_pos hleft] at h
        cases h
        cases he
        rfl
      · rw [if_neg hleft] at h
        cases h

/-! ### One step of a round -/

variable (backend agent) in
/-- What a step of a round can be: the start of a call, or an attempt of one that is in flight. -/
inductive RoundStep (attempts : ℕ) : RoundState × σ → RoundState × σ → Prop
  /-- The next device's call starts. -/
  | start (id : DeviceId) (waiting : List DeviceId) (running : List Flight)
      (done : List RoundResult) (s : σ) :
      RoundStep attempts ({ waiting := id :: waiting, running, done }, s)
        ({ waiting, running := running ++ [{ id, made := 0, left := attempts }], done }, s)
  /-- A call in flight makes an attempt and goes on. -/
  | goOn {waiting : List DeviceId} {before after : List Flight} {done : List RoundResult}
      {flight flight' : Flight} {s s' : σ}
      (h : flight.advance backend agent s = (.inl flight', s')) :
      RoundStep attempts ({ waiting, running := before ++ flight :: after, done }, s)
        ({ waiting, running := before ++ flight' :: after, done }, s')
  /-- A call in flight makes an attempt and is over. -/
  | finish {waiting : List DeviceId} {before after : List Flight} {done : List RoundResult}
      {flight : Flight} {result : RoundResult} {s s' : σ}
      (h : flight.advance backend agent s = (.inr result, s')) :
      RoundStep attempts ({ waiting, running := before ++ flight :: after, done }, s)
        ({ waiting, running := before ++ after, done := done ++ [result] }, s')

theorem RoundState.advanceAt_spec (attempts : ℕ) {i : ℕ} {st : RoundState}
    (hi : i < st.running.length) (s : σ) :
    RoundStep backend agent attempts (st, s) (st.advanceAt backend agent i s) := by
  obtain ⟨waiting, running, done⟩ := st
  change i < running.length at hi
  -- the picked call, and those before and behind it
  have hsplit : running = running.take i ++ running[i] :: running.drop (i + 1) := by
    rw [List.cons_getElem_drop_succ, List.take_append_drop]
  rcases hadv : running[i].advance backend agent s with ⟨flight' | result, s'⟩
  · have hstep : RoundStep backend agent attempts (⟨waiting, running, done⟩, s)
        (⟨waiting, running.take i ++ flight' :: running.drop (i + 1), done⟩, s') := by
      nth_rewrite 1 [hsplit]
      exact .goOn hadv
    simpa [RoundState.advanceAt, hi, hadv, List.set_eq_take_append_cons_drop] using hstep
  · have hstep : RoundStep backend agent attempts (⟨waiting, running, done⟩, s)
        (⟨waiting, running.take i ++ running.drop (i + 1), done ++ [result]⟩, s') := by
      nth_rewrite 1 [hsplit]
      exact .finish hadv
    simpa [RoundState.advanceAt, hi, hadv, List.eraseIdx_eq_take_drop_succ] using hstep

variable (backend agent) in
/-- A round that is not complete takes such a step: with no room or no device left to start, a call
is in flight. -/
theorem RoundState.step_spec (attempts : ℕ) {active : ℕ} (pick : ℕ) (hactive : 1 ≤ active)
    {st : RoundState} (hst : ¬ st.Complete) (s : σ) :
    RoundStep backend agent attempts (st, s) (st.step backend agent attempts active pick s) := by
  have hadvance (hne : st.running ≠ []) :
      RoundStep backend agent attempts (st, s)
        (st.advanceAt backend agent (pick % st.running.length) s) :=
    st.advanceAt_spec attempts (Nat.mod_lt _ (List.length_pos_of_ne_nil hne)) s
  obtain ⟨waiting, running, done⟩ := st
  cases waiting with
  -- nothing to start, and the round is not complete: some call is in flight
  | nil => exact hadvance fun h => hst ⟨rfl, h⟩
  | cons id waiting =>
    by_cases hroom : running.length < active
    · simp only [RoundState.step, hroom, decide_true]
      exact .start id waiting running done s
    · simp only [RoundState.step, hroom, decide_false]
      -- no room, so there is a call in flight, `active` being positive
      refine hadvance fun h => hroom ?_
      rw [show running = [] from h]
      exact hactive

/-! ### A whole round -/

/-- The devices of a round: those with a result, those in flight, those not started. -/
def RoundState.ids (st : RoundState) : List DeviceId :=
  st.done.map Prod.fst ++ st.running.map Flight.id ++ st.waiting

/-- Every call in flight has an attempt left, so that it can always go on. -/
def RoundState.Live (st : RoundState) : Prop := ∀ flight ∈ st.running, 1 ≤ flight.left

/-- The steps that a round may still take: starts and attempts. It is the measure by which a
round ends. -/
def RoundState.work (attempts : ℕ) (st : RoundState) : ℕ :=
  st.waiting.length * (attempts + 1) + (st.running.map Flight.left).sum

variable {attempts : ℕ}

theorem RoundStep.ids_perm {p q : RoundState × σ} (h : RoundStep backend agent attempts p q) :
    q.1.ids.Perm p.1.ids := by
  cases h with
  | start id waiting running done s => simp [RoundState.ids]
  | goOn h => simp [RoundState.ids, (Flight.advance_inl h).1]
  | finish h =>
    simp only [RoundState.ids, List.map_append, List.map_cons, List.map_nil, List.append_assoc,
      Flight.advance_inr h, List.cons_append, List.nil_append]
    -- the device moves from the calls in flight to the results
    exact List.perm_middle.symm.append_left _

theorem RoundStep.live {p q : RoundState × σ} (h : RoundStep backend agent attempts p q)
    (hattempts : 1 ≤ attempts) (hp : p.1.Live) : q.1.Live := by
  -- A new flight has all its attempts left, and one that goes on has used one of several.
  cases h with
  | start id waiting running done s =>
    intro flight hflight
    rcases List.mem_append.mp hflight with hold | hnew
    · exact hp flight hold
    · rw [List.mem_singleton.mp hnew]
      exact hattempts
  | goOn h =>
    intro flight hflight
    simp only [List.mem_append, List.mem_cons] at hflight
    rcases hflight with hbefore | rfl | hafter
    · exact hp flight (by simp [hbefore])
    · exact (Flight.advance_inl h).2.1
    · exact hp flight (by simp [hafter])
  | finish h =>
    intro flight hflight
    exact hp flight (by simp only [List.mem_append, List.mem_cons] at hflight ⊢; tauto)

theorem RoundStep.work_lt {p q : RoundState × σ} (h : RoundStep backend agent attempts p q)
    (hp : p.1.Live) : q.1.work attempts < p.1.work attempts := by
  cases h with
  | start id waiting running done s =>
    simp only [RoundState.work, List.map_append, List.sum_append, List.map_cons, List.map_nil,
      List.sum_cons, List.sum_nil, List.length_cons]
    -- a start costs one step and brings the call's attempts with it
    linarith
  | goOn h =>
    have := (Flight.advance_inl h).2.2
    simp only [RoundState.work, List.map_append, List.sum_append, List.map_cons, List.sum_cons]
    omega
  | @finish waiting before after done flight result s s' h =>
    have : 1 ≤ flight.left := hp flight (by simp)
    simp only [RoundState.work, List.map_append, List.sum_append, List.map_cons, List.sum_cons]
    omega

/-- With enough fuel the loop runs until the round is complete, and keeps what every step keeps. -/
theorem roundLoop_invariant {active : ℕ} (hattempts : 1 ≤ attempts) (hactive : 1 ≤ active)
    (schedule : Schedule) {I : RoundState × σ → Prop}
    (hI : ∀ p q, RoundStep backend agent attempts p q → I p → I q) (fuel step : ℕ)
    (st : RoundState) (s : σ) (hlive : st.Live) (hfuel : st.work attempts ≤ fuel)
    (hst : I (st, s)) :
    (roundLoop backend agent attempts active schedule fuel step st s).1.Complete ∧
      I (roundLoop backend agent attempts active schedule fuel step st s) := by
  induction fuel generalizing step st s with
  | zero =>
    refine ⟨?_, hst⟩
    show st.Complete
    -- No work is left, so there is neither a device to start nor a call in flight.
    by_contra hnot
    have hstep := RoundState.step_spec backend agent attempts 0 hactive hnot s
    exact Nat.not_lt_zero _ ((hstep.work_lt hlive).trans_le hfuel)
  | succ fuel ih =>
    rw [roundLoop]
    by_cases hc : st.Complete
    · rw [if_pos hc]
      exact ⟨hc, hst⟩
    · rw [if_neg hc]
      have hstep := RoundState.step_spec backend agent attempts (schedule.pick step) hactive hc s
      -- every step uses up work, so one unit of fuel fewer is enough for what is left
      exact ih _ _ _ (hstep.live hattempts hlive)
        (Nat.le_of_lt_succ ((hstep.work_lt hlive).trans_le hfuel)) (hI _ _ hstep hst)

/-- **A round.** It runs every device's call once, whatever the schedule: it ends with no call
waiting or in flight, and what every step keeps holds of its end. -/
theorem runRound_invariant {active : ℕ} (hattempts : 1 ≤ attempts) (hactive : 1 ≤ active)
    (schedule : Schedule) {I : RoundState × σ → Prop}
    (hI : ∀ p q, RoundStep backend agent attempts p q → I p → I q) (pending : List DeviceId)
    (s : σ) (hstart : I ({ waiting := pending, running := [], done := [] }, s)) :
    ∃ done s', I ({ waiting := [], running := [], done }, s') ∧ (done.map Prod.fst).Perm pending ∧
      runRound backend agent attempts active schedule pending s = (schedule.yield done, s') := by
  -- at the start all the work is in the devices that wait
  have hwork : RoundState.work attempts { waiting := pending, running := [], done := [] }
      ≤ roundFuel pending attempts := by simp [RoundState.work, roundFuel]
  obtain ⟨⟨hwaiting, hrunning⟩, hend, hperm⟩ := roundLoop_invariant hattempts hactive schedule
    (I := fun p => I p ∧ p.1.ids.Perm pending)
    (fun p q hpq hp => ⟨hI p q hpq hp.1, hpq.ids_perm.trans hp.2⟩) (roundFuel pending attempts) 0
    { waiting := pending, running := [], done := [] } s (by simp [RoundState.Live]) hwork
    ⟨hstart, by simp [RoundState.ids]⟩
  rw [runRound]
  generalize roundLoop backend agent attempts active schedule (roundFuel pending attempts) 0
    { waiting := pending, running := [], done := [] } s = final at *
  -- complete: only the results are left, one for each device
  obtain ⟨⟨waiting, running, done⟩, s'⟩ := final
  obtain rfl : waiting = [] := hwaiting
  obtain rfl : running = [] := hrunning
  exact ⟨done, s', hend, by simpa [RoundState.ids] using hperm, rfl⟩

end Rounds

end Pax
