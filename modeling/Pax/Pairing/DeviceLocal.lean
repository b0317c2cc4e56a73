import Pax.Pairing.Rounds

/-!
# Backends whose answers are local to the device

A backend is *device-local* if what an attempt on a device comes to depends only on the earlier
attempts on that device: each device has a script, and an attempt consumes the next entry of its own
device's script and of no other (`DeviceLocal`).

On such a backend a call of `pair_device` can be followed on its device's script alone
(`DeviceLocal.match_pair`), whatever other devices' attempts come between its own. So a round gives
every pending device the result of a call that runs with nothing else in between, under every
schedule (`DeviceLocal.runRound_eq`).
-/

namespace Pax

/-- What attempts on the devices come to depends on their own earlier attempts alone. -/
structure DeviceLocal {σ : Type} (backend : BluetoothBackend σ) (agent : PairingAgent) where
  /-- What the `n`-th attempt on a device, counted from 0, comes to. -/
  script : σ → DeviceId → ℕ → Except TransportError PairingOutcome
  /-- How many attempts on a device were made. -/
  attemptsOf : σ → DeviceId → ℕ
  pair_run : ∀ id s, ∃ s',
    (backend.pair id agent).run s = Outcome.ofExcept (script s id (attemptsOf s id)) s' ∧
      script s' = script s ∧
      attemptsOf s' = Function.update (attemptsOf s) id (attemptsOf s id + 1)

/-- The device-local backend that plays a given script for each device. -/
def scriptBackend (script : DeviceId → ℕ → Except TransportError PairingOutcome) :
    BluetoothBackend (DeviceId → ℕ) where
  capabilities := { kind := .mock, maxConcurrentPairings := 4, canSpoofAddress := true }
  setLocalAddress _ := pure ()
  pair id _ := fun made =>
    Outcome.ofExcept (script id (made id)) (Function.update made id (made id + 1))
  connect id := throw (.deviceNotFound id)
  disconnect _ := pure ()
  pushFile _ _ := throw (.unsupported "mock" "push_file")

def scriptBackend_deviceLocal (script : DeviceId → ℕ → Except TransportError PairingOutcome)
    (agent : PairingAgent) : DeviceLocal (scriptBackend script) agent where
  script _ := script
  attemptsOf made := made
  pair_run _ _ := ⟨_, rfl, rfl, rfl⟩

namespace DeviceLocal

variable {σ : Type} {backend : BluetoothBackend σ} {agent : PairingAgent}

/-- State `s` is `s₀` after `n` attempts on `id` in all, and no more on other devices. -/
structure Tracks (hlocal : DeviceLocal backend agent) (id : DeviceId) (s₀ s : σ) (n : ℕ) :
    Prop where
  script : hlocal.script s = hlocal.script s₀
  attempts : hlocal.attemptsOf s = Function.update (hlocal.attemptsOf s₀) id n

variable (hlocal : DeviceLocal backend agent)

theorem tracks_self (id : DeviceId) (s : σ) : hlocal.Tracks id s s (hlocal.attemptsOf s id) :=
  ⟨rfl, (Function.update_eq_self id _).symm⟩

/-- An attempt on a device comes to what the next entry of its script says. -/
theorem match_pair (id : DeviceId) (s₀ s : σ) (n : ℕ) (h : hlocal.Tracks id s₀ s n) :
    Outcome.Match (hlocal.Tracks id s₀) ((backend.pair id agent).run s)
      ((Retry.scripted (hlocal.script s₀ id)).run n) := by
  obtain ⟨s', hrun, hscript, hattempts⟩ := hlocal.pair_run id s
  -- the attempt consumes entry `n` of the script, in both runs
  have hn : hlocal.attemptsOf s id = n := by rw [h.attempts, Function.update_self]
  rw [hrun, h.script, hn]
  refine Outcome.Match.ofExcept _ ⟨hscript.trans h.script, ?_⟩
  rw [hattempts, hn, h.attempts, Function.update_idem]

/-! ### What a call in flight comes to -/

/-- What is left of a call comes to this, if it runs alone: a result, and the attempts made on the
device by then. -/
def promise (flight : Flight) (s : σ) : Except TransportError PairReport × ℕ :=
  Outcome.split ((pairFrom (Retry.scripted (hlocal.script s flight.id)) flight.made
    flight.left).run (hlocal.attemptsOf s flight.id))

/-- What a call in flight will come to depends on its device's own script and attempts only. -/
theorem promise_congr (flight : Flight) {s s' : σ} (hscript : hlocal.script s' = hlocal.script s)
    (hattempts : hlocal.attemptsOf s' flight.id = hlocal.attemptsOf s flight.id) :
    hlocal.promise flight s' = hlocal.promise flight s := by
  rw [promise, promise, hscript, hattempts]

/-- The promise of a call in flight is what the call comes to on the backend, if nothing else
comes in between. -/
theorem run_pairFrom (flight : Flight) (s : σ) :
    ∃ s', Outcome.split ((pairFrom (backend.pair flight.id agent) flight.made flight.left).run s)
        = ((hlocal.promise flight s).1, s') ∧
      hlocal.Tracks flight.id s s' (hlocal.promise flight s).2 := by
  have hmatch := match_pairFrom (hlocal.match_pair flight.id s) flight.made flight.left s
    (hlocal.attemptsOf s flight.id) (hlocal.tracks_self flight.id s)
  exact ⟨_, Prod.ext hmatch.split.1 rfl, hmatch.split.2⟩

theorem promise_eq (flight : Flight) (s : σ) {r : Except TransportError PairReport} {s' : σ}
    (h : Outcome.split ((pairFrom (backend.pair flight.id agent) flight.made flight.left).run s)
      = (r, s')) :
    hlocal.promise flight s = (r, hlocal.attemptsOf s' flight.id) := by
  obtain ⟨t, hrun, htracks⟩ := hlocal.run_pairFrom flight s
  rw [h] at hrun
  obtain ⟨hr, rfl⟩ := Prod.ext_iff.mp hrun
  refine Prod.ext hr.symm ?_
  rw [htracks.attempts, Function.update_self]

/-- An attempt of a call in flight is counted for its own device, and for no other. -/
theorem advance_state (flight : Flight) {s s' : σ} {x : Flight ⊕ RoundResult}
    (h : flight.advance backend agent s = (x, s')) :
    hlocal.script s' = hlocal.script s ∧
      hlocal.attemptsOf s'
        = Function.update (hlocal.attemptsOf s) flight.id (hlocal.attemptsOf s flight.id + 1) := by
  obtain ⟨t, hrun, hscript, hattempts⟩ := hlocal.pair_run flight.id s
  have hs' : s' = t := by
    -- an attempt of the call is one call of the backend's `pair`, whatever the call makes of it
    have hsnd := flight.advance_snd backend agent s
    rw [h, hrun, Outcome.split_ofExcept] at hsnd
    exact hsnd
  rw [hs']
  exact ⟨hscript, hattempts⟩

theorem attemptsOf_advance_of_ne (flight : Flight) {s s' : σ} {x : Flight ⊕ RoundResult}
    (h : flight.advance backend agent s = (x, s')) {id : DeviceId} (hid : id ≠ flight.id) :
    hlocal.attemptsOf s' id = hlocal.attemptsOf s id := by
  rw [(hlocal.advance_state flight h).2, Function.update_of_ne hid]

/-- A call that goes on after an attempt still comes to what was promised before it. -/
theorem promise_goOn {flight flight' : Flight} (hleft : 1 ≤ flight.left) {s s' : σ}
    (h : flight.advance backend agent s = (.inl flight', s')) :
    hlocal.promise flight s = hlocal.promise flight' s' := by
  obtain ⟨t, hrun, htracks⟩ := hlocal.run_pairFrom flight' s'
  have hrest : Outcome.split ((pairFrom (backend.pair flight.id agent) flight.made
      flight.left).run s) = ((hlocal.promise flight' s').1, t) := by
    rw [flight.run_pairFrom hleft s, h]
    exact hrun
  -- what is left after the attempt ends with the same result and the same count
  rw [hlocal.promise_eq flight s hrest, htracks.attempts, ← (Flight.advance_inl h).1,
    Function.update_self]

/-- A call that is over has come to the result that was promised. -/
theorem promise_finish {flight : Flight} (hleft : 1 ≤ flight.left) {result : RoundResult}
    {s s' : σ} (h : flight.advance backend agent s = (.inr result, s')) :
    hlocal.promise flight s = (result.2, hlocal.attemptsOf s' flight.id) := by
  apply hlocal.promise_eq
  rw [flight.run_pairFrom hleft s, h, Outcome.split_ofExcept]

/-! ### A round -/

/-- What a whole call of `pair_device` on `id` comes to from state `s`, with the attempts that it
has made by then. -/
def whole (attempts : ℕ) (s : σ) (id : DeviceId) : Except TransportError PairReport × ℕ :=
  hlocal.promise { id, made := 0, left := attempts } s

/-- The calls of a round, compared with whole calls at its start `s₀`: devices not started are as
they were, calls in flight still come to what a whole call came to, and calls that are over have
come to it. -/
structure Consistent (attempts : ℕ) (s₀ : σ) (p : RoundState × σ) : Prop where
  script : hlocal.script p.2 = hlocal.script s₀
  waiting : ∀ id ∈ p.1.waiting, hlocal.attemptsOf p.2 id = hlocal.attemptsOf s₀ id
  running : ∀ flight ∈ p.1.running, 1 ≤ flight.left ∧
    hlocal.promise flight p.2 = hlocal.whole attempts s₀ flight.id
  done : ∀ result ∈ p.1.done,
    (result.2, hlocal.attemptsOf p.2 result.1) = hlocal.whole attempts s₀ result.1

/-- **The invariant of a round from `s₀`.** -/
structure RoundInv (attempts : ℕ) (s₀ : σ) (p : RoundState × σ) : Prop where
  nodup : p.1.ids.Nodup
  consistent : hlocal.Consistent attempts s₀ p
  others : ∀ id ∉ p.1.ids, hlocal.attemptsOf p.2 id = hlocal.attemptsOf s₀ id

/-- In a round each device occurs once: the one whose call is picked is none of the others. -/
theorem notMem_of_nodup {waiting : List DeviceId} {before after : List Flight} {flight : Flight}
    {done : List RoundResult}
    (h : (RoundState.ids { waiting, running := before ++ flight :: after, done }).Nodup) :
    flight.id ∉ RoundState.ids { waiting, running := before ++ after, done } := by
  -- bring the picked device to the front
  have hperm : (RoundState.ids { waiting, running := before ++ flight :: after, done }).Perm
      (flight.id :: RoundState.ids { waiting, running := before ++ after, done }) := by
    simp only [RoundState.ids, List.map_append, List.map_cons, List.append_assoc, List.cons_append]
    rw [← List.append_assoc, ← List.append_assoc (List.map Prod.fst done)]
    exact List.perm_middle
  exact (List.nodup_cons.mp (hperm.nodup_iff.mp h)).1

variable {hlocal} {attempts : ℕ} {s₀ : σ}

/-- The attempt of the call that is picked leaves the other calls as they are. -/
theorem Consistent.frame {waiting : List DeviceId} {before after : List Flight} {flight : Flight}
    {done : List RoundResult} {s s' : σ} {x : Flight ⊕ RoundResult}
    (hp : hlocal.Consistent attempts s₀ (⟨waiting, before ++ flight :: after, done⟩, s))
    (hnot : flight.id ∉ RoundState.ids { waiting, running := before ++ after, done })
    (h : flight.advance backend agent s = (x, s')) :
    hlocal.Consistent attempts s₀ (⟨waiting, before ++ after, done⟩, s') := by
  have hscript := (hlocal.advance_state flight h).1
  simp only [RoundState.ids, List.mem_append, List.mem_map, not_or, not_exists, not_and] at hnot
  obtain ⟨⟨hdone, hrunning⟩, hwaiting⟩ := hnot
  -- a promise depends on its own device's attempts, and these have not changed
  have hother {id : DeviceId} (hid : id ≠ flight.id) :=
    hlocal.attemptsOf_advance_of_ne flight h hid
  refine ⟨hscript.trans hp.script, ?_, ?_, ?_⟩
  · intro id hid
    rw [hother (ne_of_mem_of_not_mem hid hwaiting)]
    exact hp.waiting id hid
  · intro g hg
    obtain ⟨hleft, hpromise⟩ := hp.running g (by
      simp only [List.mem_append, List.mem_cons] at hg ⊢
      tauto)
    refine ⟨hleft, ?_⟩
    rw [← hpromise]
    exact hlocal.promise_congr g hscript (hother (hrunning g (List.mem_append.mp hg)))
  · intro result hresult
    rw [hother (hdone result hresult)]
    exact hp.done result hresult

/-- Each step keeps the invariant: a call starts, makes another attempt, or hands out its result. -/
theorem RoundInv.step (hattempts : 1 ≤ attempts) (p q : RoundState × σ)
    (hpq : RoundStep backend agent attempts p q) (hp : hlocal.RoundInv attempts s₀ p) :
    hlocal.RoundInv attempts s₀ q := by
  have hnodup : q.1.ids.Nodup := hpq.ids_perm.nodup_iff.mpr hp.nodup
  have hmem (id : DeviceId) : id ∈ q.1.ids ↔ id ∈ p.1.ids := hpq.ids_perm.mem_iff
  obtain ⟨hnodup₀, hconsistent, hothers⟩ := hp
  cases hpq with
  | start id waiting running done s =>
    refine ⟨hnodup, ⟨hconsistent.script, ?_, ?_, hconsistent.done⟩,
      fun id' h => hothers id' fun h' => h ((hmem id').mpr h')⟩
    · exact fun id' h => hconsistent.waiting id' (List.mem_cons_of_mem _ h)
    · intro flight hflight
      rcases List.mem_append.mp hflight with hold | hnew
      · exact hconsistent.running flight hold
      · rw [List.mem_singleton.mp hnew]
        -- a call that starts now comes to what it would have come to at the start
        exact ⟨hattempts, hlocal.promise_congr _ hconsistent.script
          (hconsistent.waiting id List.mem_cons_self)⟩
  | @goOn waiting before after done flight flight' s s' h =>
    obtain ⟨hleft, hpromise⟩ := hconsistent.running flight (by simp)
    obtain ⟨hscript, hwaiting, hrunning, hdone⟩ := hconsistent.frame (notMem_of_nodup hnodup₀) h
    refine ⟨hnodup, ⟨hscript, hwaiting, ?_, hdone⟩, ?_⟩
    · intro g hg
      by_cases hgf : g = flight'
      -- the picked call itself: its promise survives the attempt
      · rw [hgf, (Flight.advance_inl h).1, ← hpromise, hlocal.promise_goOn hleft h]
        exact ⟨(Flight.advance_inl h).2.1, rfl⟩
      · exact hrunning g (by simpa [hgf] using hg)
    · intro id hid
      rw [hmem] at hid
      rw [hlocal.attemptsOf_advance_of_ne flight h (by rintro rfl; simp [RoundState.ids] at hid)]
      exact hothers id hid
  | @finish waiting before after done flight result s s' h =>
    obtain ⟨hleft, hpromise⟩ := hconsistent.running flight (by simp)
    obtain ⟨hscript, hwaiting, hrunning, hdone⟩ := hconsistent.frame (notMem_of_nodup hnodup₀) h
    refine ⟨hnodup, ⟨hscript, hwaiting, hrunning, ?_⟩, ?_⟩
    · intro r hr
      rcases List.mem_append.mp hr with hold | hnew
      · exact hdone r hold
      -- the new result is what the call had promised
      · rw [List.mem_singleton.mp hnew, Flight.advance_inr h, ← hpromise]
        exact (hlocal.promise_finish hleft h).symm
    · intro id hid
      rw [hmem] at hid
      rw [hlocal.attemptsOf_advance_of_ne flight h (by rintro rfl; simp [RoundState.ids] at hid)]
      exact hothers id hid

/-- **A round on a device-local backend.** Every pending device gets the result of a whole call of
its own, in some order, and the attempts of that call and no others are made. -/
theorem runRound_eq {active : ℕ} (hattempts : 1 ≤ attempts) (hactive : 1 ≤ active)
    (schedule : Schedule) {pending : List DeviceId} (hpending : pending.Nodup) (s : σ) :
    ∃ results s', runRound backend agent attempts active schedule pending s = (results, s') ∧
      results.Perm (pending.map fun id => (id, (hlocal.whole attempts s id).1)) ∧
      hlocal.script s' = hlocal.script s ∧
      ∀ id, hlocal.attemptsOf s' id
        = if id ∈ pending then (hlocal.whole attempts s id).2 else hlocal.attemptsOf s id := by
  -- The invariant holds before anything has started: everyone waits, and nobody has been tried.
  have hstart : hlocal.RoundInv attempts s ({ waiting := pending, running := [], done := [] }, s) :=
    ⟨by simpa [RoundState.ids] using hpending, ⟨rfl, fun _ _ => rfl, by simp, by simp⟩,
      fun _ _ => rfl⟩
  obtain ⟨done, s', hend, hids, hrun⟩ :=
    runRound_invariant hattempts hactive schedule (RoundInv.step hattempts) pending s hstart
  refine ⟨_, s', hrun, (schedule.yield_perm done).trans ?_, hend.consistent.script, ?_⟩
  -- each result is determined by its device, so their order is that of the devices
  · have hdone : done = (done.map Prod.fst).map fun id => (id, (hlocal.whole attempts s id).1) := by
      rw [List.map_map]
      refine (List.map_id done).symm.trans (List.map_congr_left ?_)
      intro result hresult
      exact Prod.ext rfl (Prod.ext_iff.mp (hend.consistent.done result hresult)).1
    rw [hdone]
    exact hids.map _
  · intro id
    -- A device of the round has made its whole call, and any other was left alone.
    by_cases hid : id ∈ pending
    · rw [if_pos hid]
      obtain ⟨result, hresult, rfl⟩ := List.mem_map.mp (hids.mem_iff.mpr hid)
      exact (Prod.ext_iff.mp (hend.consistent.done result hresult)).2
    · rw [if_neg hid]
      exact hend.others id (by simpa [RoundState.ids, hids.mem_iff] using hid)

end DeviceLocal

end Pax
