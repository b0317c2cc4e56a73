import Pax.Framework.Concurrently

/-!
# Programs with calls of their own

If each of the programs that run concurrently makes calls with a key of its own, then what is done
can be taken apart: the exchanges with its key are, in their order, those of one run of the program,
and there are no others (`returns_concurrently_apart`).

The key stands for whatever the programs do not share. In a batch it is the device that a call is
about, so that the calls for one device are seen in the order of one program although those for
other devices come in between.

The proof is the induction rule for concurrent programs (`Gathers`), with `RanApart` for what is
gathered: the jobs, each with its key, the exchanges of all of them, and what they have returned.
-/

namespace Program

variable {I : Interface} {β κ : Type} {k k' : κ} {p p' : Program I β}
  {jobs jobs' : List (κ × Program I β)}

/-- A job is the first one, or one of the others with another key. -/
theorem first_or_other (hnodup : (((k, p) :: jobs).map Prod.fst).Nodup)
    (hmem : (k', p') ∈ (k, p) :: jobs) :
    (k' = k ∧ p' = p) ∨ (k' ≠ k ∧ (k', p') ∈ jobs) := by
  rw [List.map_cons, List.nodup_cons] at hnodup
  rcases List.mem_cons.mp hmem with heq | hother
  · exact .inl (Prod.mk.inj heq)
  · have hkey : k' ∈ jobs.map Prod.fst := List.mem_map_of_mem hother
    exact .inr ⟨fun heq => hnodup.1 (heq ▸ hkey), hother⟩

variable [DecidableEq κ]

/-- The exchanges with the key, in their order, out of those of all programs. -/
def ofKey (key : I.Call → Option κ) (k : κ) (es : List (Exchange I)) : List (Exchange I) :=
  es.filter fun e => key e.call = some k

/-- The programs, of which each has a key, ran with these exchanges and returned these values: each
value is that of a key's program, with the exchanges of that key. -/
structure RanApart (key : I.Call → Option κ) (jobs : List (κ × Program I β))
    (es : List (Exchange I)) (out : List β) : Prop where
  within : ∀ e ∈ es, ∃ k ∈ jobs.map Prod.fst, key e.call = some k
  own : ∃ owners : List κ, owners.Perm (jobs.map Prod.fst) ∧
    List.Forall₂ (fun k b => ∃ p, (k, p) ∈ jobs ∧ Returns p (ofKey key k es) b) owners out

variable {key : I.Call → Option κ} {es es' : List (Exchange I)} {out : List β}

@[simp] theorem ofKey_nil : ofKey key k ([] : List (Exchange I)) = [] := rfl

theorem ofKey_cons_self {e : Exchange I} (h : key e.call = some k) :
    ofKey key k (e :: es) = e :: ofKey key k es :=
  List.filter_cons_of_pos (decide_eq_true h)

theorem ofKey_cons_other {e : Exchange I} (h : key e.call ≠ some k) :
    ofKey key k (e :: es) = ofKey key k es :=
  List.filter_cons_of_neg (by simpa using h)

/-- There are no exchanges with a key that no call has. -/
theorem ofKey_eq_nil (h : ∀ e ∈ es, key e.call ≠ some k) : ofKey key k es = [] := by
  rw [ofKey, List.filter_eq_nil_iff]
  exact fun e he => by simpa using h e he

namespace RanApart

theorem nil : RanApart key ([] : List (κ × Program I β)) [] [] :=
  ⟨fun _ he => absurd he List.not_mem_nil, [], .nil, .nil⟩

theorem perm (h : RanApart key jobs es out) (hjobs : jobs.Perm jobs') :
    RanApart key jobs' es out := by
  obtain ⟨owners, howners, hown⟩ := h.own
  refine ⟨fun e he => ?_, owners, howners.trans (hjobs.map _), hown.imp fun k b hk => ?_⟩
  · obtain ⟨k, hk, hkey⟩ := h.within e he
    exact ⟨k, (hjobs.map _).mem_iff.mp hk, hkey⟩
  · obtain ⟨p, hp, hreturns⟩ := hk
    exact ⟨p, hjobs.mem_iff.mp hp, hreturns⟩

/-- One more program is over, which had no call left to make. -/
theorem done {b : β} (hnodup : (((k, .done b) :: jobs).map Prod.fst).Nodup)
    (h : RanApart key jobs es out) : RanApart key ((k, .done b) :: jobs) es (b :: out) := by
  obtain ⟨owners, howners, hown⟩ := h.own
  have hnot : k ∉ jobs.map Prod.fst := (List.nodup_cons.mp hnodup).1
  -- None of the exchanges is for the job that is done: they are all for the jobs that are left.
  have hnone : ofKey key k es = [] := by
    refine ofKey_eq_nil fun e he heq => hnot ?_
    obtain ⟨k', hk', hkey⟩ := h.within e he
    exact Option.some.inj (hkey.symm.trans heq) ▸ hk'
  -- Its result comes first, and it has no exchanges of its own.
  refine ⟨fun e he => ?_, k :: owners, howners.cons k,
    .cons ⟨.done b, List.mem_cons_self, ?_⟩ (hown.imp fun k' b' hk' => ?_)⟩
  · obtain ⟨k', hk', hkey⟩ := h.within e he
    exact ⟨k', List.mem_cons_of_mem _ hk', hkey⟩
  · rw [hnone]
    exact .nil _
  · obtain ⟨p, hp, hreturns⟩ := hk'
    exact ⟨p, List.mem_cons_of_mem _ hp, hreturns⟩

/-- One of the programs made a call of its own key before what is gathered so far. Nothing
changes for the others, whose keys are different. -/
theorem ask {c : I.Call} {next : I.Reply c → Program I β} {r : I.Reply c} (hkey : key c = some k)
    (hnodup : (((k, .ask c next) :: jobs).map Prod.fst).Nodup)
    (h : RanApart key ((k, next r) :: jobs) es out) :
    RanApart key ((k, .ask c next) :: jobs) (⟨c, r⟩ :: es) out := by
  obtain ⟨owners, howners, hown⟩ := h.own
  refine ⟨List.forall_mem_cons.mpr ⟨⟨k, List.mem_cons_self, hkey⟩, h.within⟩, owners, howners,
    hown.imp fun k' b hk' => ?_⟩
  obtain ⟨p, hp, hreturns⟩ := hk'
  have hfirst : (((k, next r) :: jobs).map Prod.fst).Nodup := hnodup
  -- The call is the first exchange of its own job, and those of any other job are what they were.
  rcases first_or_other hfirst hp with ⟨rfl, rfl⟩ | ⟨hne, hother⟩
  · refine ⟨.ask c next, List.mem_cons_self, ?_⟩
    rw [ofKey_cons_self hkey]
    exact .cons r hreturns
  · refine ⟨p, List.mem_cons_of_mem _ hother, ?_⟩
    rwa [ofKey_cons_other fun heq => hne (Option.some.inj (heq.symm.trans hkey))]

end RanApart

/-- Whatever keys the programs have, if they are different ones. -/
def Separable (key : I.Call → Option κ) (ps : List (Program I β)) (es : List (Exchange I))
    (out : List β) : Prop :=
  ∀ jobs : List (κ × Program I β), jobs.map Prod.snd = ps → (jobs.map Prod.fst).Nodup →
    (∀ job ∈ jobs, job.2.Uses fun c => key c = some job.1) → RanApart key jobs es out

theorem gathers_separable (key : I.Call → Option κ) :
    Gathers (Separable (I := I) (β := β) key) where
  nil := by
    intro jobs hjobs _ _
    rw [List.map_eq_nil_iff] at hjobs
    exact hjobs ▸ .nil
  perm := by
    intro ps ps' es out h hps jobs hjobs hnodup huses
    -- The order in which the programs are listed does not matter, since each has its key with it.
    have hmap : List.Forall₂ (fun p (job : κ × Program I β) => p = job.2) ps' jobs := by
      rw [← hjobs]
      exact List.forall₂_map_left_iff.mpr (List.forall₂_same.mpr fun _ _ => rfl)
    -- the jobs in the other order
    obtain ⟨jobs', hsame, hperm⟩ := List.perm_comp_forall₂ hps hmap
    have hsnd : jobs'.map Prod.snd = ps := by
      have heq := List.forall₂_map_right_iff.mpr hsame
      exact (List.forall₂_eq_eq_eq ▸ heq : ps = jobs'.map Prod.snd).symm
    refine (h jobs' hsnd ((hperm.map _).nodup_iff.mpr hnodup) fun job hjob => ?_).perm hperm
    exact huses job (hperm.mem_iff.mp hjob)
  done := by
    intro ps es out b h jobs hjobs hnodup huses
    -- The job of the first program, with its key, and those of the others.
    obtain ⟨⟨k, p⟩, jobs, rfl, rfl, rfl⟩ := List.map_eq_cons_iff.mp hjobs
    refine RanApart.done hnodup (h jobs rfl (List.nodup_cons.mp hnodup).2 fun job hjob => ?_)
    exact huses job (List.mem_cons_of_mem _ hjob)
  ask := by
    intro c next r ps es out h jobs hjobs hnodup huses
    obtain ⟨⟨k, p⟩, jobs, rfl, rfl, rfl⟩ := List.map_eq_cons_iff.mp hjobs
    obtain ⟨hask, hothers⟩ := List.forall_mem_cons.mp huses
    refine RanApart.ask hask.1 hnodup (h ((k, next r) :: jobs) rfl hnodup ?_)
    exact List.forall_mem_cons.mpr ⟨hask.2 r, hothers⟩

/-- **Programs with calls of their own, concurrently.** Whatever the order in which they go on,
all exchanges have one of the keys, and each result is that of a run of the program that owns it,
with the exchanges of its key. -/
theorem returns_concurrently_apart {g : κ → Program I β} {active : ℕ} {picks : List ℕ}
    {ks : List κ} (hnodup : ks.Nodup) (huses : ∀ k ∈ ks, (g k).Uses fun c => key c = some k)
    (h : Returns (concurrently active picks (ks.map g) [] []) es out) :
    (∀ e ∈ es, ∃ k ∈ ks, key e.call = some k) ∧ ∃ owners : List κ, owners.Perm ks ∧
      List.Forall₂ (fun k b => Returns (g k) (ofKey key k es) b) owners out := by
  obtain ⟨returned, hran, rfl⟩ := (gathers_separable key).concurrently h
  have hfst : (ks.map fun k => (k, g k)).map Prod.fst = ks := by
    rw [List.map_map]
    exact List.map_id ks
  have hsnd : (ks.map fun k => (k, g k)).map Prod.snd = [] ++ ks.map g := by
    rw [List.map_map]
    rfl
  -- Each program is listed with its own key, and uses no other.
  have hapart := hran (ks.map fun k => (k, g k)) hsnd (hfst.symm ▸ hnodup) fun job hjob => by
    obtain ⟨k, hk, rfl⟩ := List.mem_map.mp hjob
    exact huses k hk
  obtain ⟨owners, howners, hown⟩ := hapart.own
  rw [hfst] at howners
  refine ⟨fun e he => hfst ▸ hapart.within e he, owners, howners, hown.imp fun k b hk => ?_⟩
  -- A program is found by its key, since no key is listed twice.
  obtain ⟨p, hp, hreturns⟩ := hk
  obtain ⟨k', -, heq⟩ := List.mem_map.mp hp
  obtain ⟨rfl, rfl⟩ := Prod.mk.inj heq
  exact hreturns

end Program
