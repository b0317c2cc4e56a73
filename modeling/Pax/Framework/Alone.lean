import Pax.Framework.Pool

/-!
# A program on its own

A program that is the only one to use the shared state: each of its calls is answered from the state
that the one before has left. `Alone` comes apart along the program, call by call (`alone_ask`) and
part by part (`alone_bind`), so that what it returns and what it leaves are computed together.

It is the special case of a pool with one task (`Pax.Framework.Pool`), and the way in which a claim
about a call "with nothing in between" is stated. Every program comes to something in it
(`exists_alone`), so that such a claim is never empty. `runAlone` computes it, for a fixed choice of
the environment.
-/

namespace Program

variable {I : Interface} {Ω σ α β : Type} {H : Handler I Ω σ} {s s' : σ} {a : α} {b : β}

/-- From the state `s` and with nothing in between, the program returns `a` and leaves `s'`. -/
def Alone (H : Handler I Ω σ) (p : Program I α) (s : σ) (a : α) (s' : σ) : Prop :=
  ∃ es, Returns p es a ∧ Served H s es s'

@[simp] theorem alone_done {a' : α} :
    Alone H (.done a' : Program I α) s a s' ↔ a = a' ∧ s' = s := by
  constructor
  · rintro ⟨es, hreturns, hserved⟩
    obtain ⟨rfl, rfl⟩ := returns_done.mp hreturns
    exact ⟨rfl, hserved.eq_of_nil⟩
  · rintro ⟨rfl, rfl⟩
    exact ⟨[], .nil _, .nil _⟩

/-- A program that begins with a call: the call is answered from the state there is, and what
follows goes on from the state that the answer leaves. -/
theorem alone_ask {c : I.Call} {next : I.Reply c → Program I α} :
    Alone H (.ask c next) s a s' ↔ ∃ ω, Alone H (next (H c ω s).1) (H c ω s).2 a s' := by
  constructor
  · rintro ⟨es, hreturns, hserved⟩
    obtain ⟨reply, es', rfl, hrest⟩ := returns_ask.mp hreturns
    obtain ⟨ω, hreply, hafter⟩ := hserved.of_cons
    obtain rfl : (H c ω s).1 = reply := hreply
    exact ⟨ω, es', hrest, hafter⟩
  · rintro ⟨ω, es, hreturns, hserved⟩
    exact ⟨⟨c, _⟩ :: es, .cons _ hreturns, hserved.cons⟩

theorem alone_call_bind {c : I.Call} {f : I.Reply c → Program I α} :
    Alone H (call c >>= f) s a s' ↔ ∃ ω, Alone H (f (H c ω s).1) (H c ω s).2 a s' :=
  alone_ask

/-- One program after another: the second one goes on from the state, and with the value, that
the first one has left. -/
theorem alone_bind {p : Program I α} {f : α → Program I β} :
    Alone H (p >>= f) s b s' ↔ ∃ a s₁, Alone H p s a s₁ ∧ Alone H (f a) s₁ b s' := by
  constructor
  · rintro ⟨es, hreturns, hserved⟩
    obtain ⟨es₁, a, es₂, rfl, hfirst, hsecond⟩ := returns_bind.mp hreturns
    obtain ⟨s₁, hserved₁, hserved₂⟩ := hserved.split
    exact ⟨a, s₁, ⟨es₁, hfirst, hserved₁⟩, es₂, hsecond, hserved₂⟩
  · rintro ⟨a, s₁, ⟨es₁, hfirst, hserved₁⟩, es₂, hsecond, hserved₂⟩
    exact ⟨es₁ ++ es₂, returns_bind.mpr ⟨es₁, a, es₂, rfl, hfirst, hsecond⟩,
      hserved₁.append hserved₂⟩

/-- **The invariant rule for an interpreted program**: what all calls keep that it uses is kept by
it. -/
theorem Alone.invariant_interpret {J : Interface} {f : (c : J.Call) → Program I (J.Reply c)}
    {ok : J.Call → Prop} {P : σ → Prop}
    (hf : ∀ c, ok c → ∀ s r s', P s → Alone H (f c) s r s' → P s') {p : Program J α}
    (hp : p.Uses ok) (h : Alone H (p.interpret f) s a s') (hs : P s) : P s' := by
  induction p generalizing s with
  | done a' =>
    obtain ⟨-, rfl⟩ := alone_done.mp h
    exact hs
  | ask c next ih =>
    obtain ⟨r, s₁, hcall, hrest⟩ := alone_bind.mp h
    exact ih r (hp.2 r) hrest (hf c hp.1 s r s₁ hs hcall)

/-- Run the program, with the same choice of the environment for each call. -/
def runAlone (H : Handler I Ω σ) (ω : Ω) : Program I α → σ → α × σ
  | .done a, s => (a, s)
  | .ask c next, s => runAlone H ω (next (H c ω s).1) (H c ω s).2

/-- What it comes to then is one of the things that it may come to. -/
theorem alone_runAlone (ω : Ω) (p : Program I α) (s : σ) :
    Alone H p s (runAlone H ω p s).1 (runAlone H ω p s).2 := by
  induction p generalizing s with
  | done a => exact alone_done.mpr ⟨rfl, rfl⟩
  | ask c next ih => exact alone_ask.mpr ⟨ω, ih (H c ω s).1 (H c ω s).2⟩

/-- Every program comes to something on its own. The tree is well founded, and each call is
answered for some choice of the environment. -/
theorem exists_alone [Nonempty Ω] (H : Handler I Ω σ) (p : Program I α) (s : σ) :
    ∃ a s', Alone H p s a s' := by
  obtain ⟨ω⟩ := ‹Nonempty Ω›
  exact ⟨_, _, alone_runAlone ω p s⟩

end Program
