import Pax.Framework.Program

/-!
# One program under another

`p.layer f s` runs a client `p` of `I` on a server `f` that keeps a state: each call of the client
is a program of the server over `J`. A run of the two is a run of the client, together with a run of
the server for each of its calls (`returns_layer`). What the server keeps up to an automaton,
however it is called, every client on it keeps (`conforms_layer`).
-/

namespace Program

variable {I J : Interface} {σ α : Type} {f : (c : I.Call) → σ → Program J (I.Reply c × σ)}

/-- The client `p`, on the server `f` in the state `s`: each call of the client is served by a
program that also leaves the state for the next call. -/
def layer (f : (c : I.Call) → σ → Program J (I.Reply c × σ)) : Program I α → σ → Program J (α × σ)
  | .done a, s => .done (a, s)
  | .ask c next, s => f c s >>= fun served => (next served.1).layer f served.2

/-- The calls of the client, in order, with what the server did for them, and the states it went
through. -/
inductive Layered (f : (c : I.Call) → σ → Program J (I.Reply c × σ)) :
    σ → List (Exchange I) → List (Exchange J) → σ → Prop
  | nil (s : σ) : Layered f s [] [] s
  | cons {s s' s'' : σ} {c : I.Call} {reply : I.Reply c} {cs : List (Exchange I)}
    {es es' : List (Exchange J)} (h : Returns (f c s) es (reply, s'))
    (hrest : Layered f s' cs es' s'') : Layered f s (⟨c, reply⟩ :: cs) (es ++ es') s''

/-- **A client on a server** runs as it would, and the server runs for each of its calls. -/
theorem returns_layer {p : Program I α} {s s' : σ} {es : List (Exchange J)} {a : α} :
    Returns (p.layer f s) es (a, s') ↔ ∃ cs, Returns p cs a ∧ Layered f s cs es s' := by
  constructor
  · intro h
    -- From the program: each call is served by a run of its own.
    induction p generalizing s es with
    | done a' =>
      obtain ⟨rfl, heq⟩ := returns_done.mp h
      obtain ⟨rfl, rfl⟩ := Prod.mk.inj heq
      exact ⟨[], .nil _, .nil _⟩
    | ask c next ih =>
      obtain ⟨es₁, ⟨reply, s₁⟩, es₂, rfl, hserved, hrest⟩ := returns_bind.mp h
      obtain ⟨cs, hreturns, hlayered⟩ := ih reply hrest
      exact ⟨⟨c, reply⟩ :: cs, .cons reply hreturns, .cons hserved hlayered⟩
  · rintro ⟨cs, hreturns, hlayered⟩
    -- From the layers: the program has to be one that has made these calls.
    induction hlayered generalizing p with
    | nil s =>
      obtain rfl : p = .done a := by
        cases p with
        | done a' => rw [(returns_done.mp hreturns).2]
        | ask c next =>
          obtain ⟨reply, es', hes, -⟩ := returns_ask.mp hreturns
          cases hes
      exact .nil _
    | cons hserved hrest ih =>
      cases p with
      | done a' => cases (returns_done.mp hreturns).1
      | ask c next =>
        obtain ⟨reply, es', hes, hnext⟩ := returns_ask.mp hreturns
        cases hes
        exact returns_bind.mpr ⟨_, _, _, rfl, hserved, ih hnext⟩

/-- A run of a client that makes a call first: the server serves it, and then the others from the
state it is left in. -/
theorem Layered.of_cons {s s' : σ} {c : I.Call} {reply : I.Reply c} {cs : List (Exchange I)}
    {es : List (Exchange J)} (h : Layered f s (⟨c, reply⟩ :: cs) es s') :
    ∃ es₁ s₁ es₂, es = es₁ ++ es₂ ∧ Returns (f c s) es₁ (reply, s₁) ∧ Layered f s₁ cs es₂ s' := by
  cases h with
  | cons hserved hrest => exact ⟨_, _, _, rfl, hserved, hrest⟩

theorem Layered.of_nil {s s' : σ} {es : List (Exchange J)} (h : Layered f s [] es s') :
    es = [] ∧ s' = s := by
  cases h
  exact ⟨rfl, rfl⟩

/-- A run of a client that makes some calls first: it comes apart at the state in which these
leave the server. -/
theorem Layered.split {s s' : σ} {cs cs' : List (Exchange I)} {es : List (Exchange J)}
    (h : Layered f s (cs ++ cs') es s') :
    ∃ es₁ s₁ es₂, es = es₁ ++ es₂ ∧ Layered f s cs es₁ s₁ ∧ Layered f s₁ cs' es₂ s' := by
  induction cs generalizing s es with
  | nil => exact ⟨[], s, es, rfl, .nil s, h⟩
  | cons c cs ih =>
    obtain ⟨es₁, s₁, es', rfl, hserved, hrest⟩ := Layered.of_cons h
    obtain ⟨es₂, s₂, es₃, rfl, hfirst, hsecond⟩ := ih hrest
    exact ⟨es₁ ++ es₂, s₂, es₃, (List.append_assoc ..).symm, .cons hserved hfirst, hsecond⟩

/-- **The invariant rule.** A server that conforms to an automaton, and keeps an invariant between
its calls, does so under every client. -/
theorem conforms_layer {τ : Type*} {A : Lts τ (Exchange J)} (Inv : σ → τ → Prop)
    (hf : ∀ c s t, Inv s t → (f c s).Conforms A (fun served t' => Inv served.2 t') t)
    (p : Program I α) {s : σ} {t : τ} (h : Inv s t) :
    (p.layer f s).Conforms A (fun served t' => Inv served.2 t') t := by
  induction p generalizing s t with
  | done a => exact h
  | ask c next ih =>
    refine conforms_bind.mpr ((hf c s t h).mono fun served t' hinv => ?_)
    exact ih served.1 hinv

end Program
