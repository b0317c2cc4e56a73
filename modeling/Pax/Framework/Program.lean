import Pax.Framework.Lts

/-!
# Interaction programs

An `Interface` says which calls can be made and what each is replied. A program over it is a tree:
it returns, or it makes a call and goes on with the reply. What a program does is read off its
*paths*, the exchanges it may have had so far with what is left of it then.

A program says nothing about where the replies come from. That is added in `Pax.Framework.Pool`,
where any number of programs are answered from one shared state. So the same program is compared
with the source line by line, is run step by step among others, and is reasoned about on its own.

## What all paths have in common

There are two ways to say it.

* `Returns p es a` is about the paths that end: `p` returns `a` after the exchanges `es`. It comes
  apart along `bind` (`returns_bind`), so that a fact about a program is proved in the order of its
  text.
* `p.Conforms A post` is about all paths, also those of a program that is still in progress. It
  reads an automaton `A`: each exchange must be a step of it, and a value must be returned in a
  state that goes with it. The rule for a sequence is `conforms_bind`, and `Conforms.path` turns it
  into a run of the automaton.

`Uses` is the special case of the second one in which only the calls count.

## Programs over programs

`interpret f` replaces each call of a program by a program over another interface, as an operation
of a backend is made of the atomic steps of its state. What the whole has done is what the programs
for its calls have done, one after the other (`returns_interpret`). `runWith` gives a program a
meaning in a monad.
-/

/-- An interface between a program and what answers it: which calls there are, and the type of
what each of them is replied. -/
structure Interface where
  Call : Type
  Reply : Call → Type

/-- One exchange over an interface: a call that was made, with the reply to it. -/
structure Exchange (I : Interface) where
  call : I.Call
  reply : I.Reply call

/-- A program that makes calls of `I` and returns a value of `α`. -/
inductive Program (I : Interface) (α : Type) where
  | done (value : α)
  | ask (call : I.Call) (next : I.Reply call → Program I α)

namespace Program

variable {I J : Interface} {α β γ : Type}

def bind : Program I α → (α → Program I β) → Program I β
  | .done a, f => f a
  | .ask call next, f => .ask call fun reply => (next reply).bind f

instance : Monad (Program I) where
  pure := .done
  bind := bind

/-- The program that makes one call, and returns what is replied. -/
def call (c : I.Call) : Program I (I.Reply c) := .ask c .done

@[simp] theorem pure_eq (a : α) : (pure a : Program I α) = .done a := rfl

@[simp] theorem done_bind (a : α) (f : α → Program I β) : (.done a : Program I α) >>= f = f a := rfl

@[simp] theorem ask_bind (c : I.Call) (next : I.Reply c → Program I α) (f : α → Program I β) :
    (.ask c next : Program I α) >>= f = .ask c fun reply => next reply >>= f := rfl

@[simp] theorem call_bind (c : I.Call) (f : I.Reply c → Program I α) : call c >>= f = .ask c f :=
  rfl

theorem bind_done (p : Program I α) : p >>= .done = p := by
  induction p with
  | done a => rfl
  | ask c next ih =>
    rw [ask_bind]
    congr 1
    funext reply
    exact ih reply

theorem bind_assoc' (p : Program I α) (f : α → Program I β) (g : β → Program I γ) :
    p >>= f >>= g = p >>= fun a => f a >>= g := by
  induction p with
  | done a => rfl
  | ask c next ih =>
    rw [ask_bind, ask_bind, ask_bind]
    congr 1
    funext reply
    exact ih reply

instance : LawfulMonad (Program I) :=
  LawfulMonad.mk' _ (fun p => bind_done p) (fun _ _ => rfl) (fun p f g => bind_assoc' p f g)

/-! ### Paths -/

/-- The program `p` may have had the exchanges `es`, and `q` is what is left of it then. -/
inductive Path : Program I α → List (Exchange I) → Program I α → Prop
  | nil (p : Program I α) : Path p [] p
  | cons {c : I.Call} {next : I.Reply c → Program I α} {es : List (Exchange I)} {q : Program I α}
      (reply : I.Reply c) (h : Path (next reply) es q) : Path (.ask c next) (⟨c, reply⟩ :: es) q

/-- The program returns `a` after the exchanges `es`: there is such a path, and nothing is left
of the program at its end. -/
abbrev Returns (p : Program I α) (es : List (Exchange I)) (a : α) : Prop := Path p es (.done a)

variable {p q : Program I α} {es es' : List (Exchange I)} {a : α} {b : β}

@[simp] theorem path_done : Path (.done a) es q ↔ es = [] ∧ q = .done a := by
  constructor
  · rintro ⟨⟩
    exact ⟨rfl, rfl⟩
  · rintro ⟨rfl, rfl⟩
    exact .nil _

theorem Path.append (hfirst : Path p es q) {q' : Program I α} (hsecond : Path q es' q') :
    Path p (es ++ es') q' := by
  induction hfirst with
  | nil => exact hsecond
  | cons reply h ih => exact .cons reply (ih hsecond)

/-- A path whose program is about to make a call goes on with whatever is replied to it. -/
theorem Path.snoc {c : I.Call} {next : I.Reply c → Program I α} (h : Path p es (.ask c next))
    (reply : I.Reply c) : Path p (es ++ [⟨c, reply⟩]) (next reply) :=
  h.append (.cons reply (.nil _))

@[simp] theorem returns_done {a' : α} :
    Returns (.done a : Program I α) es a' ↔ es = [] ∧ a' = a := by
  simp [Returns]

@[simp] theorem returns_ask {c : I.Call} {next : I.Reply c → Program I α} :
    Returns (.ask c next) es a ↔
      ∃ reply es', es = ⟨c, reply⟩ :: es' ∧ Returns (next reply) es' a := by
  constructor
  · rintro (_ | ⟨reply, h⟩)
    exact ⟨reply, _, rfl, h⟩
  · rintro ⟨reply, es', rfl, h⟩
    exact .cons reply h

/-- A call on its own has one exchange, and returns the reply in it. -/
theorem returns_call {c : I.Call} {r : I.Reply c} : Returns (call c) es r ↔ es = [⟨c, r⟩] := by
  rw [call, returns_ask]
  constructor
  · rintro ⟨reply, es', rfl, h⟩
    obtain ⟨rfl, rfl⟩ := returns_done.mp h
    rfl
  · rintro rfl
    exact ⟨r, [], rfl, .nil _⟩

/-- A program that begins with a call has the exchange of that call first, and then what follows
after the reply. -/
theorem returns_call_bind {c : I.Call} {f : I.Reply c → Program I α}
    (h : Returns (call c >>= f) es a) :
    ∃ reply es', es = ⟨c, reply⟩ :: es' ∧ Returns (f reply) es' a :=
  returns_ask.mp h

/-- A sequence returns after both of its parts have: its exchanges are those of the first part,
and then those of the second one, which goes on from what the first one has returned. -/
theorem returns_bind {f : α → Program I β} :
    Returns (p >>= f) es b ↔
      ∃ es₁ a es₂, es = es₁ ++ es₂ ∧ Returns p es₁ a ∧ Returns (f a) es₂ b := by
  constructor
  · intro h
    -- on the first program, which returns at once or makes the first call of the sequence
    induction p generalizing es with
    | done a => exact ⟨[], a, es, rfl, .nil _, h⟩
    | ask c next ih =>
      obtain ⟨reply, es', rfl, hrest⟩ := returns_ask.mp h
      obtain ⟨es₁, a, es₂, rfl, hfirst, hsecond⟩ := ih reply hrest
      exact ⟨⟨c, reply⟩ :: es₁, a, es₂, rfl, .cons reply hfirst, hsecond⟩
  · rintro ⟨es₁, a, es₂, rfl, hfirst, hsecond⟩
    induction p generalizing es₁ with
    | done a' =>
      obtain ⟨rfl, rfl⟩ := returns_done.mp hfirst
      exact hsecond
    | ask c next ih =>
      obtain ⟨reply, es', rfl, hrest⟩ := returns_ask.mp hfirst
      exact .cons reply (ih reply es' hrest)

/-- What is returned is determined by the exchanges. A program makes no choices of its own, so
that two paths with the same replies are the same path. -/
theorem Path.returns_unique {a' : α} (h : Returns p es a) (h' : Returns p es a') : a = a' := by
  induction p generalizing es with
  | done a₀ => rw [(returns_done.mp h).2, (returns_done.mp h').2]
  | ask c next ih =>
    obtain ⟨reply, es₁, rfl, hrest⟩ := returns_ask.mp h
    obtain ⟨reply', es₂, hes, hrest'⟩ := returns_ask.mp h'
    cases hes
    exact ih reply hrest hrest'

/-- Every program that is replied to returns in the end, since it is a well-founded tree. This
needs a reply of the right type to each call. -/
theorem exists_returns [∀ c, Nonempty (I.Reply c)] (p : Program I α) : ∃ es a, Returns p es a := by
  induction p with
  | done a => exact ⟨[], a, .nil _⟩
  | ask c next ih =>
    obtain ⟨reply⟩ := ‹∀ c, Nonempty (I.Reply c)› c
    obtain ⟨es, a, h⟩ := ih reply
    exact ⟨⟨c, reply⟩ :: es, a, .cons reply h⟩

/-- The value of a program that has returned, and none of one that is about to make a call. -/
def value? : Program I α → Option α
  | .done a => some a
  | .ask _ _ => none

@[simp] theorem value?_eq_some : p.value? = some a ↔ p = .done a := by
  cases p with
  | done a' => simp [value?]
  | ask c next => simp [value?]

/-! ### Conformance to an automaton -/

section Conforms

variable {τ : Type*} (A : Lts τ (Exchange I))

/-- Each exchange of the program is a step of `A`, from `t`, and a value that it returns satisfies
`post` with the state `A` is in then. -/
def Conforms (post : α → τ → Prop) : Program I α → τ → Prop
  | .done a, t => post a t
  | .ask c next, t => ∀ reply, ∃ t', A.next t ⟨c, reply⟩ = some t' ∧ (next reply).Conforms post t'

variable {A} {post post' : α → τ → Prop} {t : τ}

theorem Conforms.mono (h : p.Conforms A post t) (himp : ∀ a t, post a t → post' a t) :
    p.Conforms A post' t := by
  induction p generalizing t with
  | done a => exact himp a t h
  | ask c next ih =>
    intro reply
    obtain ⟨t', hstep, hrest⟩ := h reply
    exact ⟨t', hstep, ih reply hrest⟩

/-- A sequence conforms if its second part does, from wherever the first one ends. -/
theorem conforms_bind {f : α → Program I β} {post : β → τ → Prop} :
    (p >>= f).Conforms A post t ↔ p.Conforms A (fun a t' => (f a).Conforms A post t') t := by
  induction p generalizing t with
  | done a => rfl
  | ask c next ih =>
    rw [ask_bind, Conforms, Conforms]
    simp only [ih]

/-- The path of a conforming program is a run, and what is left of the program conforms. -/
theorem Conforms.path (h : p.Conforms A post t) (hpath : Path p es q) :
    ∃ t', A.Run t es t' ∧ q.Conforms A post t' := by
  induction hpath generalizing t with
  | nil p => exact ⟨t, .nil t, h⟩
  | cons reply hrest ih =>
    obtain ⟨t₁, hstep, hnext⟩ := h reply
    obtain ⟨t', hrun, hq⟩ := ih hnext
    exact ⟨t', .cons hstep hrun, hq⟩

end Conforms

/-! ### Programs over programs -/

/-- The program over `J` that does what a program over `I` does, where each call of `I` is made
by a program over `J` of its own. -/
def interpret (f : (c : I.Call) → Program J (I.Reply c)) : Program I α → Program J α
  | .done a => .done a
  | .ask c next => f c >>= fun reply => (next reply).interpret f

/-- The meaning of a program in a monad that can make its calls: the calls are made one after the
other, and the replies are passed on. -/
def runWith {m : Type → Type} [Monad m] (f : (c : I.Call) → m (I.Reply c)) : Program I α → m α
  | .done a => pure a
  | .ask c next => f c >>= fun reply => (next reply).runWith f

theorem runWith_bind {m : Type → Type} [Monad m] [LawfulMonad m] (f : (c : I.Call) → m (I.Reply c))
    (p : Program I α) (g : α → Program I β) :
    (p >>= g).runWith f = p.runWith f >>= fun a => (g a).runWith f := by
  induction p with
  | done a =>
    rw [done_bind, runWith, pure_bind]
  | ask c next ih =>
    rw [ask_bind, runWith, runWith, bind_assoc]
    simp only [ih]

/-- Each of the calls `cs` was made by the program for it, and together these had the
exchanges `es`. -/
inductive Interpreted (f : (c : I.Call) → Program J (I.Reply c)) :
    List (Exchange I) → List (Exchange J) → Prop
  | nil : Interpreted f [] []
  | cons {c : I.Call} {reply : I.Reply c} {cs : List (Exchange I)} {es es' : List (Exchange J)}
    (h : Returns (f c) es reply) (hrest : Interpreted f cs es') :
    Interpreted f (⟨c, reply⟩ :: cs) (es ++ es')

/-- **An interpreted program has had the exchanges of its calls.** -/
theorem returns_interpret {f : (c : I.Call) → Program J (I.Reply c)} {p : Program I α}
    {es : List (Exchange J)} (h : Returns (p.interpret f) es a) :
    ∃ cs, Returns p cs a ∧ Interpreted f cs es := by
  induction p generalizing es with
  | done a' =>
    obtain ⟨rfl, rfl⟩ := returns_done.mp h
    exact ⟨[], .nil _, .nil⟩
  | ask c next ih =>
    obtain ⟨es₁, reply, es₂, rfl, hfirst, hrest⟩ := returns_bind.mp h
    obtain ⟨cs, hreturns, hcs⟩ := ih reply hrest
    exact ⟨⟨c, reply⟩ :: cs, .cons reply hreturns, .cons hfirst hcs⟩

/-- A call that an interpreted program has made is part of what was done: the program for it has
run from its beginning to its end, and its exchanges are among those of the whole. -/
theorem Interpreted.of_mem {f : (c : I.Call) → Program J (I.Reply c)} {cs : List (Exchange I)}
    {es : List (Exchange J)} (h : Interpreted f cs es) {e : Exchange I} (he : e ∈ cs) :
    ∃ es', Returns (f e.call) es' e.reply ∧ ∀ e' ∈ es', e' ∈ es := by
  induction h with
  | nil => cases he
  | cons hfirst _ ih =>
    rcases List.mem_cons.mp he with rfl | he
    · exact ⟨_, hfirst, fun e' he' => List.mem_append_left _ he'⟩
    · obtain ⟨es', hreturns, hmem⟩ := ih he
      exact ⟨es', hreturns, fun e' he' => List.mem_append_right _ (hmem e' he')⟩

/-! ### Which calls are made -/

/-- All calls that the program may ever make satisfy a condition, whatever it is replied. -/
def Uses (ok : I.Call → Prop) : Program I α → Prop
  | .done _ => True
  | .ask c next => ok c ∧ ∀ reply, (next reply).Uses ok

theorem Uses.bind {ok : I.Call → Prop} {f : α → Program I β} (hp : p.Uses ok)
    (hf : ∀ a, (f a).Uses ok) : (p >>= f).Uses ok := by
  induction p with
  | done a => exact hf a
  | ask c next ih => exact ⟨hp.1, fun reply => ih reply (hp.2 reply)⟩

theorem Uses.mono {ok ok' : I.Call → Prop} (hp : p.Uses ok) (himp : ∀ c, ok c → ok' c) :
    p.Uses ok' := by
  induction p with
  | done a => trivial
  | ask c next ih => exact ⟨himp c hp.1, fun reply => ih reply (hp.2 reply)⟩

theorem Uses.path {ok : I.Call → Prop} (hp : p.Uses ok) (h : Path p es q) :
    ∀ e ∈ es, ok e.call := by
  induction h with
  | nil p =>
    intro e he
    cases he
  | cons reply _ ih =>
    intro e he
    rcases List.mem_cons.mp he with rfl | he
    · exact hp.1
    · exact ih (hp.2 reply) e he

end Program
