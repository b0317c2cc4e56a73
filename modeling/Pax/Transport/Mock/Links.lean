import Pax.Transport.Mock.EventLog

/-!
# The links of the mock backend

`connect` enters a token in the connection table and announces it in a later step; `disconnect`
takes it out, and `push_file` looks it up. `Linked` is what holds between the table, the counter and
what the operations have done so far, and it only looks at the steps that touch the table. The
tokens are 64-bit and the counter wraps, so all of it is up to `2 ^ 64` connections
(`exists_token_reused`).

From `Linked`, `link_lifecycle` says of every run which tokens are in the table: those that were
handed out and not taken out, each under its peer, and each taken out once at most.

The GATT operations do not look at the table at all: `dead_link_iff` says which operations refuse to
work on a link that is gone.
-/

namespace Pax
namespace MockBackend

open Program (call)

/-- The tokens handed out, with their peers. -/
def opened (es : List (Exchange mockSteps)) : List (UInt64 × DeviceId) :=
  es.filterMap fun
    | ⟨.openLink target, token⟩ => some (token, target)
    | _ => none

/-- The tokens taken out of the table. -/
def closed (es : List (Exchange mockSteps)) : List UInt64 :=
  es.filterMap fun
    | ⟨.closeLink token, removed⟩ =>
      let removed : Bool := removed
      if removed then some token else none
    | _ => none

theorem opened_append (es es' : List (Exchange mockSteps)) :
    opened (es ++ es') = opened es ++ opened es' := List.filterMap_append

theorem closed_append (es es' : List (Exchange mockSteps)) :
    closed (es ++ es') = closed es ++ closed es' := List.filterMap_append

/-! ### The table -/

/-- The token of the `k`-th connection. -/
def nthToken (k : ℕ) : UInt64 := UInt64.ofNat (k + 1)

theorem nthToken_inj {k l : ℕ} (hk : k < 2 ^ 64) (hl : l < 2 ^ 64) (h : nthToken k = nthToken l) :
    k = l := by
  have hmod : (k + 1) % 2 ^ 64 = (l + 1) % 2 ^ 64 := by
    have hnat := congrArg UInt64.toNat h
    rwa [nthToken, nthToken, UInt64.toNat_ofNat', UInt64.toNat_ofNat'] at hnat
  omega

/-- A token that is not there is not taken out. -/
theorem erase_of_lookup_eq_none {connections : AList fun _ : UInt64 => DeviceId} {token : UInt64}
    (h : connections.lookup token = none) : connections.erase token = connections := by
  have hkey : token ∉ connections.keys := fun hmem =>
    absurd (AList.lookup_isSome.mpr (AList.mem_keys.mpr hmem)) (by rw [h]; simp)
  exact AList.ext (List.kerase_of_notMem_keys hkey)

/-- What holds between the table and the steps so far. -/
structure Linked (es : List (Exchange mockSteps)) (s : MockState) : Prop where
  token_eq : s.nextToken = nthToken (opened es).length
  tokens : (opened es).map Prod.fst = (List.range (opened es).length).map nthToken
  /-- The table holds what was handed out and not taken out. -/
  table : (opened es).length ≤ 2 ^ 64 → ∀ token peer,
    s.connections.lookup token = some peer ↔ (token, peer) ∈ opened es ∧ token ∉ closed es
  /-- Only what was handed out is taken out, and once. -/
  closed_nodup : (opened es).length ≤ 2 ^ 64 →
    (closed es).Nodup ∧ ∀ token ∈ closed es, token ∈ (opened es).map Prod.fst
  size : (opened es).length ≤ 2 ^ 64 →
    s.connections.keys.length + (closed es).length = (opened es).length

theorem Linked.init (devices : List MockDevice) : Linked [] (.init devices) where
  token_eq := rfl
  tokens := rfl
  table _ token peer := by simp [MockState.init, opened]
  closed_nodup _ := ⟨.nil, fun token h => absurd h List.not_mem_nil⟩
  size _ := rfl

namespace Linked

variable {es : List (Exchange mockSteps)} {s : MockState}

/-- Up to `2 ^ 64` of them, the tokens are distinct. -/
theorem nodup (h : Linked es s) (hcount : (opened es).length ≤ 2 ^ 64) :
    ((opened es).map Prod.fst).Nodup := by
  rw [h.tokens]
  refine List.Nodup.map_on ?_ List.nodup_range
  intro k hk l hl heq
  exact nthToken_inj (lt_of_lt_of_le (List.mem_range.mp hk) hcount)
    (lt_of_lt_of_le (List.mem_range.mp hl) hcount) heq

/-- The next token is a new one, as long as the counter has not come round. -/
theorem token_fresh (h : Linked es s) (hcount : (opened es).length < 2 ^ 64) :
    s.nextToken ∉ (opened es).map Prod.fst := by
  rw [h.tokens, h.token_eq]
  intro hmem
  obtain ⟨k, hk, heq⟩ := List.mem_map.mp hmem
  have hlt := List.mem_range.mp hk
  exact absurd (nthToken_inj (hlt.trans hcount) hcount heq) hlt.ne

/-- The next token is not the one of a live connection. -/
theorem token_unused (h : Linked es s) (hcount : (opened es).length < 2 ^ 64) :
    s.nextToken ∉ s.connections := by
  intro hmem
  obtain ⟨peer, hpeer⟩ := Option.isSome_iff_exists.mp (AList.lookup_isSome.mpr hmem)
  exact h.token_fresh hcount (List.mem_map_of_mem ((h.table hcount.le _ _).mp hpeer).1)

/-- `connect` enters its token, which was in no use before. -/
theorem openLink (h : Linked es s) (target : DeviceId) (answer : PairingResponse) :
    Linked (es ++ [⟨.openLink target, s.nextToken⟩]) (serve (.openLink target) answer s).2 := by
  have hopened : opened (es ++ [⟨.openLink target, s.nextToken⟩])
      = opened es ++ [(s.nextToken, target)] := opened_append es _
  have hclosed : closed (es ++ [⟨.openLink target, s.nextToken⟩]) = closed es :=
    (closed_append es _).trans (List.append_nil _)
  have hlength : (opened es ++ [(s.nextToken, target)]).length = (opened es).length + 1 := by
    rw [List.length_append, List.length_singleton]
  -- The next token was not handed out before, as long as the counter has not come round.
  have hnot (hcount : (opened es).length + 1 ≤ 2 ^ 64) : s.nextToken ∉ closed es := fun hmem =>
    h.token_fresh (by omega) ((h.closed_nodup (by omega)).2 _ hmem)
  constructor
  · rw [hopened, hlength]
    show s.nextToken + 1 = _
    rw [h.token_eq, nthToken, nthToken, UInt64.ofNat_add (_ + 1)]
    rfl
  · rw [hopened, hlength, List.map_append, List.range_succ, List.map_append, h.tokens]
    rw [List.map_singleton, List.map_singleton, h.token_eq]
  · rw [hopened, hclosed, hlength]
    intro hcount token peer
    show (s.connections.insert s.nextToken target).lookup token = some peer ↔ _
    by_cases htoken : token = s.nextToken
    · -- the new entry
      subst htoken
      rw [AList.lookup_insert, Option.some_inj, List.mem_append, List.mem_singleton]
      constructor
      · rintro rfl
        exact ⟨.inr rfl, hnot hcount⟩
      · rintro ⟨hmem | hmem, -⟩
        · exact absurd (List.mem_map_of_mem hmem) (h.token_fresh (by omega))
        · exact (congrArg Prod.snd hmem).symm
    · rw [AList.lookup_insert_ne htoken, h.table (by omega), List.mem_append, List.mem_singleton]
      simp [htoken]
  · rw [hopened, hclosed, hlength]
    intro hcount
    obtain ⟨hnodup, hsub⟩ := h.closed_nodup (by omega)
    refine ⟨hnodup, fun token hmem => ?_⟩
    rw [List.map_append]
    exact List.mem_append_left _ (hsub token hmem)
  · rw [hopened, hclosed, hlength]
    intro hcount
    have habsent := h.token_unused (by omega)
    have hsize := h.size (by omega)
    show (s.connections.insert s.nextToken target).keys.length + _ = _
    rw [AList.keys_insert, List.erase_of_not_mem (fun hkey => habsent (AList.mem_keys.mpr hkey)),
      List.length_cons]
    omega

/-- `disconnect` takes a token out that is there. -/
theorem closeLink (h : Linked es s) {token : UInt64} {peer : DeviceId}
    (hlive : s.connections.lookup token = some peer) (answer : PairingResponse) :
    Linked (es ++ [⟨.closeLink token, true⟩]) (serve (.closeLink token) answer s).2 := by
  have hopened : opened (es ++ [⟨.closeLink token, true⟩]) = opened es :=
    (opened_append es _).trans (List.append_nil _)
  have hclosed : closed (es ++ [⟨.closeLink token, true⟩]) = closed es ++ [token] :=
    closed_append es _
  -- Field by field: what was opened stays, and the token is closed now.
  constructor
  · rw [hopened]
    exact h.token_eq
  · rw [hopened]
    exact h.tokens
  · rw [hopened, hclosed]
    intro hcount token' peer'
    show (s.connections.erase token).lookup token' = some peer' ↔ _
    rw [List.mem_append, List.mem_singleton]
    by_cases htoken : token' = token
    · subst htoken
      rw [AList.lookup_erase]
      simp
    · rw [AList.lookup_erase_ne htoken, h.table hcount]
      simp [htoken]
  · rw [hopened, hclosed]
    intro hcount
    obtain ⟨hnodup, hsub⟩ := h.closed_nodup hcount
    obtain ⟨hmem, hnot⟩ := (h.table hcount token peer).mp hlive
    constructor
    · rw [List.nodup_append]
      refine ⟨hnodup, List.nodup_singleton token, ?_⟩
      rintro a ha b hb rfl
      exact hnot (List.mem_singleton.mp hb ▸ ha)
    · intro token' hmem'
      rcases List.mem_append.mp hmem' with hbefore | hlast
      · exact hsub token' hbefore
      · rw [List.mem_singleton.mp hlast]
        exact List.mem_map_of_mem hmem
  · rw [hopened, hclosed]
    intro hcount
    have hkey : token ∈ s.connections.keys := by
      rw [← AList.mem_keys, ← AList.lookup_isSome, hlive]
      rfl
    have hsize := h.size hcount
    have hpos := List.length_pos_of_mem hkey
    show (s.connections.erase token).keys.length + _ = _
    rw [AList.keys_erase, List.length_erase_of_mem hkey, List.length_append,
      List.length_singleton]
    omega

/-- A step that hands no token out and takes none out keeps the table. -/
theorem other (h : Linked es s) {e : Exchange mockSteps} {s' : MockState}
    (hopened : opened [e] = []) (hclosed : closed [e] = [])
    (hconnections : s'.connections = s.connections) (htoken : s'.nextToken = s.nextToken) :
    Linked (es ++ [e]) s' := by
  -- Neither what was opened nor what was closed changes.
  have hopened' : opened (es ++ [e]) = opened es := by
    rw [opened_append, hopened, List.append_nil]
  have hclosed' : closed (es ++ [e]) = closed es := by
    rw [closed_append, hclosed, List.append_nil]
  constructor <;> rw [hopened'] <;> try rw [hclosed']
  · rw [htoken]
    exact h.token_eq
  · exact h.tokens
  · rw [hconnections]
    exact h.table
  · exact h.closed_nodup
  · rw [hconnections]
    exact h.size

theorem step (h : Linked es s) (c : MockCall) (answer : PairingResponse) :
    Linked (es ++ [⟨c, (serve c answer s).1⟩]) (serve c answer s).2 := by
  -- Only two steps change the table: to open a link, and to close one that is there.
  cases hc : changes c with
  | true =>
    cases c with
    | openLink target => exact h.openLink target answer
    | closeLink token =>
      cases hlive : s.connections.lookup token with
      | some peer =>
        have hreply : (serve (.closeLink token) answer s).1 = true := by
          show (s.connections.lookup token).isSome = true
          rw [hlive]
          rfl
        rw [hreply]
        exact h.closeLink hlive answer
      | none =>
        have hreply : (serve (.closeLink token) answer s).1 = false := by
          show (s.connections.lookup token).isSome = false
          rw [hlive]
          rfl
        rw [hreply]
        exact h.other rfl rfl (erase_of_lookup_eq_none hlive) rfl
    | _ => first | exact h.other rfl rfl rfl rfl | cases hc
  | false =>
    obtain ⟨devices, hs⟩ := serve_of_changes hc answer s
    rw [hs]
    cases c <;> first | exact h.other rfl rfl rfl rfl | cases hc

end Linked

theorem linked_of_served {devices : List MockDevice} {es : List (Exchange mockSteps)}
    {s : MockState} (h : Served serve (.init devices) es s) : Linked es s :=
  h.invariant (Linked.init devices) fun _ _ c answer hlinked => hlinked.step c answer

/-! ### What the operations do to the table -/

/-- The step takes a token out of the table, and does not find it gone. -/
def closesLink : Exchange mockSteps → Bool
  | ⟨.closeLink _, removed⟩ => removed
  | _ => false

theorem length_opened (es : List (Exchange mockSteps)) :
    (opened es).length = es.countP opensLink := by
  rw [opened, List.length_filterMap_eq_countP]
  congr 1
  funext e
  obtain ⟨c, reply⟩ := e
  cases c <;> rfl

theorem length_closed (es : List (Exchange mockSteps)) :
    (closed es).length = es.countP closesLink := by
  rw [closed, List.length_filterMap_eq_countP]
  congr 1
  funext e
  obtain ⟨c, reply⟩ := e
  cases c with
  | closeLink token => cases reply <;> rfl
  | _ => rfl

def isConnected : TransitEventKind → Bool
  | .connected => true
  | _ => false

def isDisconnected : TransitEventKind → Bool
  | .disconnected _ => true
  | _ => false

section Operations

open Program (Returns)

variable {backend : MockBackend} {es : List (Exchange mockSteps)}

theorem eq_connect_of_holds {op : MockOp} {target : DeviceId}
    (h : holds op (.openLink target) = true) : ∃ target, op = .connect target := by
  cases op <;> first | exact ⟨_, rfl⟩ | cases h

theorem eq_disconnect_of_holds {op : MockOp} {token : UInt64}
    (h : holds op (.closeLink token) = true) : ∃ conn, op = .disconnect conn := by
  cases op <;> first | exact ⟨_, rfl⟩ | cases h

theorem eq_connect_of_emits {op : MockOp} {kind : TransitEventKind} (h : emits op kind = true)
    (hkind : isConnected kind = true) : ∃ target, op = .connect target := by
  cases kind with
  | connected => cases op <;> first | exact ⟨_, rfl⟩ | cases h
  | _ => cases hkind

theorem eq_disconnect_of_emits {op : MockOp} {kind : TransitEventKind} (h : emits op kind = true)
    (hkind : isDisconnected kind = true) : ∃ conn, op = .disconnect conn := by
  cases kind with
  | disconnected reason => cases op <;> first | exact ⟨_, rfl⟩ | cases h
  | _ => cases hkind

/-- The table is touched, and events about links are emitted, by `connect` and `disconnect` alone.
-/
theorem link_free {op : MockOp} {r : op.Result} (h : Returns (backend.run op) es r)
    (hconnect : ∀ target, op ≠ .connect target) (hdisconnect : ∀ conn, op ≠ .disconnect conn) :
    ∀ e ∈ es, opensLink e = false ∧ closesLink e = false ∧
      stamps (fun _ kind => isConnected kind) e = false ∧
      stamps (fun _ kind => isDisconnected kind) e = false := by
  intro e he
  obtain ⟨c, reply⟩ := e
  -- A step is one of the operation, or the stamp or the delivery of one of its events.
  rcases (built_run backend op).calls h _ he with hholds | ⟨event, hevent⟩ | hstamp
  · cases c with
    | openLink target => exact absurd (eq_connect_of_holds hholds) (not_exists.mpr hconnect)
    | closeLink token => exact absurd (eq_disconnect_of_holds hholds) (not_exists.mpr hdisconnect)
    | stamp origin kind dt => cases op <;> cases hholds
    | _ => exact ⟨rfl, rfl, rfl, rfl⟩
  · cases hevent
    exact ⟨rfl, rfl, rfl, rfl⟩
  · obtain ⟨origin, kind, dt, hcall, hemits⟩ := hstamp
    cases hcall
    refine ⟨rfl, rfl, ?_, ?_⟩
    · exact Bool.eq_false_iff.mpr fun hkind =>
        not_exists.mpr hconnect (eq_connect_of_emits hemits hkind)
    · exact Bool.eq_false_iff.mpr fun hkind =>
        not_exists.mpr hdisconnect (eq_disconnect_of_emits hemits hkind)

/-- An operation that has returned announced each token that it handed out or took out. -/
theorem announced_run {op : MockOp} {r : op.Result} (h : Returns (backend.run op) es r) :
    es.countP (stamps fun _ kind => isConnected kind) = es.countP opensLink ∧
      es.countP (stamps fun _ kind => isDisconnected kind) = es.countP closesLink := by
  -- An operation that is neither of the two has nothing to do with links.
  have hother (hconnect : ∀ target, op ≠ .connect target)
      (hdisconnect : ∀ conn, op ≠ .disconnect conn) :
      es.countP (stamps fun _ kind => isConnected kind) = es.countP opensLink ∧
        es.countP (stamps fun _ kind => isDisconnected kind) = es.countP closesLink := by
    have hfree := link_free h hconnect hdisconnect
    have hzero {p : Exchange mockSteps → Bool} (hp : ∀ e ∈ es, p e = false) : es.countP p = 0 :=
      List.countP_eq_zero.mpr fun e he => by rw [hp e he]; exact Bool.false_ne_true
    rw [hzero fun e he => (hfree e he).1, hzero fun e he => (hfree e he).2.1,
      hzero fun e he => (hfree e he).2.2.1, hzero fun e he => (hfree e he).2.2.2]
    exact ⟨rfl, rfl⟩
  cases op with
  | connect target =>
    obtain ⟨rfl, -⟩ | ⟨device, token, dt, event, rfl, -⟩ := returns_connect h
    · exact ⟨rfl, rfl⟩
    · exact ⟨rfl, rfl⟩
  | disconnect conn =>
    obtain ⟨rfl, -⟩ | ⟨dt, event, rfl, -⟩ := returns_disconnect h
    · exact ⟨rfl, rfl⟩
    · exact ⟨rfl, rfl⟩
  | _ => exact hother (by rintro _ ⟨⟩) (by rintro _ ⟨⟩)

end Operations

end MockBackend

/-- The connection that an operation returned, if it was a `connect`. -/
def MockOp.connection? : (op : MockOp) → op.Value → Option Connection
  | .connect _, conn => some conn
  | _, _ => none

/-- The link that an operation works on. -/
def MockOp.link? : MockOp → Option Connection
  | .pushFile conn _ => some conn
  | .disconnect conn => some conn
  | .gattRead conn _ _ => some conn
  | .gattWrite conn _ _ _ _ => some conn
  | .gattSubscribe conn _ _ => some conn
  | _ => none

/-- The operation looks its link up in the connection table. -/
def MockOp.checksLink : MockOp → Bool
  | .pushFile _ _ => true
  | .disconnect _ => true
  | _ => false

namespace MockBackend

section Run

open Program (Returns)

variable {backend : MockBackend} {devices : List MockDevice} {ι : Type} [DecidableEq ι]
  {ops : ι → MockOp} {steps : List (ι × PairingResponse)}
  {w : Pool mockSteps MockState fun i => (ops i).Result} {i j : ι} {conn : Connection}

/-- The `i`-th operation is a `connect` that has returned this connection. -/
def HandsOut (w : Pool mockSteps MockState fun i => (ops i).Result) (i : ι) (conn : Connection) :
    Prop :=
  ∃ v, w.task i = .done (.ok v) ∧ (ops i).connection? v = some conn

/-- The `i`-th operation has returned, without an error. -/
def Succeeded (w : Pool mockSteps MockState fun i => (ops i).Result) (i : ι) : Prop :=
  ∃ v, w.task i = .done (.ok v)

omit [DecidableEq ι] in
theorem openLink_mem {op : MockOp} {es : List (Exchange mockSteps)} {v : op.Value}
    (h : Returns (backend.run op) es (.ok v)) (hv : op.connection? v = some conn) :
    (⟨.openLink conn.peer, conn.token⟩ : Exchange mockSteps) ∈ es := by
  cases op with
  | connect target =>
    obtain ⟨rfl, hr⟩ | ⟨device, token, dt, event, rfl, hr⟩ := returns_connect h
    · cases hr
    · cases hv
      cases hr
      simp
  | _ => cases hv

/-- The connection that an operation returned has the token it was handed. -/
theorem HandsOut.mem
    (hreached : Pool.Reached serve (.init devices) (fun i => backend.run (ops i)) w)
    (h : HandsOut w i conn) : (i, ⟨.openLink conn.peer, conn.token⟩) ∈ w.trace := by
  obtain ⟨v, hdone, hv⟩ := h
  exact mem_own.mp (openLink_mem (hreached.returns hdone) hv)

omit [DecidableEq ι] in
theorem closeLink_mem_of_returns {op : MockOp} {es : List (Exchange mockSteps)} {v : op.Value}
    (h : Returns (backend.run op) es (.ok v)) (hop : op = .disconnect conn) :
    (⟨.closeLink conn.token, true⟩ : Exchange mockSteps) ∈ es := by
  subst hop
  obtain ⟨rfl, hr⟩ | ⟨dt, event, rfl, hr⟩ := returns_disconnect h
  · cases hr
  · simp

/-- A `disconnect` that has succeeded took its token out. -/
theorem closeLink_mem
    (hreached : Pool.Reached serve (.init devices) (fun i => backend.run (ops i)) w)
    (hop : ops i = .disconnect conn) (h : Succeeded w i) :
    (i, ⟨.closeLink conn.token, true⟩) ∈ w.trace := by
  obtain ⟨v, hdone⟩ := h
  exact mem_own.mp (closeLink_mem_of_returns (hreached.returns hdone) hop)

/-- The tokens handed out in a run so far, with their peers. -/
def allOpened (w : Pool mockSteps MockState fun i => (ops i).Result) : List (UInt64 × DeviceId) :=
  opened (w.trace.map Prod.snd)

/-- The tokens taken out of the table in a run so far. -/
def allClosed (w : Pool mockSteps MockState fun i => (ops i).Result) : List UInt64 :=
  closed (w.trace.map Prod.snd)

omit [DecidableEq ι] in
/-- A token is taken out by one step only, if the tokens taken out are distinct. -/
theorem eq_of_closeLink_mem {token : UInt64} (h : (allClosed w).Nodup)
    (hi : (i, ⟨.closeLink token, true⟩) ∈ w.trace) (hj : (j, ⟨.closeLink token, true⟩) ∈ w.trace) :
    i = j := by
  rw [allClosed, closed, List.filterMap_map] at h
  exact congrArg Prod.fst (eq_of_nodup_filterMap h hi hj rfl rfl)

omit [DecidableEq ι] in
/-- A push begins with the check of its link, and returns the error of that. -/
theorem checkLink_of_returns {op : MockOp} {es : List (Exchange mockSteps)} {r : op.Result}
    {file : OutboundFile} (h : Returns (backend.run op) es r) (hop : op = .pushFile conn file) :
    ∃ (checked : Except TransportError MockDevice) (es' : List (Exchange mockSteps)),
      es = ⟨.checkLink conn, checked⟩ :: es' ∧
        (r = .error (.notConnected conn.peer) ↔ checked = .error (.notConnected conn.peer)) := by
  subst hop
  obtain ⟨checked, es', rfl, ⟨e, rfl, -, hr⟩ | ⟨device, rfl, hr⟩⟩ := returns_pushFile h
  · refine ⟨_, es', rfl, ?_⟩
    rw [hr]
    exact ⟨fun h => congrArg _ (Except.error.inj h), fun h => congrArg _ (Except.error.inj h)⟩
  · refine ⟨_, es', rfl, ?_, fun h => by cases h⟩
    -- a push that found its link live fails with another error
    intro h
    obtain ⟨transferred, reason, he⟩ := hr _ h
    cases he

/-- **A push checks the table once**, and returns `NotConnected` if its token has been taken out by
then. -/
theorem pushFile_checks
    (hreached : Pool.Reached serve (.init devices) (fun i => backend.run (ops i)) w)
    (hcount : (allOpened w).length ≤ 2 ^ 64) {file : OutboundFile}
    (hop : ops i = .pushFile conn file)
    {r : (ops i).Result} (hdone : w.task i = .done r) :
    ∃ pre reply post, w.trace = pre ++ (i, ⟨.checkLink conn, reply⟩) :: post ∧
      ((conn.token, conn.peer) ∈ opened (pre.map Prod.snd) →
        (r = .error (.notConnected conn.peer) ↔ conn.token ∈ closed (pre.map Prod.snd))) := by
  obtain ⟨checked, es, hown, hr⟩ := checkLink_of_returns (hreached.returns hdone) hop
  have hmem : (i, (⟨.checkLink conn, checked⟩ : Exchange mockSteps)) ∈ w.trace := by
    rw [← mem_own, hown]
    exact List.mem_cons_self
  obtain ⟨pre, post, htrace⟩ := List.append_of_mem hmem
  refine ⟨pre, checked, post, htrace, ?_⟩
  intro hopened
  rw [hr]
  -- the reply is that of the table as the steps before have left it
  obtain ⟨s, answer, hserved, hreply⟩ := hreached.at_entry htrace
  have hlinked := linked_of_served hserved
  have hbefore : (opened (pre.map Prod.snd)).length ≤ 2 ^ 64 := by
    refine le_trans ?_ hcount
    rw [allOpened, htrace, List.map_append, opened_append, List.length_append]
    exact Nat.le_add_right _ _
  have htable := hlinked.table hbefore conn.token conn.peer
  change (serve (.checkLink conn) answer s).1 = checked at hreply
  rw [← hreply]
  simp only [serve]
  -- It is not in the table if and only if it was closed, having been opened.
  cases hlookup : s.connections.lookup conn.token with
  | none =>
    rw [hlookup] at htable
    refine ⟨fun _ => ?_, fun _ => rfl⟩
    by_contra hnot
    cases htable.mpr ⟨hopened, hnot⟩
  | some peer =>
    have hpeer := (hlinked.table hbefore conn.token peer).mp hlookup
    constructor
    · intro h
      cases hfind : s.find conn.peer <;> rw [hfind] at h <;> cases h
    · exact fun hclosed => absurd hclosed hpeer.2

/-- When no operation is in progress, each token handed out or taken out has been announced. -/
theorem links_announced
    (hreached : Pool.Reached serve (.init devices) (fun i => backend.run (ops i)) w)
    (hrest : w.Quiescent) :
    w.shared.observed.countP (fun event => isConnected event.kind) = (allOpened w).length ∧
      w.shared.observed.countP (fun event => isDisconnected event.kind) = (allClosed w).length := by
  have hperm := Publication.handed_perm_taken publishes_ops hreached hrest
  have hobserved : w.shared.observed = events.allHanded w :=
    (logged_of_served hreached.served).observed_eq
  have hown (i : ι) := (hreached.atRest (hrest i)).imp id fun h => announced_run h.choose_spec
  -- What holds of each operation that has returned holds of all of them together.
  have hcount {p q : Exchange mockSteps → Bool}
      (h : ∀ i, own w.trace i = [] ∨ (own w.trace i).countP p = (own w.trace i).countP q) :
      (w.trace.map Prod.snd).countP p = (w.trace.map Prod.snd).countP q := by
    refine countP_eq_of_own fun i => ?_
    rcases h i with hnil | heq
    · rw [hnil]
      rfl
    · exact heq
  rw [hobserved, hperm.countP_eq, hperm.countP_eq, allOpened, allClosed, length_opened,
    length_closed]
  constructor
  · rw [← hcount fun i => (hown i).imp id And.left]
    exact countP_taken hreached.served fun _ kind => isConnected kind
  · rw [← hcount fun i => (hown i).imp id And.right]
    exact countP_taken hreached.served fun _ kind => isDisconnected kind

/-- **The life of a link.** In a run of interleaved operations that opens at most `2 ^ 64`
connections: the tokens are distinct, and a connection that is returned has one of them; the table
holds the tokens handed out and not taken out, with their peers; at most one `disconnect` of a
connection succeeds; a push returns `NotConnected` if its connection has been taken out when it
looks, and only then; and when no operation is in progress, there are as many live connections as
there are `Connected` events without a `Disconnected` one. -/
theorem link_lifecycle (hrun : (system ops).Run (backend.start devices ops) steps w)
    (hcount : (allOpened w).length ≤ 2 ^ 64) :
    ((allOpened w).map Prod.fst).Nodup ∧
      (∀ i conn, HandsOut w i conn → (i, ⟨.openLink conn.peer, conn.token⟩) ∈ w.trace) ∧
      (∀ token peer, w.shared.connections.lookup token = some peer ↔
        (token, peer) ∈ allOpened w ∧ token ∉ allClosed w) ∧
      (∀ i j conn conn', ops i = .disconnect conn → ops j = .disconnect conn' →
        conn.token = conn'.token → Succeeded w i → Succeeded w j → i = j) ∧
      (∀ i conn file, ops i = .pushFile conn file → ∀ r, w.task i = .done r →
        ∃ pre reply post, w.trace = pre ++ (i, ⟨.checkLink conn, reply⟩) :: post ∧
          ((conn.token, conn.peer) ∈ opened (pre.map Prod.snd) →
            (r = .error (.notConnected conn.peer) ↔
              conn.token ∈ closed (pre.map Prod.snd)))) ∧
      (w.Quiescent → w.shared.observed.countP (fun event => isConnected event.kind)
        = w.shared.observed.countP (fun event => isDisconnected event.kind)
          + w.shared.connections.keys.length) := by
  have hreached := reached hrun
  have hlinked := linked_of_served hreached.served
  obtain ⟨hclosed, -⟩ := hlinked.closed_nodup hcount
  refine ⟨hlinked.nodup hcount, fun i conn h => h.mem hreached, hlinked.table hcount, ?_, ?_, ?_⟩
  -- a token is closed by one operation only
  · intro i j conn conn' hi hj htoken hsi hsj
    have hmem := closeLink_mem hreached hj hsj
    rw [← htoken] at hmem
    exact eq_of_closeLink_mem hclosed (closeLink_mem hreached hi hsi) hmem
  · intro i conn file hop r hdone
    exact pushFile_checks hreached hcount hop hdone
  -- of the links that were opened, those that were not closed are in the table
  · intro hrest
    obtain ⟨hopens, hcloses⟩ := links_announced hreached hrest
    rw [hopens, hcloses, Nat.add_comm]
    exact (hlinked.size hcount).symm

/-! ### Links that are gone -/

/-- Made from the state `s`, the operation returns `NotConnected`, emits nothing and changes
nothing. -/
def Refuses (backend : MockBackend) (s : MockState) (op : MockOp) (conn : Connection) : Prop :=
  ∀ es r s', Returns (backend.run op) es r → Served serve s es s' →
    r = .error (.notConnected conn.peer) ∧ events.takenBy es = [] ∧ events.handedBy es = [] ∧ s' = s

section Dead

variable {s : MockState} {op : MockOp}

/-- An operation that looks its link up refuses to work on one that is not there. -/
theorem refuses_of_lookup_eq_none (hop : op.link? = some conn) (hchecks : op.checksLink = true)
    (hdead : s.connections.lookup conn.token = none) : Refuses backend s op conn := by
  intro es r s' hreturns hserved
  -- Only a push and a disconnect look at the table.
  cases op with
  | pushFile conn' file =>
    cases hop
    obtain ⟨checked, es', rfl, hcases⟩ := returns_pushFile hreturns
    -- the answer to the check says that the link is not there, and ends the push
    obtain ⟨answer, hreply, hafter⟩ := hserved.of_cons
    have hchecked : serve (.checkLink conn) answer s = (.error (.notConnected conn.peer), s) := by
      simp only [serve, hdead]
    dsimp only at hreply hafter
    rw [hchecked] at hreply hafter
    obtain ⟨e, he, rfl, rfl⟩ | ⟨device, hdevice, -⟩ := hcases
    · have hsame : TransportError.notConnected conn.peer = e :=
        Except.error.inj (hreply.trans he)
      exact ⟨congrArg _ hsame.symm, rfl, rfl, hafter.eq_of_nil⟩
    · cases hreply.trans hdevice
  | disconnect conn' =>
    cases hop
    obtain ⟨rfl, rfl⟩ | ⟨dt, event, rfl, -⟩ := returns_disconnect hreturns
    · obtain ⟨answer, -, rfl⟩ := hserved.of_singleton
      refine ⟨rfl, rfl, rfl, ?_⟩
      simp only [serve, erase_of_lookup_eq_none hdead]
    · -- nothing is there to be taken out
      obtain ⟨answer, hreply, -⟩ := hserved.of_cons
      change (s.connections.lookup conn.token).isSome = true at hreply
      rw [hdead] at hreply
      cases hreply
  | _ => cases hchecks

/-- The GATT steps never say that there is no connection, in whichever state they are taken. -/
theorem gatt_ne_notConnected (s : MockState) (answer : PairingResponse) (peer id : DeviceId)
    (service characteristic : Uuid) (data : List UInt8) :
    (serve (.gattGet peer service characteristic) answer s).1 ≠ .error (.notConnected id) ∧
      (serve (.gattInsert peer service characteristic data) answer s).1
        ≠ .error (.notConnected id) ∧
      (serve (.gattQueue peer service characteristic) answer s).1 ≠ .error (.notConnected id) := by
  -- All three look for the device, and fail with its absence or with that of the characteristic.
  refine ⟨?_, ?_, ?_⟩
  · simp only [serve]
    split
    · rintro ⟨⟩
    · split <;> rintro ⟨⟩
  · simp only [serve]
    split <;> rintro ⟨⟩
  · simp only [serve]
    split <;> rintro ⟨⟩

/-- An operation that finds its link does not refuse, and neither does one that does not look. -/
theorem not_refuses (hop : op.link? = some conn)
    (h : op.checksLink = true → (s.connections.lookup conn.token).isSome = true) :
    ¬ Refuses backend s op conn := by
  intro hrefuses
  obtain ⟨es, r, s', hreturns, hserved⟩ := exists_served_returns serve (backend.run op) s
  obtain ⟨hr, -⟩ := hrefuses es r s' hreturns hserved
  subst hr
  -- The push and the disconnect find the link; the others do not look for it.
  cases op with
  | pushFile conn' file =>
    cases hop
    obtain ⟨peer, hlive⟩ := Option.isSome_iff_exists.mp (h rfl)
    obtain ⟨checked, es', rfl, hcases⟩ := returns_pushFile hreturns
    obtain ⟨answer, hreply, -⟩ := hserved.of_cons
    obtain ⟨e, rfl, -, he⟩ | ⟨device, -, herror⟩ := hcases
    · -- the check found the link, and failed for another reason
      cases he
      simp only [serve, hlive] at hreply
      split at hreply <;> cases hreply
    · obtain ⟨transferred, reason, he⟩ := herror _ rfl
      cases he
  | disconnect conn' =>
    cases hop
    obtain ⟨rfl, -⟩ | ⟨dt, event, -, hr⟩ := returns_disconnect hreturns
    · obtain ⟨answer, hreply, -⟩ := hserved.of_singleton
      change (s.connections.lookup conn.token).isSome = false at hreply
      rw [h rfl] at hreply
      cases hreply
    · cases hr
  | gattRead conn' service characteristic =>
    obtain ⟨reply, es', rfl, hrest⟩ := Program.returns_ask.mp hreturns
    obtain ⟨rfl, rfl⟩ := Program.returns_done.mp hrest
    obtain ⟨answer, hreply, -⟩ := hserved.of_singleton
    exact (gatt_ne_notConnected s answer conn'.peer conn.peer service characteristic []).1 hreply
  | gattWrite conn' service characteristic data withResponse =>
    obtain ⟨reply, es', rfl, hrest⟩ := Program.returns_ask.mp hreturns
    obtain ⟨rfl, rfl⟩ := Program.returns_done.mp hrest
    obtain ⟨answer, hreply, -⟩ := hserved.of_singleton
    exact
      (gatt_ne_notConnected s answer conn'.peer conn.peer service characteristic data).2.1 hreply
  | gattSubscribe conn' service characteristic =>
    obtain ⟨reply, es', rfl, hrest⟩ := Program.returns_call_bind hreturns
    obtain ⟨rfl, hvalues⟩ := Program.returns_done.mp hrest
    obtain ⟨answer, hreply, -⟩ := hserved.of_singleton
    cases reply with
    | error e =>
      cases hvalues
      exact
        (gatt_ne_notConnected s answer conn'.peer conn.peer service characteristic []).2.2 hreply
    | ok values => cases hvalues
  | _ => cases hop

/-- A connection that was disconnected is not in the table, unless its token has come round. -/
theorem lookup_eq_none_of_disconnected
    (hreached : Pool.Reached serve (.init devices) (fun i => backend.run (ops i)) w)
    (hcount : (allOpened w).length ≤ 2 ^ 64) (hop : ops i = .disconnect conn) (h : Succeeded w i) :
    w.shared.connections.lookup conn.token = none := by
  have hclosed : conn.token ∈ allClosed w := by
    apply List.mem_filterMap.mpr
    exact ⟨_, List.mem_map.mpr ⟨_, closeLink_mem hreached hop h, rfl⟩, rfl⟩
  cases hlookup : w.shared.connections.lookup conn.token with
  | none => rfl
  | some peer =>
    have htable := (linked_of_served hreached.served).table hcount conn.token peer
    exact absurd hclosed (htable.mp hlookup).2

/-- **Which operations refuse to work on a dead link.** Of a connection that has been disconnected,
an operation returns `NotConnected`, emits nothing and changes nothing if and only if it is a push
or a `disconnect` and the token has not come round, for which `2 ^ 64` connections are too few. The
GATT operations never do. -/
theorem dead_link_iff (hrun : (system ops).Run (backend.start devices ops) steps w)
    (hdisconnect : ops j = .disconnect conn) (hgone : Succeeded w j)
    (hop : op.link? = some conn) :
    (Refuses backend w.shared op conn ↔
        op.checksLink = true ∧ w.shared.connections.lookup conn.token = none) ∧
      ((allOpened w).length ≤ 2 ^ 64 → w.shared.connections.lookup conn.token = none) := by
  refine ⟨⟨?_, ?_⟩, ?_⟩
  -- An operation that does not check, or whose link is there, is not refused.
  · intro hrefuses
    by_contra hnot
    apply not_refuses hop _ hrefuses
    intro hchecks
    rw [Option.isSome_iff_ne_none]
    intro hdead
    exact hnot ⟨hchecks, hdead⟩
  · rintro ⟨hchecks, hdead⟩
    exact refuses_of_lookup_eq_none hop hchecks hdead
  · intro hcount
    exact lookup_eq_none_of_disconnected (reached hrun) hcount hdisconnect hgone

end Dead

end Run

/-- A connection to the phone, of a token. -/
def phoneLink (token : UInt64) : Connection :=
  { peer := phone.info.id, local' := quietBackend.controller, spec := phone.spec
    standards := phone.standards, token }

/-- A connection, a disconnection of it, and a write to it. -/
def shortLink : Fin 3 → MockOp
  | 0 => .connect phone.info.id
  | 1 => .disconnect (phoneLink 1)
  | 2 => .gattWrite (phoneLink 1) zeroUuid zeroUuid [7] true

/-- The operations one after the other, before the write. -/
def untilClosed : List (Fin 3 × PairingResponse) :=
  [0, 0, 0, 0, 1, 1, 1].map fun i => (i, .cancel)

/-- A link that is opened and closed again: its token was handed out, and is not in the table any
more. -/
theorem link_lifecycle_short : ∃ w,
    (system shortLink).Run (quietBackend.start [phone] shortLink) untilClosed w ∧
      allOpened w = [(1, phone.info.id)] ∧ (1 : UInt64) ∈ allClosed w ∧
      w.shared.connections.lookup 1 ≠ some phone.info.id := by
  let p (w : Pool mockSteps MockState fun i => (shortLink i).Result) : Bool :=
    decide (allOpened w = [(1, phone.info.id)] ∧ (1 : UInt64) ∈ allClosed w)
  have hcomputed : ((system shortLink).exec (quietBackend.start [phone] shortLink)
      untilClosed).any p = true := by decide
  obtain ⟨w, hrun, hp⟩ := Lts.exists_run_of_any hcomputed
  obtain ⟨hopened, hclosed⟩ := of_decide_eq_true hp
  -- One token is far from all of them.
  have hfits : (allOpened w).length ≤ 2 ^ 64 := by
    rw [hopened]
    norm_num
  obtain ⟨-, -, htable, -⟩ := link_lifecycle hrun hfits
  refine ⟨w, hrun, hopened, hclosed, ?_⟩
  intro hlive
  exact ((htable 1 phone.info.id).mp hlive).2 hclosed

/-- The short link, as it is before the write: it was handed out, and has been closed. -/
theorem exists_shortLink_closed : ∃ w,
    (system shortLink).Run (quietBackend.start [phone] shortLink) untilClosed w ∧
      HandsOut w 0 (phoneLink 1) ∧ Succeeded w 1 ∧ w.shared.connections.lookup 1 = none := by
  -- The two results are compared as values, so that the run can be computed.
  let connected (w : Pool mockSteps MockState fun i => (shortLink i).Result) :
      Option (Except TransportError Connection) := (w.task 0).value?
  let disconnected (w : Pool mockSteps MockState fun i => (shortLink i).Result) :
      Option (Except TransportError Unit) := (w.task 1).value?
  let p (w : Pool mockSteps MockState fun i => (shortLink i).Result) : Bool :=
    decide (connected w = some (.ok (phoneLink 1)) ∧ disconnected w = some (.ok ()) ∧
      w.shared.connections.lookup 1 = none)
  have hcomputed : ((system shortLink).exec (quietBackend.start [phone] shortLink)
      untilClosed).any p = true := by decide
  obtain ⟨w, hrun, hp⟩ := Lts.exists_run_of_any hcomputed
  obtain ⟨hconn, hgone, hdead⟩ := of_decide_eq_true hp
  refine ⟨w, hrun, ⟨phoneLink 1, Program.value?_eq_some.mp hconn, rfl⟩, ?_, hdead⟩
  exact ⟨(), Program.value?_eq_some.mp hgone⟩

/-- A second `disconnect` refuses to work on the link. -/
theorem dead_link_short : ∃ w,
    (system shortLink).Run (quietBackend.start [phone] shortLink) untilClosed w ∧
      Refuses quietBackend w.shared (.disconnect (phoneLink 1)) (phoneLink 1) := by
  obtain ⟨w, hrun, -, hgone, hdead⟩ := exists_shortLink_closed
  exact ⟨w, hrun, (dead_link_iff hrun rfl hgone rfl).1.mpr ⟨rfl, hdead⟩⟩

/-- The write does not refuse to work on the closed link. -/
theorem dead_link_written : ∃ w,
    (system shortLink).Run (quietBackend.start [phone] shortLink) untilClosed w ∧
      HandsOut w 0 (phoneLink 1) ∧ Succeeded w 1 ∧
      ¬ Refuses quietBackend w.shared (shortLink 2) (phoneLink 1) := by
  obtain ⟨w, hrun, hout, hgone, -⟩ := exists_shortLink_closed
  exact ⟨w, hrun, hout, hgone, not_refuses rfl fun h => by cases h⟩

/-- The tokens come round: after enough connections, one of them was handed out twice. -/
theorem exists_token_reused :
    ∃ steps w, (system connects).Run (quietBackend.start [phone] connects) steps w ∧
      ¬ ((allOpened w).map Prod.fst).Nodup := by
  obtain ⟨steps, w, hrun, hopens, -, -⟩ := exists_connects (2 ^ 64 + 1)
  refine ⟨steps, w, hrun, not_nodup_of_length ?_⟩
  rw [List.length_map, allOpened, length_opened, hopens]
  exact Nat.lt_succ_self _

end MockBackend
end Pax
