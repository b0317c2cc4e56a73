import Pax.Transport.Mock.Ledger

/-!
# The operations of the mock are atomic

Any run of interleaved operations on the mock does the same to the ledger as `MockOp.atomic` does,
one operation after the other in an order that goes with real time. The order is that of the
commits. What an operation returns is settled there, by the state it finds and by the scripts of the
devices, which no step changes.

* For each operation there is one lemma, `atomic_discover` and so on: at its commit, it does what
  the specification says, and `atomic_of_returns` collects them.
* Bonds are the one part of the state that is not up to date at the commits, since `accept_pairings`
  enters them before. So the ledger goes with the operations that have committed (`Settled`), and
  `Mirrors` is what holds between the ledger and the state along a run.
* `linearizable` follows by the rule for pools of programs that commit once
  (`Pax.Framework.Linearizable`).
-/

namespace Pax
namespace MockBackend

open Program (Returns returns_done)

variable {backend : MockBackend} {op : MockOp} {es es₁ es₂ : List (Exchange mockSteps)}
  {e : Exchange mockSteps} {devices : List MockDevice} {s : MockState}

/-! ### Each operation, from its commit -/

/-- There is a state with these devices in which the exchange may have happened. -/
def AnsweredBy (devices : List MockDevice) (e : Exchange mockSteps) : Prop :=
  ∃ s answer, Scripted devices s ∧ (serve e.call answer s).1 = e.reply

section Atomic

variable {paired : Finset DeviceId}

/-- The ledger once an operation has committed, having entered these bonds. -/
def booked (s : MockState) (paired : Finset DeviceId) (es : List (Exchange mockSteps)) : Ledger :=
  ledger s (paired ∪ (enteredIds es).toFinset)

theorem booked_of_quiet {c : MockCall} (h : books c = false) (answer : PairingResponse)
    (hentered : enteredIds es = []) :
    booked (serve c answer s).2 paired es = ledger s paired := by
  rw [booked, hentered, List.toFinset_nil, Finset.union_empty]
  exact ledger_serve_of_books h answer s paired

theorem atomic_discover {filter : DiscoveryFilter} {r : (MockOp.discover filter).Result}
    {answer : PairingResponse} (hs : Scripted devices s)
    (h : Returns (backend.discover filter) (es₁ ++ e :: es₂) r)
    (hreply : (serve e.call answer s).1 = e.reply) (he : commits (.discover filter) e = true) :
    (MockOp.discover filter).atomic backend devices (ledger s paired) r
      (booked (serve e.call answer s).2 paired (es₁ ++ [e])) := by
  obtain ⟨event, es₃, hes, hstarted⟩ := returns_emit_bind h
  obtain ⟨found, es₄, rfl, hfound⟩ := Program.returns_call_bind hstarted
  obtain ⟨es₅, out, es₆, rfl, hloop, hend⟩ := Program.returns_bind.mp hfound
  obtain ⟨rfl, rfl⟩ := returns_done.mp hend
  obtain ⟨rfl, rfl⟩ := eq_of_append_cons [⟨.stamp backend.adapterOrigin .discoveryStarted
    step, event⟩, ⟨.onEvent event, ()⟩] hes he rfl (by
      rw [List.append_nil]
      exact countP_of_uses (uses_discoverFrom emitting_quiet filter found []) hloop)
  -- It commits at the snapshot, and selects from the devices of that state.
  refine ⟨?_, booked_of_quiet rfl answer rfl⟩
  have hfound : s.devices = found := hreply
  rw [(returns_discoverFrom hloop).1, Selection.keepBefore_eq, List.nil_append, ← hfound,
    hs.inReach]
  cases filter.limit <;> rfl

/-- A device that was found is as it was scripted. -/
theorem AnsweredBy.scripted {target : DeviceId} {device : MockDevice}
    (h : AnsweredBy devices ⟨.lookup target, some device⟩) :
    ∃ device₀ gatt, scripted devices target = some device₀ ∧ device = { device₀ with gatt } := by
  obtain ⟨s, answer, hs, hreply⟩ := h
  exact hs.eq_some hreply

theorem atomic_pair {target : DeviceId} {r : (MockOp.pair target).Result}
    {answer : PairingResponse} (hs : Scripted devices s)
    (h : Returns (backend.pair target) (es₁ ++ e :: es₂) r)
    (hreply : (serve e.call answer s).1 = e.reply) (he : commits (.pair target) e = true)
    (hbefore : ∀ e ∈ es₁, AnsweredBy devices e) :
    (MockOp.pair target).atomic backend devices (ledger s paired) r
      (booked (serve e.call answer s).2 paired (es₁ ++ [e])) := by
  obtain ⟨hes, rfl⟩ | ⟨device, es', result, hes, hattempt, rfl⟩ := returns_pair h
  -- not found, at the look-up, which is the commit
  · obtain ⟨rfl, rfl⟩ := eq_of_append_cons [] hes he rfl rfl
    have hnone : scripted devices target = none := hs.eq_none hreply
    simp only [MockOp.atomic, hnone]
    exact ⟨rfl, booked_of_quiet rfl answer rfl⟩
  -- The commit is the answer of the agent, if there is no bond, and the entry otherwise.
  · cases hattempt with
    | @declined response started failed hrefusal =>
      obtain ⟨rfl, rfl⟩ := eq_of_append_cons [_, _, _] hes he rfl rfl
      obtain ⟨device₀, gatt, hscripted, rfl⟩ := (hbefore _ List.mem_cons_self).scripted
      simp only [MockOp.atomic, hscripted]
      exact .inl ⟨rfl, booked_of_quiet rfl answer rfl⟩
    | @failed response reason started failed haccepted hreason =>
      obtain ⟨rfl, rfl⟩ := eq_of_append_cons [_, _, _] hes he rfl rfl
      obtain ⟨device₀, gatt, hscripted, rfl⟩ := (hbefore _ List.mem_cons_self).scripted
      simp only [MockOp.atomic, hscripted]
      exact .inr (.inl ⟨reason, hreason, rfl, booked_of_quiet rfl answer rfl⟩)
    | @completed response started completed haccepted hnone =>
      have hquiet : commits (.pair target) ⟨.respond device (requestFor device.pairingMethod),
          response⟩ = false := by
        change precludes device response = false
        simp [precludes, haccepted, hnone]
      have hcount : List.countP (commits (.pair target)) [⟨.lookup target, some device⟩,
          ⟨.stamp (device.origin backend.controller) (.pairingStarted device.pairingMethod) step,
            started⟩, ⟨.onEvent started, ()⟩,
          ⟨.respond device (requestFor device.pairingMethod), response⟩] = 0 := by
        rw [List.countP_cons, List.countP_cons, List.countP_cons, List.countP_singleton, hquiet]
        rfl
      obtain ⟨rfl, rfl⟩ := eq_of_append_cons [_, _, _, _] hes he hcount rfl
      obtain ⟨device₀, gatt, hscripted, rfl⟩ := (hbefore _ List.mem_cons_self).scripted
      have hinsert : paired ∪ [target].toFinset = insert target paired := by
        rw [List.toFinset_cons, List.toFinset_nil, insert_empty_eq, Finset.union_comm,
          Finset.insert_eq]
      simp only [MockOp.atomic, hscripted]
      exact .inr (.inr ⟨hnone, rfl, congrArg (ledger s) hinsert⟩)

theorem atomic_connect {target : DeviceId} {r : (MockOp.connect target).Result}
    {answer : PairingResponse} (hs : Scripted devices s)
    (h : Returns (backend.connect target) (es₁ ++ e :: es₂) r)
    (hreply : (serve e.call answer s).1 = e.reply) (he : commits (.connect target) e = true)
    (hbefore : ∀ e ∈ es₁, AnsweredBy devices e) :
    (MockOp.connect target).atomic backend devices (ledger s paired) r
      (booked (serve e.call answer s).2 paired (es₁ ++ [e])) := by
  obtain ⟨hes, rfl⟩ | ⟨device, token, dt, event, hes, rfl⟩ := returns_connect h
  · obtain ⟨rfl, rfl⟩ := eq_of_append_cons [] hes he rfl rfl
    have hnone : scripted devices target = none := hs.eq_none hreply
    simp only [MockOp.atomic, hnone]
    exact ⟨rfl, booked_of_quiet rfl answer rfl⟩
  · obtain ⟨rfl, rfl⟩ := eq_of_append_cons [_] hes he rfl rfl
    obtain ⟨device₀, gatt, hscripted, rfl⟩ := (hbefore _ List.mem_cons_self).scripted
    have htoken : s.nextToken = token := hreply
    simp only [MockOp.atomic, hscripted]
    refine ⟨by rw [← htoken]; rfl, ?_⟩
    -- The commit is the entry of the link under the next token.
    have hledger := ledger_openLink target answer s paired
    have hnothing : booked (serve (.openLink target) answer s).2 paired
        ([⟨.lookup target, some { device₀ with gatt }⟩] ++ [⟨.openLink target, token⟩])
          = ledger (serve (.openLink target) answer s).2 paired := by
      rw [booked]
      exact congrArg _ (Finset.union_empty paired)
    rw [hnothing, hledger]
    rfl

theorem atomic_disconnect {conn : Connection} {r : (MockOp.disconnect conn).Result}
    {answer : PairingResponse} (h : Returns (disconnect conn) (es₁ ++ e :: es₂) r)
    (hreply : (serve e.call answer s).1 = e.reply) (he : commits (.disconnect conn) e = true) :
    (MockOp.disconnect conn).atomic backend devices (ledger s paired) r
      (booked (serve e.call answer s).2 paired (es₁ ++ [e])) := by
  have hledger := ledger_closeLink conn.token answer s paired
  have hnothing (removed : Bool) : booked (serve (.closeLink conn.token) answer s).2 paired
      ([] ++ [⟨.closeLink conn.token, removed⟩])
        = ledger (serve (.closeLink conn.token) answer s).2 paired := by
    rw [booked]
    exact congrArg _ (Finset.union_empty paired)
  -- The one step that counts takes the link out, if it is there, and says whether it was.
  obtain ⟨hes, rfl⟩ | ⟨dt, event, hes, rfl⟩ := returns_disconnect h
  · obtain ⟨rfl, rfl⟩ := eq_of_append_cons [] hes he rfl rfl
    have hgone : (s.connections.lookup conn.token).isSome = false := hreply
    have hlink : (ledger s paired).links conn.token = none :=
      Option.isNone_iff_eq_none.mp (Option.isSome_eq_false_iff.mp hgone)
    simp only [MockOp.atomic, hlink]
    refine ⟨rfl, ?_⟩
    rw [hnothing, hledger, ← hlink, Function.update_eq_self]
  · obtain ⟨rfl, rfl⟩ := eq_of_append_cons [] hes he rfl rfl
    have hlive : (s.connections.lookup conn.token).isSome = true := hreply
    obtain ⟨peer, hpeer⟩ := Option.isSome_iff_exists.mp hlive
    have hlink : (ledger s paired).links conn.token = some peer := hpeer
    simp only [MockOp.atomic, hlink]
    exact ⟨rfl, (hnothing true).trans hledger⟩

theorem atomic_pushFile {conn : Connection} {file : OutboundFile}
    {r : (MockOp.pushFile conn file).Result} {answer : PairingResponse} (hs : Scripted devices s)
    (h : Returns (pushFile conn file) (es₁ ++ e :: es₂) r)
    (hreply : (serve e.call answer s).1 = e.reply) (he : commits (.pushFile conn file) e = true) :
    (MockOp.pushFile conn file).atomic backend devices (ledger s paired) r
      (booked (serve e.call answer s).2 paired (es₁ ++ [e])) := by
  have honce : (es₁ ++ e :: es₂).countP (commits (.pushFile conn file)) = 1 :=
    @commits_once backend (.pushFile conn file) _ _ h
  obtain ⟨checked, es₃, hes, hcounted⟩ := counted_of_returns h
  have hafter : es₃.countP (commits (.pushFile conn file)) = 0 := by
    rw [hes, List.countP_cons_of_pos rfl] at honce
    omega
  obtain ⟨rfl, rfl⟩ := eq_of_append_cons [] hes he rfl hafter
  refine ⟨booked_of_quiet rfl answer rfl, ?_⟩
  have herror {e : TransportError} (h : r.map counted = .error e) : r = .error e := by
    cases r with
    | error e' =>
      cases h
      rfl
    | ok receipt => cases h
  have hcheck : (serve (.checkLink conn) answer s).1 = checked := hreply
  simp only [serve] at hcheck
  -- The commit is the check of the link: the token is looked up first, and then the device.
  cases hlink : s.connections.lookup conn.token with
  | none =>
    have hgone : (ledger s paired).links conn.token = none := hlink
    rw [hlink] at hcheck
    subst hcheck
    simp only [hgone]
    exact herror hcounted
  | some peer =>
    have hlive : (ledger s paired).links conn.token = some peer := hlink
    rw [hlink] at hcheck
    cases hfind : s.find conn.peer with
    | none =>
      rw [hfind] at hcheck
      subst hcheck
      simp only [hlive, hs.eq_none hfind]
      exact herror hcounted
    | some device =>
      rw [hfind] at hcheck
      subst hcheck
      obtain ⟨device₀, gatt, hscripted, rfl⟩ := hs.eq_some hfind
      simp only [hlive, hscripted]
      have htakes : r.map counted = (takes device₀.transferFailureAfter
          (sliceChunks (max device₀.chunkSize.toNat 1) file.bytes) 0 0).map (Prod.mk file.name) :=
        hcounted
      cases htaken : takes device₀.transferFailureAfter
          (sliceChunks (max device₀.chunkSize.toNat 1) file.bytes) 0 0 with
      | error e =>
        rw [htaken] at htakes
        exact herror htakes
      | ok counts =>
        rw [htaken] at htakes
        exact exists_of_counted htakes

theorem atomic_acceptPairings {opts : InboundPairing} {r : (MockOp.acceptPairings opts).Result}
    {answer : PairingResponse} (h : Returns (backend.acceptPairings opts) (es₁ ++ e :: es₂) r)
    (he : commits (.acceptPairings opts) e = true) :
    (MockOp.acceptPairings opts).atomic backend devices (ledger s paired) r
      (booked (serve e.call answer s).2 paired (es₁ ++ [e])) := by
  obtain ⟨es', bonded, hes, hattempts, rfl⟩ := returns_acceptPairings h
  have honce := @commits_once backend (.acceptPairings opts) _ _ h
  have hbefore : es'.countP (commits (.acceptPairings opts)) = 0 := by
    rw [hes, List.countP_append, List.countP_singleton] at honce
    simp only [commits] at honce
    simpa using honce
  obtain ⟨rfl, rfl⟩ := eq_of_append_cons _ hes he hbefore rfl
  obtain ⟨hentered, hsub⟩ := hattempts.enteredIds_eq
  refine ⟨bonded, rfl, hsub, ?_⟩
  -- It commits when the window is over, with all the devices that it has entered.
  have hlast : enteredIds (es₁ ++ [⟨.advance opts.window, ()⟩]) = bonded := by
    rw [enteredIds_append, hentered]
    exact List.append_nil bonded
  rw [booked, hlast]
  rfl

theorem atomic_gattRead {conn : Connection} {service characteristic : Uuid}
    {r : (MockOp.gattRead conn service characteristic).Result} {answer : PairingResponse}
    (hs : Scripted devices s)
    (h : Returns (gattRead conn service characteristic) (es₁ ++ e :: es₂) r)
    (hreply : (serve e.call answer s).1 = e.reply)
    (he : commits (.gattRead conn service characteristic) e = true) :
    (MockOp.gattRead conn service characteristic).atomic backend devices (ledger s paired) r
      (booked (serve e.call answer s).2 paired (es₁ ++ [e])) := by
  obtain ⟨rfl, rfl⟩ := eq_of_append_cons [] (Program.returns_call.mp h) he rfl rfl
  refine ⟨booked_of_quiet rfl answer rfl, ?_⟩
  have hread : (serve (.gattGet conn.peer service characteristic) answer s).1 = r := hreply
  simp only [serve] at hread
  -- The device is looked for first, and then the characteristic.
  cases hfind : s.find conn.peer with
  | none =>
    rw [hfind] at hread
    simp only [hs.eq_none hfind]
    exact hread.symm
  | some device =>
    rw [hfind] at hread
    obtain ⟨device₀, gatt, hscripted, rfl⟩ := hs.eq_some hfind
    have hvalue : (ledger s paired).values conn.peer (service, characteristic)
        = gatt.lookup (service, characteristic) := by
      simp only [ledger, hfind, Option.bind_some]
    simp only [hscripted, hvalue]
    cases hlookup : gatt.lookup (service, characteristic) with
    | none =>
      simp only [hlookup] at hread
      exact hread.symm
    | some value =>
      simp only [hlookup] at hread
      exact hread.symm

theorem atomic_gattWrite {conn : Connection} {service characteristic : Uuid} {data : List UInt8}
    {withResponse : Bool}
    {r : (MockOp.gattWrite conn service characteristic data withResponse).Result}
    {answer : PairingResponse} (hs : Scripted devices s)
    (h : Returns (gattWrite conn service characteristic data withResponse) (es₁ ++ e :: es₂) r)
    (hreply : (serve e.call answer s).1 = e.reply)
    (he : commits (.gattWrite conn service characteristic data withResponse) e = true) :
    (MockOp.gattWrite conn service characteristic data withResponse).atomic backend devices
      (ledger s paired) r (booked (serve e.call answer s).2 paired (es₁ ++ [e])) := by
  obtain ⟨rfl, rfl⟩ := eq_of_append_cons [] (Program.returns_call.mp h) he rfl rfl
  have hwritten : (serve (.gattInsert conn.peer service characteristic data) answer s).1 = r :=
    hreply
  have hnothing : booked (serve (.gattInsert conn.peer service characteristic data) answer s).2
      paired ([] ++ [⟨.gattInsert conn.peer service characteristic data, r⟩])
        = ledger (serve (.gattInsert conn.peer service characteristic data) answer s).2 paired := by
    rw [booked]
    exact congrArg _ (Finset.union_empty paired)
  rw [hnothing]
  -- A device that is not found is the only reason for a write to fail.
  cases hfind : s.find conn.peer with
  | none =>
    simp only [MockOp.atomic, hs.eq_none hfind]
    simp only [serve, hfind] at hwritten ⊢
    exact ⟨hwritten.symm, trivial⟩
  | some device =>
    obtain ⟨device₀, gatt, hscripted, rfl⟩ := hs.eq_some hfind
    simp only [MockOp.atomic, hscripted]
    refine ⟨?_, ledger_gattInsert hfind service characteristic data answer paired⟩
    simp only [serve, hfind] at hwritten
    exact hwritten.symm

theorem atomic_gattSubscribe {conn : Connection} {service characteristic : Uuid}
    {r : (MockOp.gattSubscribe conn service characteristic).Result} {answer : PairingResponse}
    (hs : Scripted devices s)
    (h : Returns (gattSubscribe conn service characteristic) (es₁ ++ e :: es₂) r)
    (hreply : (serve e.call answer s).1 = e.reply)
    (he : commits (.gattSubscribe conn service characteristic) e = true) :
    (MockOp.gattSubscribe conn service characteristic).atomic backend devices (ledger s paired) r
      (booked (serve e.call answer s).2 paired (es₁ ++ [e])) := by
  obtain ⟨queued, es₃, hes, hqueued⟩ := Program.returns_call_bind h
  obtain ⟨rfl, rfl⟩ := returns_done.mp hqueued
  obtain ⟨rfl, rfl⟩ := eq_of_append_cons [] hes he rfl rfl
  refine ⟨booked_of_quiet rfl answer rfl, ?_⟩
  have hread : (serve (.gattQueue conn.peer service characteristic) answer s).1 = queued := hreply
  simp only [serve] at hread
  -- The notifications are those of the script, which is the same in every state.
  cases hfind : s.find conn.peer with
  | none =>
    rw [hfind] at hread
    subst hread
    simp only [hs.eq_none hfind]
    rfl
  | some device =>
    rw [hfind] at hread
    subst hread
    obtain ⟨device₀, gatt, hscripted, rfl⟩ := hs.eq_some hfind
    simp only [hscripted]
    rfl

/-- **What an operation returns is what it does if it is all done at its commit.** -/
theorem atomic_of_returns {r : op.Result} {answer : PairingResponse} (hs : Scripted devices s)
    (h : Returns (backend.run op) (es₁ ++ e :: es₂) r)
    (hreply : (serve e.call answer s).1 = e.reply) (he : commits op e = true)
    (hbefore : ∀ e ∈ es₁, AnsweredBy devices e) :
    op.atomic backend devices (ledger s paired) r
      (booked (serve e.call answer s).2 paired (es₁ ++ [e])) := by
  cases op with
  | discover filter => exact atomic_discover hs h hreply he
  | pair target => exact atomic_pair hs h hreply he hbefore
  | connect target => exact atomic_connect hs h hreply he hbefore
  | disconnect conn => exact atomic_disconnect h hreply he
  | pushFile conn file => exact atomic_pushFile hs h hreply he
  | acceptPairings opts => exact atomic_acceptPairings h he
  | gattRead conn service characteristic => exact atomic_gattRead hs h hreply he
  | gattWrite conn service characteristic data withResponse =>
    exact atomic_gattWrite hs h hreply he
  | gattSubscribe conn service characteristic => exact atomic_gattSubscribe hs h hreply he

end Atomic

/-! ### In a run -/

section Run

variable {ι : Type} [DecidableEq ι] {ops : ι → MockOp} {steps : List (ι × PairingResponse)}
  {trace : List (ι × Exchange mockSteps)} {w : Pool mockSteps MockState fun i => (ops i).Result}
  {a : Ledger} {i : ι} {id : DeviceId}

/-- The operation has committed, and bonded the device. -/
def Settled (ops : ι → MockOp) (trace : List (ι × Exchange mockSteps)) (id : DeviceId) (i : ι) :
    Prop :=
  (∃ e ∈ own trace i, commits (ops i) e = true) ∧ id ∈ enteredIds (own trace i)

/-- The ledger is that of the state, with the bonds of the operations that have committed. -/
structure Mirrors (ops : ι → MockOp) (trace : List (ι × Exchange mockSteps)) (s : MockState)
    (a : Ledger) : Prop where
  eq_ledger : a = ledger s a.paired
  paired : ∀ id, id ∈ a.paired ↔ ∃ i, Settled ops trace id i

/-- A step of one operation settles nothing for another one. -/
theorem settled_concat_of_ne {j : ι} (h : j ≠ i) :
    Settled ops (trace ++ [(i, e)]) id j ↔ Settled ops trace id j := by
  rw [Settled, Settled, own_concat_of_ne h]

/-- A step at which the operation does not commit settles nothing. -/
theorem settled_concat_self {p : Steps (ops i).Result}
    (hpath : Program.Path (backend.run (ops i)) (own trace i ++ [e]) p)
    (he : commits (ops i) e = false) :
    Settled ops (trace ++ [(i, e)]) id i ↔ Settled ops trace id i := by
  rw [Settled, Settled, own_concat_self, enteredIds_append]
  constructor
  · rintro ⟨⟨e', hmem, he'⟩, hid⟩
    rcases List.mem_append.mp hmem with hmem | hlast
    · -- it has committed before, and enters nothing after that
      obtain ⟨pre, post, hown⟩ := List.append_of_mem hmem
      obtain ⟨es, r, hreturns⟩ := Program.exists_returns p
      have hwhole := hpath.append hreturns
      rw [hown, List.append_assoc, List.append_assoc, List.cons_append] at hwhole
      have hafter := entered_after hwhole he'
      rw [enteredIds_append, enteredIds_append] at hafter
      have hnothing := (List.append_eq_nil_iff.mp (List.append_eq_nil_iff.mp hafter).2).1
      rw [hnothing, List.append_nil] at hid
      exact ⟨⟨e', hmem, he'⟩, hid⟩
    · rw [List.mem_singleton.mp hlast, he] at he'
      cases he'
  -- Its exchanges only become more.
  · rintro ⟨⟨e', hmem, he'⟩, hid⟩
    exact ⟨⟨e', List.mem_append_left _ hmem, he'⟩, List.mem_append_left _ hid⟩

/-- A step at which nothing commits leaves the ledger as it is. -/
theorem Mirrors.other (h : Mirrors ops trace s a) {c : MockCall} {answer : PairingResponse}
    {p : Steps (ops i).Result}
    (hpath : Program.Path (backend.run (ops i)) (own trace i ++ [⟨c, (serve c answer s).1⟩]) p)
    (hc : commits (ops i) ⟨c, (serve c answer s).1⟩ = false) :
    Mirrors ops (trace ++ [(i, ⟨c, (serve c answer s).1⟩)]) (serve c answer s).2 a where
  eq_ledger := by
    -- A step that changes the ledger commits, so that this one does not change it.
    cases hbooks : books c with
    | true =>
      have hcommits := commits_of_books hpath (e := ⟨c, (serve c answer s).1⟩) (by simp) hbooks
      rw [hc] at hcommits
      cases hcommits
    | false => exact h.eq_ledger.trans (ledger_serve_of_books hbooks answer s _).symm
  paired id := by
    rw [h.paired]
    refine exists_congr fun j => ?_
    by_cases hj : j = i
    · subst hj
      exact (settled_concat_self hpath hc).symm
    · exact (settled_concat_of_ne hj).symm

/-- At a commit, the bonds of the operation are booked in the ledger. -/
theorem Mirrors.commit (h : Mirrors ops trace s a) {c : MockCall} {answer : PairingResponse}
    (hc : commits (ops i) ⟨c, (serve c answer s).1⟩ = true) :
    Mirrors ops (trace ++ [(i, ⟨c, (serve c answer s).1⟩)]) (serve c answer s).2
      (booked (serve c answer s).2 a.paired (own trace i ++ [⟨c, (serve c answer s).1⟩])) where
  eq_ledger := rfl
  paired id := by
    change id ∈ a.paired ∪ _ ↔ _
    rw [Finset.mem_union, h.paired, List.mem_toFinset]
    constructor
    -- What was settled before stays so, and what this operation has entered is settled now.
    · rintro (⟨j, hj⟩ | hid)
      · refine ⟨j, ?_⟩
        by_cases hji : j = i
        · subst hji
          obtain ⟨⟨e, he, hcommits⟩, hid⟩ := hj
          rw [Settled, own_concat_self, enteredIds_append]
          exact ⟨⟨e, List.mem_append_left _ he, hcommits⟩, List.mem_append_left _ hid⟩
        · exact (settled_concat_of_ne hji).mpr hj
      · refine ⟨i, ?_⟩
        rw [Settled, own_concat_self]
        exact ⟨⟨_, List.mem_append_right _ List.mem_cons_self, hc⟩, hid⟩
    · rintro ⟨j, hj⟩
      by_cases hji : j = i
      · subst hji
        rw [Settled, own_concat_self] at hj
        exact .inr hj.2
      · exact .inl ⟨j, (settled_concat_of_ne hji).mp hj⟩

/-- What was answered before was answered by the devices as they were scripted. -/
theorem answeredBy_of_mem (h : Served serve (.init devices) es s) (he : e ∈ es) :
    AnsweredBy devices e := by
  obtain ⟨pre, post, rfl⟩ := List.append_of_mem he
  obtain ⟨s', answer, hpre, hreply, -⟩ := h.at_exchange
  exact ⟨s', answer, scripted_of_served hpre, hreply⟩

/-- The bonds of the ledger are among those of the state, and all of them if no operation is in
progress. -/
theorem Mirrors.paired_eq
    (hreached : Pool.Reached serve (.init devices) (fun i => backend.run (ops i)) w)
    (h : Mirrors ops w.trace w.shared a) :
    a.paired ⊆ w.shared.paired ∧ (w.Quiescent → a.paired = w.shared.paired) := by
  have hmem (id : DeviceId) : id ∈ w.shared.paired ↔ ∃ i, id ∈ enteredIds (own w.trace i) := by
    rw [mem_paired_iff hreached.served, mem_enteredIds, List.mem_map]
    simp only [mem_enteredIds, mem_own]
    constructor
    · rintro ⟨⟨i, e⟩, hmem, rfl⟩
      exact ⟨i, hmem⟩
    · rintro ⟨i, hmem⟩
      exact ⟨_, hmem, rfl⟩
  constructor
  · intro id hid
    obtain ⟨i, -, hentered⟩ := (h.paired id).mp hid
    exact (hmem id).mpr ⟨i, hentered⟩
  -- At rest, every operation that has begun has returned, and so has committed.
  · intro hquiescent
    ext id
    rw [h.paired, hmem]
    refine exists_congr fun i => ⟨And.right, fun hentered => ⟨?_, hentered⟩⟩
    rcases hreached.atRest (hquiescent i) with hnil | ⟨r, hreturns⟩
    · rw [hnil] at hentered
      cases hentered
    · have honce := commits_once hreturns
      exact List.countP_pos_iff.mp (honce ▸ Nat.one_pos)

/-- **The mock is linearizable.** In any run of interleaved operations, those that have committed
can be put in an order in which each, done at once, returns what it returned in the run, or whatever
it may still return; all that have returned are among them, and one that was over before another one
began comes first. What they leave are the links, the characteristics and the tokens of the mock,
and its bonds if no operation is in progress. -/
theorem linearizable (hrun : (system ops).Run (backend.start devices ops) steps w) :
    ∃ a order, Pool.Linearizes (fun i => (ops i).atomic backend devices) w (.init devices) a order ∧
      a = ledger w.shared a.paired ∧ a.paired ⊆ w.shared.paired ∧
      (w.Quiescent → a = ledger w.shared w.shared.paired) := by
  have hinit : Mirrors ops [] (.init devices) (.init devices) := by
    refine ⟨(ledger_init devices).symm, fun id => ?_⟩
    constructor
    · intro hid
      exact absurd hid (Finset.notMem_empty id)
    · rintro ⟨i, ⟨e, he, -⟩, -⟩
      cases he
  obtain ⟨a, hmirrors, horder⟩ := Pool.exists_linearization (fun i => commits (ops i)) (Mirrors ops)
    (fun i es r h => commits_once h) hinit
    (fun trace s a i c answer hserved hmirrors ⟨next, hpath⟩ hc =>
      hmirrors.other (hpath.snoc _) hc)
    (fun trace s a i c answer hserved hmirrors _ hc => by
      -- at its commit an operation does what it does at once
      refine ⟨_, hmirrors.commit hc, fun es r hreturns => ?_⟩
      rw [hmirrors.eq_ledger]
      refine atomic_of_returns (scripted_of_served hserved) hreturns rfl hc fun e he => ?_
      exact answeredBy_of_mem hserved (List.mem_map.mpr ⟨_, mem_own.mp he, rfl⟩))
    hrun
  obtain ⟨hsub, hquiescent⟩ := hmirrors.paired_eq (reached hrun)
  refine ⟨a, _, horder, hmirrors.eq_ledger, hsub, fun hrest => ?_⟩
  rw [← hquiescent hrest]
  exact hmirrors.eq_ledger

end Run

/-- A link that is opened and closed again leaves none. -/
theorem linearizable_short : ∃ w a order,
    (system shortLink).Run (quietBackend.start [phone] shortLink) untilClosed w ∧
      Pool.Linearizes (fun i => (shortLink i).atomic quietBackend [phone]) w (.init [phone]) a
        order ∧ (1 : Fin 3) ∈ order ∧ a.links 1 = none := by
  obtain ⟨w, hrun, -, ⟨u, hgone⟩, hdead⟩ := exists_shortLink_closed
  obtain ⟨a, order, horder, ha, -, -⟩ := linearizable hrun
  refine ⟨w, a, order, hrun, horder, horder.returned 1 _ hgone, ?_⟩
  rw [ha]
  exact hdead

end MockBackend
end Pax
