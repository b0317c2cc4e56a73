import Pax.Framework.Linearizable
import Pax.Transport.Mock.LinkState

/-!
# What the mock is for

An operation of the mock takes the lock several times, and hands its events to the observer in
between. `Ledger` is what a backend is for, as a caller sees it: who is linked under which token,
who is bonded, and what the characteristics hold. `MockOp.atomic` says what each operation does to
it, all at once.

Each operation commits at one of its steps (`commits`): where it enters or takes out its token,
where it reads or writes a characteristic, where it copies the devices, where it finds that the
device is unknown or that its link is gone. A pairing commits with the bond, or with the answer if
there is none. `accept_pairings` enters one bond after the other and commits at its last step:
nothing that the mock returns depends on who is bonded, so no other operation can tell.
-/

namespace Pax

/-- The links, the bonds and the characteristics, as a caller sees them. -/
structure Ledger where
  links : UInt64 → Option DeviceId
  nextToken : UInt64
  paired : Finset DeviceId
  values : DeviceId → Uuid × Uuid → Option (List UInt8)

/-- Before any operation, the characteristics are as they were scripted. -/
def Ledger.init (devices : List MockDevice) : Ledger where
  links _ := none
  nextToken := 1
  paired := ∅
  values id key := ((MockState.init devices).find id).bind fun device => device.gatt.lookup key

namespace MockBackend

/-- The first device of that id, as it was scripted. -/
def scripted (devices : List MockDevice) (id : DeviceId) : Option MockDevice :=
  (MockState.init devices).find id

/-- How much of a file a device takes that fails after so many bytes: what the loop over the chunks
comes to. -/
def takes (failureAfter : Option UInt64) :
    List (List UInt8) → (transferred chunks : UInt64) → Except TransportError (UInt64 × UInt64)
  | [], transferred, chunks => .ok (transferred, chunks)
  | chunk :: rest, transferred, chunks =>
    let n := UInt64.ofNat chunk.length
    match failureAfter.filter fun limit => limit < transferred + n with
    | some limit => .error (.transferFailed transferred (linkFailure limit))
    | none => takes failureAfter rest (transferred + n) (chunks + 1)

end MockBackend

open MockBackend in
/-- What an operation does if it is done at once: its result, and the ledger that it leaves, by
the ledger that it finds. -/
def MockOp.atomic (backend : MockBackend) (devices : List MockDevice) :
    (op : MockOp) → (a : Ledger) → (r : op.Result) → (a' : Ledger) → Prop
  | .discover filter, a, r, a' =>
    r = .ok (Selection.firstAccepted (filter.accepts backend.toLowercase) filter.limit
      (inReach filter devices)) ∧ a' = a
  | .pair target, a, r, a' =>
    match scripted devices target with
    | none => r = .error (.deviceNotFound target) ∧ a' = a
    | some device =>
      -- the agent refuses, or the device fails, or the two are bonded
      (r = .error (.pairingRejected declined) ∧ a' = a) ∨
      (∃ reason, device.pairingFailure = some reason ∧
        r = .error (.pairingFailed reason) ∧ a' = a) ∨
      (device.pairingFailure = none ∧ r = .ok (.ofBond device.pairingMethod) ∧
        a' = { a with paired := insert target a.paired })
  | .connect target, a, r, a' =>
    match scripted devices target with
    | none => r = .error (.deviceNotFound target) ∧ a' = a
    | some device =>
      r = .ok { peer := target, local' := backend.controller, spec := device.spec
                standards := device.standards, token := a.nextToken } ∧
        a' = { a with
          links := Function.update a.links a.nextToken (some target)
          nextToken := a.nextToken + 1 }
  | .disconnect conn, a, r, a' =>
    match a.links conn.token with
    | none => r = .error (.notConnected conn.peer) ∧ a' = a
    | some _ => r = .ok () ∧ a' = { a with links := Function.update a.links conn.token none }
  | .pushFile conn file, a, r, a' =>
    a' = a ∧
    match a.links conn.token, scripted devices conn.peer with
    | none, _ => r = .error (.notConnected conn.peer)
    | some _, none => r = .error (.deviceNotFound conn.peer)
    | some _, some device =>
      match takes device.transferFailureAfter
        (sliceChunks (max device.chunkSize.toNat 1) file.bytes) 0 0 with
      | .error e => r = .error e
      -- how long it takes depends on what else goes on
      | .ok (bytes, chunks) =>
        ∃ duration, r = .ok { objectName := file.name, bytes, chunks, duration }
  | .acceptPairings opts, a, r, a' =>
    ∃ bonded : List DeviceId, r = .ok bonded ∧
      bonded.Sublist (((backend.tried opts).filter fun device => device.pairingFailure.isNone).map
        fun device => device.info.id) ∧
      a' = { a with paired := a.paired ∪ bonded.toFinset }
  | .gattRead conn service characteristic, a, r, a' =>
    a' = a ∧
    match scripted devices conn.peer, a.values conn.peer (service, characteristic) with
    | none, _ => r = .error (.deviceNotFound conn.peer)
    | some _, none => r = .error (noCharacteristic characteristic conn.peer)
    | some _, some value => r = .ok value
  | .gattWrite conn service characteristic data _, a, r, a' =>
    match scripted devices conn.peer with
    | none => r = .error (.deviceNotFound conn.peer) ∧ a' = a
    | some _ =>
      let value := Function.update (a.values conn.peer) (service, characteristic) (some data)
      r = .ok () ∧ a' = { a with values := Function.update a.values conn.peer value }
  | .gattSubscribe conn service characteristic, a, r, a' =>
    a' = a ∧
    match scripted devices conn.peer with
    | none => r = .error (.deviceNotFound conn.peer)
    | some device =>
      let values := (device.gattNotifications.lookup (service, characteristic)).getD []
      r = .ok (values.map fun value => (characteristic, value))

namespace MockBackend

open Program (Returns returns_done)

/-! ### Steps of events -/

/-- The condition leaves events alone: to stamp one and to hand it over is always allowed. -/
structure Emitting (ok : MockCall → Prop) : Prop where
  stamp : ∀ origin kind dt, ok (.stamp origin kind dt)
  onEvent : ∀ event, ok (.onEvent event)

section Emitting

variable {ok : MockCall → Prop} (h : Emitting ok)
include h

theorem uses_emit (origin : EventOrigin) (kind : TransitEventKind) (dt : Duration) :
    (emit origin kind dt).Uses ok :=
  ⟨h.stamp origin kind dt, fun event => ⟨h.onEvent event, fun _ => trivial⟩⟩

theorem uses_discoverFrom {backend : MockBackend} (filter : DiscoveryFilter)
    (devices : List MockDevice) (out : List DeviceInfo) :
    (backend.discoverFrom filter devices out).Uses ok := by
  -- On the devices: a discovery makes no steps but those of its events.
  induction devices generalizing out with
  | nil => trivial
  | cons device devices ih =>
    rw [discoverFrom]
    split
    · exact ih out
    · split
      · exact ih out
      · split
        · trivial
        · exact (uses_emit h _ _ _).bind fun _ => ih _

theorem uses_pushChunks (device : MockDevice) (origin : EventOrigin) (total : UInt64)
    (pieces : List (List UInt8)) (transferred chunks : UInt64) :
    (pushChunks device origin total pieces transferred chunks).Uses ok := by
  induction pieces generalizing transferred chunks with
  | nil => trivial
  | cons piece pieces ih =>
    rw [pushChunks]
    split
    · exact (uses_emit h _ _ _).bind fun _ => trivial
    · exact (uses_emit h _ _ _).bind fun _ => (uses_emit h _ _ _).bind fun _ => ih _ _

/-- An operation whose own steps are as the condition says. -/
theorem Built.uses {op : MockOp} {α : Type} {p : Steps α} (hp : Built op p)
    (hholds : ∀ c, holds op c = true → ok c) : p.Uses ok := by
  induction hp with
  | done a => trivial
  | emit origin kind dt _ _ ih => exact (uses_emit h origin kind dt).bind fun _ => ih
  | ask c hcall _ ih => exact ⟨hholds c hcall, ih⟩

end Emitting

/-! ### Commits -/

/-- No bond can come of that answer: it refuses, or the device is scripted to fail. -/
def precludes (device : MockDevice) (response : PairingResponse) : Bool :=
  decide response.IsRefusal || device.pairingFailure.isSome

/-- The step at which an operation takes effect. Which step of a pairing it is depends on what
the agent answers. -/
def commits : MockOp → Exchange mockSteps → Bool
  | .discover _, ⟨.snapshot, _⟩ => true
  | .pair _, ⟨.lookup _, found⟩ => Option.isNone (α := MockDevice) found
  | .pair _, ⟨.respond device _, response⟩ => precludes device response
  | .pair _, ⟨.insertPaired _, _⟩ => true
  | .connect _, ⟨.lookup _, found⟩ => Option.isNone (α := MockDevice) found
  | .connect _, ⟨.openLink _, _⟩ => true
  | .disconnect _, ⟨.closeLink _, _⟩ => true
  | .pushFile _ _, ⟨.checkLink _, _⟩ => true
  | .acceptPairings _, ⟨.advance _, _⟩ => true
  | .gattRead .., ⟨.gattGet .., _⟩ => true
  | .gattWrite .., ⟨.gattInsert .., _⟩ => true
  | .gattSubscribe .., ⟨.gattQueue .., _⟩ => true
  | _, _ => false

variable {backend : MockBackend} {op : MockOp} {es es₁ es₂ : List (Exchange mockSteps)}
  {e : Exchange mockSteps}

/-- A step at which the operation does not take effect, whatever the reply. -/
def Quiet (op : MockOp) (c : MockCall) : Prop := ∀ reply, commits op ⟨c, reply⟩ = false

theorem emitting_quiet : Emitting (Quiet op) where
  stamp origin kind dt _ := by cases op <;> rfl
  onEvent event _ := by cases op <;> rfl

theorem uses_pairDevice (opts : InboundPairing) (device : MockDevice) (target : DeviceId) :
    (backend.pairDevice device target).Uses (Quiet (.acceptPairings opts)) := by
  have hemit (origin : EventOrigin) (kind : TransitEventKind) :
      (emit origin kind step).Uses (Quiet (.acceptPairings opts)) :=
    uses_emit emitting_quiet origin kind step
  refine (hemit _ _).bind fun _ => ⟨fun _ => rfl, fun (response : PairingResponse) => ?_⟩
  change Program.Uses _ (if response.IsRefusal then _ else _)
  split_ifs
  · exact (hemit _ _).bind fun _ => trivial
  · cases device.pairingFailure with
    | some reason => exact (hemit _ _).bind fun _ => trivial
    | none => exact ⟨fun _ => rfl, fun _ => (hemit _ _).bind fun _ => trivial⟩

theorem uses_acceptFrom (opts : InboundPairing) (devices : List MockDevice)
    (bonded : List DeviceId) :
    (backend.acceptFrom devices bonded).Uses (Quiet (.acceptPairings opts)) := by
  induction devices generalizing bonded with
  | nil => trivial
  | cons device devices ih =>
    refine (uses_pairDevice opts device _).bind fun result => ?_
    cases result with
    | error e => exact ih bonded
    | ok u => exact ih _

theorem countP_of_uses {α : Type} {p q : Steps α} (hp : p.Uses (Quiet op))
    (h : Program.Path p es q) : es.countP (commits op) = 0 :=
  List.countP_eq_zero.mpr fun e he => by
    rw [hp.path h e he e.reply]
    exact Bool.false_ne_true

/-- One commit among other steps, none of which is one, is one commit. -/
theorem countP_commit (before : List (Exchange mockSteps)) (he : commits op e = true)
    (h₁ : before.countP (commits op) = 0) (h₂ : es.countP (commits op) = 0) :
    (before ++ e :: es).countP (commits op) = 1 := by
  rw [List.countP_append, List.countP_cons_of_pos he, h₁, h₂]

/-- **An operation takes effect once** before it returns: each of its paths has one commit. -/
theorem commits_once {r : op.Result} (h : Returns (backend.run op) es r) :
    es.countP (commits op) = 1 := by
  -- For each operation, its exchanges from the first to the last: one of them is the commit.
  cases op with
  | discover filter =>
    obtain ⟨event, es₁, rfl, hstarted⟩ := returns_emit_bind h
    obtain ⟨found, es₂, rfl, hfound⟩ := Program.returns_call_bind hstarted
    obtain ⟨es₃, out, es₄, rfl, hloop, hend⟩ := Program.returns_bind.mp hfound
    obtain ⟨rfl, -⟩ := returns_done.mp hend
    have hquiet : es₃.countP (commits (.discover filter)) = 0 :=
      countP_of_uses (uses_discoverFrom emitting_quiet filter found []) hloop
    rw [List.append_nil]
    exact countP_commit [_, _] rfl rfl hquiet
  | pair target =>
    obtain ⟨rfl, -⟩ | ⟨device, es', result, rfl, hattempt, -⟩ := returns_pair h
    · rfl
    · cases hattempt with
      | @declined response started failed hrefusal =>
        have hprecludes : precludes device response = true := by simp [precludes, hrefusal]
        exact countP_commit [_, _, _] hprecludes rfl rfl
      | @failed response reason started failed haccepted hreason =>
        have hprecludes : precludes device response = true := by simp [precludes, hreason]
        exact countP_commit [_, _, _] hprecludes rfl rfl
      | @completed response started completed haccepted hnone =>
        have hprecludes : precludes device response = false := by
          simp [precludes, haccepted, hnone]
        refine countP_commit [_, _, _, _] rfl ?_ rfl
        rw [List.countP_eq_zero]
        simpa [commits] using hprecludes
  | connect target =>
    obtain ⟨rfl, -⟩ | ⟨device, token, dt, event, rfl, -⟩ := returns_connect h
    · rfl
    · rfl
  | disconnect conn =>
    obtain ⟨rfl, -⟩ | ⟨dt, event, rfl, -⟩ := returns_disconnect h
    · rfl
    · rfl
  | pushFile conn file =>
    obtain ⟨checked, es₁, rfl, hchecked⟩ := Program.returns_call_bind h
    cases checked with
    | error e =>
      obtain ⟨rfl, -⟩ := returns_done.mp hchecked
      rfl
    | ok device =>
      obtain ⟨start, es₂, rfl, hstarted⟩ := Program.returns_call_bind hchecked
      obtain ⟨event, es₃, rfl, hemitted⟩ := returns_emit_bind hstarted
      obtain ⟨es₄, pushed, es₅, rfl, hpushed, hend⟩ := Program.returns_bind.mp hemitted
      have hquiet : es₄.countP (commits (.pushFile conn file)) = 0 :=
        countP_of_uses (uses_pushChunks emitting_quiet device _ _ _ _ _) hpushed
      -- behind the chunks come the reading of the clock and the event
      have hlast : es₅.countP (commits (.pushFile conn file)) = 0 := by
        cases pushed with
        | error e =>
          obtain ⟨rfl, -⟩ := returns_done.mp hend
          rfl
        | ok counts =>
          obtain ⟨finish, es₆, rfl, hfinish⟩ := Program.returns_call_bind hend
          obtain ⟨event', es₇, rfl, hdone⟩ := returns_emit_bind hfinish
          obtain ⟨rfl, -⟩ := returns_done.mp hdone
          rfl
      refine countP_commit [] rfl rfl ?_
      rw [List.countP_cons, List.countP_cons, List.countP_cons, List.countP_append, hquiet, hlast]
      rfl
  | acceptPairings opts =>
    obtain ⟨es₁, out, es₂, rfl, haccepted, hend⟩ := Program.returns_bind.mp h
    obtain ⟨u, es₃, rfl, hlast⟩ := Program.returns_call_bind hend
    obtain ⟨rfl, -⟩ := returns_done.mp hlast
    have hquiet := countP_of_uses (uses_acceptFrom opts _ _) haccepted
    rw [List.countP_append, hquiet]
    rfl
  | gattRead conn service characteristic =>
    obtain ⟨reply, es', rfl, hrest⟩ := Program.returns_ask.mp h
    obtain ⟨rfl, -⟩ := returns_done.mp hrest
    rfl
  | gattWrite conn service characteristic data withResponse =>
    obtain ⟨reply, es', rfl, hrest⟩ := Program.returns_ask.mp h
    obtain ⟨rfl, -⟩ := returns_done.mp hrest
    rfl
  | gattSubscribe conn service characteristic =>
    obtain ⟨reply, es', rfl, hrest⟩ := Program.returns_call_bind h
    obtain ⟨rfl, -⟩ := returns_done.mp hrest
    rfl

/-- What an operation enters into the paired set, it has entered when it commits. -/
theorem entered_after {r : op.Result} (h : Returns (backend.run op) (es₁ ++ e :: es₂) r)
    (he : commits op e = true) : enteredIds es₂ = [] := by
  have honce := commits_once h
  rw [List.countP_append, List.countP_cons_of_pos he] at honce
  have hquiet : es₂.countP (commits op) = 0 := by omega
  apply List.eq_nil_iff_forall_not_mem.mpr
  intro id hid
  have hmem := mem_enteredIds.mp hid
  by_cases hpair : ∃ target, op = .pair target
  · obtain ⟨target, rfl⟩ := hpair
    exact List.countP_eq_zero.mp hquiet _ hmem rfl
  · by_cases haccept : ∃ opts, op = .acceptPairings opts
    · obtain ⟨opts, rfl⟩ := haccept
      -- it commits at the end
      obtain ⟨es₃, out, es₄, hes, haccepted, hend⟩ := Program.returns_bind.mp h
      obtain ⟨u, es₅, rfl, hlast⟩ := Program.returns_call_bind hend
      obtain ⟨rfl, -⟩ := returns_done.mp hlast
      obtain ⟨rfl, rfl⟩ := eq_of_append_cons _ hes he
        (countP_of_uses (uses_acceptFrom opts _ _) haccepted) rfl
      obtain rfl := (List.cons_eq_cons.mp (List.append_cancel_left hes)).2
      cases hmem
    · have hfree := pairing_free h (fun target hop => hpair ⟨target, hop⟩)
        (fun opts hop => haccept ⟨opts, hop⟩) ⟨.insertPaired id, ()⟩ (by simp [hmem])
      cases hfree.1

/-! ### Bonds -/

/-- An attempt enters its target if it succeeds. -/
theorem Attempt.mem_enteredIds {device : MockDevice} {target id : DeviceId}
    {r : Except TransportError Unit} (h : Attempt backend device target es r) :
    id ∈ enteredIds es ↔ id = target ∧ r.isOk = true := by
  cases h with
  | completed started completed haccepted hnone =>
    exact List.mem_singleton.trans (and_iff_left rfl).symm
  | _ => exact iff_of_false List.not_mem_nil fun h => Bool.false_ne_true h.2

/-- Those that bond are entered, and they are among those that do not fail. -/
theorem Attempts.enteredIds_eq {tried : List MockDevice} {bonded : List DeviceId}
    (h : Attempts backend tried es bonded) : enteredIds es = bonded ∧
      bonded.Sublist ((tried.filter fun device => device.pairingFailure.isNone).map
        fun device => device.info.id) := by
  -- On the attempts: those that succeed enter their device, and no other do.
  induction h with
  | nil => exact ⟨rfl, .slnil⟩
  | @failed device tried es es' bonded e hattempt _ ih =>
    refine ⟨?_, ih.2.trans (((List.sublist_cons_self _ _).filter _).map _)⟩
    rw [enteredIds_append, ih.1]
    cases hattempt <;> rfl
  | @completed device tried es es' bonded hattempt _ ih =>
    cases hattempt with
    | completed started completed haccepted hnone =>
      refine ⟨congrArg (device.info.id :: ·) ih.1, ?_⟩
      rw [List.filter_cons_of_pos (by rw [hnone]; rfl), List.map_cons]
      exact ih.2.cons_cons _

/-! ### What was scripted -/

/-- What is scripted of a device and never changes. -/
def script (device : MockDevice) : MockDevice := { device with gatt := ∅ }

/-- The state has the devices it began with, up to what their characteristics hold. -/
def Scripted (devices : List MockDevice) (s : MockState) : Prop :=
  s.devices.map script = devices.map script

variable {devices : List MockDevice} {s : MockState}

theorem Scripted.serve (h : Scripted devices s) (c : MockCall) (answer : PairingResponse) :
    Scripted devices (serve c answer s).2 :=
  (map_devices_serve (fun _ _ => rfl) c answer s).trans h

theorem scripted_of_served (h : Served serve (.init devices) es s) : Scripted devices s :=
  h.invariant (P := fun _ s => Scripted devices s) rfl fun _ _ c answer hs => hs.serve c answer

/-- A device is found if one was scripted, and it is as it was scripted. -/
theorem Scripted.find (h : Scripted devices s) (id : DeviceId) :
    (s.find id).map script = (scripted devices id).map script := by
  have hfind (l : List MockDevice) : (l.find? fun device => device.info.id = id).map script
      = (l.map script).find? fun device => device.info.id = id := by
    rw [List.find?_map]
    rfl
  rw [MockState.find, scripted, MockState.find, hfind, hfind]
  exact congrArg _ h

theorem Scripted.eq_none (h : Scripted devices s) {id : DeviceId} (hfind : s.find id = none) :
    scripted devices id = none := by
  have hmap := h.find id
  rw [hfind] at hmap
  exact Option.map_eq_none_iff.mp hmap.symm

/-- What has the same script differs in its characteristics only. -/
theorem eq_of_script {device₀ device : MockDevice} (h : script device₀ = script device) :
    device = { device₀ with gatt := device.gatt } := by
  simp only [script, MockDevice.mk.injEq] at h
  cases device
  simp_all

theorem Scripted.eq_some (h : Scripted devices s) {id : DeviceId} {device : MockDevice}
    (hfind : s.find id = some device) :
    ∃ device₀ gatt, scripted devices id = some device₀ ∧ device = { device₀ with gatt } := by
  have hmap := h.find id
  rw [hfind] at hmap
  obtain ⟨device₀, hscripted, hscript⟩ := Option.map_eq_some_iff.mp hmap.symm
  exact ⟨device₀, device.gatt, hscripted, eq_of_script hscript⟩

theorem Scripted.inReach (h : Scripted devices s) (filter : DiscoveryFilter) :
    inReach filter s.devices = inReach filter devices := by
  have hscript (l : List MockDevice) :
      MockBackend.inReach filter l = MockBackend.inReach filter (l.map script) := by
    rw [MockBackend.inReach, MockBackend.inReach, List.filter_map, List.map_map]
    rfl
  rw [hscript, hscript devices]
  exact congrArg _ h

/-! ### Pushes -/

/-- The loop over the chunks stops where the device fails. -/
theorem takes_of_returns {device : MockDevice} {origin : EventOrigin} {total : UInt64}
    {pieces : List (List UInt8)} {transferred chunks : UInt64}
    {r : Except TransportError (UInt64 × UInt64)}
    (h : Returns (pushChunks device origin total pieces transferred chunks) es r) :
    r = takes device.transferFailureAfter pieces transferred chunks := by
  -- On the pieces that are left: the limit cuts the next one off, or it goes through.
  induction pieces generalizing transferred chunks es with
  | nil => exact (returns_done.mp h).2
  | cons piece pieces ih =>
    rw [pushChunks] at h
    rw [takes]
    generalize device.transferFailureAfter.filter _ = failure at h ⊢
    cases failure with
    | some limit =>
      obtain ⟨event, es₁, rfl, hend⟩ := returns_emit_bind h
      exact (returns_done.mp hend).2
    | none =>
      obtain ⟨event, es₁, rfl, hchunk⟩ := returns_emit_bind h
      obtain ⟨event', es₂, rfl, hrest⟩ := returns_emit_bind hchunk
      exact ih hrest

/-- What a receipt says, but for how long the transfer took: the clock goes on while others work. -/
def counted (receipt : TransferReceipt) : String × UInt64 × UInt64 :=
  (receipt.objectName, receipt.bytes, receipt.chunks)

theorem exists_of_counted {r : Except TransportError TransferReceipt} {name : String}
    {bytes chunks : UInt64} (h : r.map counted = .ok (name, bytes, chunks)) :
    ∃ duration, r = .ok { objectName := name, bytes, chunks, duration } := by
  cases r with
  | error e => cases h
  | ok receipt =>
    obtain ⟨objectName, bytes', chunks', duration⟩ := receipt
    cases h
    exact ⟨duration, rfl⟩

/-- **A push**: once its link has been found, it comes to what the device takes. -/
theorem counted_of_returns {conn : Connection} {file : OutboundFile}
    {r : Except TransportError TransferReceipt} (h : Returns (pushFile conn file) es r) :
    ∃ (checked : Except TransportError MockDevice) (es' : List (Exchange mockSteps)),
      es = ⟨.checkLink conn, checked⟩ :: es' ∧
        r.map counted = checked.bind fun device =>
          (takes device.transferFailureAfter
              (sliceChunks (max device.chunkSize.toNat 1) file.bytes) 0 0).map
            (Prod.mk file.name) := by
  obtain ⟨checked, es₁, rfl, hchecked⟩ := Program.returns_call_bind h
  refine ⟨checked, es₁, rfl, ?_⟩
  cases checked with
  | error e =>
    obtain ⟨-, rfl⟩ := returns_done.mp hchecked
    rfl
  | ok device =>
    obtain ⟨start, es₂, rfl, hstarted⟩ := Program.returns_call_bind hchecked
    obtain ⟨event, es₃, rfl, hemitted⟩ := returns_emit_bind hstarted
    obtain ⟨es₄, pushed, es₅, rfl, hpushed, hend⟩ := Program.returns_bind.mp hemitted
    show r.map counted = (takes _ _ 0 0).map (Prod.mk file.name)
    rw [← takes_of_returns hpushed]
    -- What the loop has counted is what the receipt says, or its error is that of the push.
    cases pushed with
    | error e =>
      obtain ⟨-, rfl⟩ := returns_done.mp hend
      rfl
    | ok counts =>
      obtain ⟨finish, es₆, rfl, hfinish⟩ := Program.returns_call_bind hend
      obtain ⟨event', es₇, rfl, hlast⟩ := returns_emit_bind hfinish
      obtain ⟨-, rfl⟩ := returns_done.mp hlast
      rfl

/-! ### The ledger of a state -/

/-- The ledger that the state comes to, with these bonds. -/
def ledger (s : MockState) (paired : Finset DeviceId) : Ledger where
  links token := s.connections.lookup token
  nextToken := s.nextToken
  paired
  values id key := (s.find id).bind fun device => device.gatt.lookup key

theorem ledger_init (devices : List MockDevice) : ledger (.init devices) ∅ = .init devices := rfl

/-- The steps that change the ledger; all of them are commits. -/
def books : MockCall → Bool
  | .openLink _ => true
  | .closeLink _ => true
  | .gattInsert .. => true
  | _ => false

theorem ledger_serve_of_books {c : MockCall} (h : books c = false) (answer : PairingResponse)
    (s : MockState) (paired : Finset DeviceId) :
    ledger (serve c answer s).2 paired = ledger s paired := by
  cases c with
  | checkLink conn =>
    simp only [serve]
    split <;> [skip; split] <;> rfl
  | gattGet peer service characteristic =>
    simp only [serve]
    split <;> [skip; split] <;> rfl
  | gattQueue peer service characteristic =>
    simp only [serve]
    split <;> rfl
  | openLink target => cases h
  | closeLink token => cases h
  | gattInsert peer service characteristic data => cases h
  | _ => rfl

/-- An operation commits when it changes the ledger. -/
theorem commits_of_books {p : Steps op.Result} (h : Program.Path (backend.run op) es p)
    (he : e ∈ es) (hbooks : books e.call = true) : commits op e = true := by
  obtain ⟨c, reply⟩ := e
  -- A step that changes the ledger is one of the operation itself, and its commit.
  rcases (built_run backend op).calls h _ he with hholds | ⟨event, hevent⟩ | hstamp
  · cases c with
    | openLink target => cases op <;> first | rfl | cases hholds
    | closeLink token => cases op <;> first | rfl | cases hholds
    | gattInsert peer service characteristic data => cases op <;> first | rfl | cases hholds
    | _ => cases hbooks
  · cases hevent
    cases hbooks
  · obtain ⟨origin, kind, dt, hcall, -⟩ := hstamp
    cases hcall
    cases hbooks

theorem ledger_openLink (target : DeviceId) (answer : PairingResponse) (s : MockState)
    (paired : Finset DeviceId) : ledger (serve (.openLink target) answer s).2 paired =
      { ledger s paired with
        links := Function.update (ledger s paired).links s.nextToken (some target)
        nextToken := s.nextToken + 1 } := by
  simp only [ledger, Ledger.mk.injEq, true_and]
  refine ⟨?_, rfl, rfl⟩
  funext token
  change (s.connections.insert s.nextToken target).lookup token = _
  by_cases htoken : token = s.nextToken
  · rw [htoken, AList.lookup_insert, Function.update_self]
  · rw [AList.lookup_insert_ne htoken, Function.update_of_ne htoken]

theorem ledger_closeLink (token : UInt64) (answer : PairingResponse) (s : MockState)
    (paired : Finset DeviceId) : ledger (serve (.closeLink token) answer s).2 paired =
      { ledger s paired with links := Function.update (ledger s paired).links token none } := by
  simp only [ledger, Ledger.mk.injEq, true_and]
  refine ⟨?_, rfl, rfl⟩
  funext token'
  change (s.connections.erase token).lookup token' = _
  by_cases htoken : token' = token
  · rw [htoken, AList.lookup_erase, Function.update_self]
  · rw [AList.lookup_erase_ne htoken, Function.update_of_ne htoken]

/-- The entry that is changed is found changed. -/
theorem find?_modify_findIdx_self {β : Type} {p : β → Bool} {g : β → β} (hg : ∀ b, p (g b) = p b)
    (l : List β) : (l.modify (l.findIdx p) g).find? p = (l.find? p).map g := by
  -- On the list, up to the element that is changed.
  induction l with
  | nil => rfl
  | cons b l ih =>
    rw [List.findIdx_cons]
    cases hb : p b with
    | true =>
      rw [cond_true, List.modify_zero_cons, List.find?_cons_of_pos ((hg b).trans hb),
        List.find?_cons_of_pos hb]
      rfl
    | false =>
      rw [cond_false, List.modify_succ_cons, List.find?_cons_of_neg (by simp [hb]),
        List.find?_cons_of_neg (by simp [hb]), ih]

/-- The entries of other keys are found as they were. -/
theorem find?_modify_findIdx_of_disjoint {β : Type} {p q : β → Bool} {g : β → β}
    (hg : ∀ b, q (g b) = q b) (hpq : ∀ b, p b = true → q b = false) (l : List β) :
    (l.modify (l.findIdx p) g).find? q = l.find? q := by
  -- On the list: the element that is changed is not the one that is looked for.
  induction l with
  | nil => rfl
  | cons b l ih =>
    rw [List.findIdx_cons]
    cases hb : p b with
    | true =>
      have hq := hpq b hb
      rw [cond_true, List.modify_zero_cons, List.find?_cons_of_neg (by rw [hg, hq]; simp),
        List.find?_cons_of_neg (by simp [hq])]
    | false =>
      rw [cond_false, List.modify_succ_cons, List.find?_cons, List.find?_cons, ih]

theorem ledger_gattInsert {peer : DeviceId} {device : MockDevice} (h : s.find peer = some device)
    (service characteristic : Uuid) (data : List UInt8) (answer : PairingResponse)
    (paired : Finset DeviceId) :
    ledger (serve (.gattInsert peer service characteristic data) answer s).2 paired =
      { ledger s paired with
        values := Function.update (ledger s paired).values peer
          (Function.update ((ledger s paired).values peer) (service, characteristic)
            (some data)) } := by
  simp only [serve, h]
  simp only [ledger, Ledger.mk.injEq, true_and]
  funext id key
  simp only [MockState.find] at h ⊢
  -- The values of this device change, at this characteristic only, and those of no other device.
  by_cases hid : id = peer
  · subst hid
    rw [find?_modify_findIdx_self (by simp), h, Function.update_self, Option.map_some,
      Option.bind_some]
    dsimp only
    by_cases hkey : key = (service, characteristic)
    · rw [hkey, AList.lookup_insert, Function.update_self]
    · rw [AList.lookup_insert_ne hkey, Function.update_of_ne hkey, Option.bind_some]
  · have hdisjoint (b : MockDevice) (hb : decide (b.info.id = peer) = true) :
        decide (b.info.id = id) = false := by
      rw [of_decide_eq_true hb]
      exact decide_eq_false (Ne.symm hid)
    rw [find?_modify_findIdx_of_disjoint (by simp) hdisjoint, Function.update_of_ne hid]

end MockBackend
end Pax
