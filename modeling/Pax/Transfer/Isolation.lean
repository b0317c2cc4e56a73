import Pax.Framework.Ensures
import Pax.Transport.Mock.Ledger
import Pax.Transport.Mock.Secrecy

/-!
# Uploads do not disturb one another

`upload_file` and `upload_files` make their own connection, push on it, and close it. As long as
nobody closes a link, or pushes on one, that an upload has not opened itself, what an upload comes
to is told by the script of its target alone: it does not matter what else goes on, how often it is
retried, or which other uploads are in progress with the same device (`uploads_isolated`).

The argument is about who holds a link. `holding` is an automaton of what one session does to links:
it holds those that it has opened and not closed, and it works on no others. The tokens are
distinct, so a link that one session holds is closed by no other one, and the mock finds it
(`live_of_holds`).

* `conforms_session` says that every session of uploads conforms to the automaton, by the rules of
  `Program.Conforms`.
* `delivery` and `deliveries` are what an upload of one file and of several come to, by the script
  of the target.
* `OpTold` says so of the operations, and `UploadTold` of the calls of a session.

That tokens are distinct needs the counter not to have come round, hence the bound on the links
opened.
-/

namespace Pax
namespace MockBackend

open Program (Ensures Returns returns_done)

variable {backend : MockBackend} {devices : List MockDevice} {es : List (Exchange mockSteps)}

/-! ### Who holds a link -/

/-- What a session does to links, with those that it holds as the state: opening adds one,
closing takes it away, and only these may be worked on. -/
def holding : Lts (List (UInt64 × DeviceId)) (Exchange mockSteps) where
  next held
    | ⟨.openLink target, token⟩ => some ((token, target) :: held)
    | ⟨.checkLink conn, _⟩ => if (conn.token, conn.peer) ∈ held then some held else none
    | ⟨.closeLink token, _⟩ =>
      if token ∈ held.map Prod.fst then some (held.filter fun link => link.1 ≠ token) else none
    | _ => some held

/-- The calls that work on links: to open, to look up, and to close one. -/
def touchesLink : MockCall → Bool
  | .openLink _ => true
  | .checkLink _ => true
  | .closeLink _ => true
  | _ => false

variable {held held' : List (UInt64 × DeviceId)} {conn : Connection}

theorem next_holding {e : Exchange mockSteps} (h : touchesLink e.call = false)
    (held : List (UInt64 × DeviceId)) : holding.next held e = some held := by
  obtain ⟨c, reply⟩ := e
  cases c <;> first | rfl | cases h

/-- A program that does not work on links leaves them where they are. -/
theorem conforms_of_uses {β : Type} {p : Steps β} (hp : p.Uses fun c => touchesLink c = false) :
    p.Conforms holding (fun _ held' => held' = held) held := by
  induction p with
  | done b => rfl
  | ask c next ih => exact fun reply => ⟨held, next_holding hp.1 held, ih reply (hp.2 reply)⟩

theorem emitting_touchesLink : Emitting fun c => touchesLink c = false where
  stamp _ _ _ := rfl
  onEvent _ := rfl

/-- Most operations do not touch links: only to connect, to disconnect and to push do. -/
theorem uses_untouched {op : MockOp} (hconnect : ∀ target, op ≠ .connect target)
    (hdisconnect : ∀ conn, op ≠ .disconnect conn) (hpush : ∀ conn file, op ≠ .pushFile conn file) :
    (backend.run op).Uses fun c => touchesLink c = false := by
  apply (built_run backend op).uses emitting_touchesLink
  intro c hholds
  cases op with
  | connect target => exact absurd rfl (hconnect target)
  | disconnect conn => exact absurd rfl (hdisconnect conn)
  | pushFile conn file => exact absurd rfl (hpush conn file)
  | _ => cases c <;> first | rfl | cases hholds

/-- A step on links that is allowed, and what comes after it. -/
theorem conforms_call {β : Type} {post : β → List (UInt64 × DeviceId) → Prop} {c : MockCall}
    {f : c.Reply → Steps β}
    (h : ∀ reply, ∃ held', holding.next held ⟨c, reply⟩ = some held' ∧
      (f reply).Conforms holding post held') :
    (Program.call (I := mockSteps) c >>= f).Conforms holding post held := h

/-- Events leave the links where they are. -/
theorem conforms_emit {β : Type} {post : β → List (UInt64 × DeviceId) → Prop}
    {origin : EventOrigin} {kind : TransitEventKind} {dt : Duration} {f : Unit → Steps β}
    (h : (f ()).Conforms holding post held) :
    (emit origin kind dt >>= f).Conforms holding post held := by
  apply Program.conforms_bind.mpr
  refine (conforms_of_uses (uses_emit emitting_touchesLink origin kind dt)).mono ?_
  rintro u held' rfl
  exact h

theorem conforms_connect (target : DeviceId) :
    (backend.connect target).Conforms holding (fun r held' =>
      ∀ conn, r = .ok conn → (conn.token, conn.peer) ∈ held') held := by
  refine conforms_call fun found => ⟨held, rfl, ?_⟩
  cases found with
  | none =>
    intro conn hconn
    cases hconn
  | some device =>
    refine conforms_call fun token => ⟨(token, target) :: held, rfl, conforms_emit ?_⟩
    intro conn hconn
    cases hconn
    exact List.mem_cons_self

theorem conforms_disconnect (hconn : (conn.token, conn.peer) ∈ held) :
    (disconnect conn).Conforms holding (fun _ _ => True) held := by
  refine conforms_call fun removed =>
    ⟨_, if_pos (List.mem_map.mpr ⟨_, hconn, rfl⟩), ?_⟩
  cases removed with
  | false => trivial
  | true => exact conforms_emit trivial

theorem conforms_pushFile (hconn : (conn.token, conn.peer) ∈ held) (file : OutboundFile) :
    (pushFile conn file).Conforms holding (fun _ held' => held' = held) held := by
  refine conforms_call fun checked => ⟨held, if_pos hconn, ?_⟩
  cases checked with
  | error e => rfl
  | ok device =>
    refine conforms_call fun start => ⟨held, rfl, conforms_emit ?_⟩
    apply Program.conforms_bind.mpr
    refine (conforms_of_uses
      (uses_pushChunks emitting_touchesLink device _ _ _ _ _)).mono fun pushed held' hheld => ?_
    subst hheld
    cases pushed with
    | error e => rfl
    | ok counts => exact conforms_call fun finish => ⟨_, rfl, conforms_emit rfl⟩

/-- A transfer that only pushes on a link keeps it. -/
theorem conforms_transfer {β : Type} {transfer : Upload.Links β}
    (h : transfer.Uses (Upload.IsPush conn)) (hconn : (conn.token, conn.peer) ∈ held) :
    (transfer.interpret backend.runLink).Conforms holding (fun _ held' => held' = held) held := by
  -- On the program of the transfer: each of its calls is on the link that it was given.
  induction transfer with
  | done b => rfl
  | ask c next ih =>
    apply Program.conforms_bind.mpr
    cases c with
    | pushFile conn' file =>
      obtain rfl : conn' = conn := h.1
      refine (conforms_pushFile hconn file).mono fun r held' hheld => ?_
      subst hheld
      exact ih r (h.2 r)
    | connect target => exact h.1.elim
    | disconnect conn' => exact h.1.elim

theorem conforms_upload {β : Type} (target : DeviceId) (options : UploadOptions)
    {transfer : Connection → Upload.Links (Except TransportError β)}
    (h : ∀ conn, (transfer conn).Uses (Upload.IsPush conn)) :
    ((Upload.withConnection target fun conn =>
      Upload.thenDisconnect conn options (transfer conn)).interpret backend.runLink).Conforms
        holding (fun _ _ => True) held := by
  apply Program.conforms_bind.mpr
  refine (conforms_connect target).mono fun connected held' hconnected => ?_
  cases connected with
  | error e => trivial
  | ok conn =>
    have hconn := hconnected conn rfl
    show Program.Conforms holding _
      ((Upload.thenDisconnect conn options (transfer conn)).interpret backend.runLink) held'
    rw [Upload.thenDisconnect, Program.interpret_bind]
    apply Program.conforms_bind.mpr
    refine (conforms_transfer (h conn) hconn).mono fun r held'' hheld => ?_
    subst hheld
    split_ifs
    · apply Program.conforms_bind.mpr
      exact (conforms_disconnect hconn).mono fun _ _ _ => trivial
    · trivial

/-! ### Sessions -/

/-- The call leaves the links of others alone: it does not close a connection that it is given, or
push on it. -/
def KeepsLinks {F : Type} : SessionCall F → Prop
  | .operation (.disconnect _) => False
  | .operation (.pushFile _ _) => False
  | .pushFile _ _ => False
  | _ => True

theorem untouched_pair (target : DeviceId) :
    (backend.pairingOps.pair target).Uses fun c => touchesLink c = false :=
  @uses_untouched backend (.pair target) (by rintro _ ⟨⟩) (by rintro _ ⟨⟩) (by rintro _ _ ⟨⟩)

theorem untouched_applySpoof (spoof : Option BdAddr) :
    (Pairing.applySpoof backend.pairingOps spoof).Uses fun c => touchesLink c = false := by
  refine Pairing.compositional_applySpoof (Program.compositional_uses _) (fun addr => ?_) spoof
  exact trivial

theorem untouched_pairDevice (target : DeviceId) (options : PairOptions) :
    (Pairing.pairDevice backend.pairingOps target options).Uses fun c => touchesLink c = false := by
  refine (untouched_applySpoof _).bind fun spoofed => ?_
  cases spoofed with
  | error e => trivial
  | ok u =>
    have hP := Program.compositional_uses (I := mockSteps) fun c => touchesLink c = false
    exact Pairing.compositional_pairFrom hP (untouched_pair target) _ _ _

theorem untouched_pairDevices (picks : ℕ → List ℕ) (targets : List DeviceId)
    (options : BatchPairOptions) :
    (Pairing.pairDevices backend.pairingOps picks targets options).Uses fun c =>
      touchesLink c = false := by
  refine (untouched_applySpoof _).bind fun spoofed => ?_
  cases spoofed with
  | error e => trivial
  | ok u =>
    exact Pairing.compositional_batch (Program.compositional_uses _) untouched_pair picks _ _ _ _ _

variable {F : Type} {files : F → OutboundFile}

theorem conforms_runCall {c : SessionCall F} (h : KeepsLinks c)
    (held : List (UInt64 × DeviceId)) :
    (backend.runCall files c).Conforms holding (fun _ _ => True) held := by
  -- A call that makes no step on the table of links holds what it held.
  have huntouched {β : Type} {p : Steps β} (hp : p.Uses fun c => touchesLink c = false) :
      p.Conforms holding (fun _ _ => True) held :=
    (conforms_of_uses hp).mono fun _ _ _ => trivial
  have hother (op : MockOp) (hconnect : ∀ target, op ≠ .connect target)
      (hdisconnect : ∀ conn, op ≠ .disconnect conn)
      (hpush : ∀ conn file, op ≠ .pushFile conn file) :
      (backend.runCall files (.operation op)).Conforms holding (fun _ _ => True) held :=
    huntouched (uses_untouched hconnect hdisconnect hpush)
  cases c with
  | operation op =>
    cases op with
    | connect target => exact (conforms_connect target).mono fun _ _ _ => trivial
    | disconnect conn => exact h.elim
    | pushFile conn file => exact h.elim
    | _ => exact hother _ (by rintro _ ⟨⟩) (by rintro _ ⟨⟩) (by rintro _ _ ⟨⟩)
  | pushFile conn file => exact h.elim
  | pairDevice target options => exact huntouched (untouched_pairDevice target options)
  | pairDevices picks targets options => exact huntouched (untouched_pairDevices picks _ options)
  | uploadFile target file options =>
    exact conforms_upload target options fun conn => Upload.uses_pushFrom conn _ _ _
  | uploadFiles target names options =>
    exact conforms_upload target options fun conn => Upload.uses_pushAll conn _ _ _

/-- A session holds links throughout. -/
theorem conforms_session {β : Type} {session : Program (sessionCalls F) β}
    (h : session.Uses KeepsLinks) (held : List (UInt64 × DeviceId)) :
    (session.interpret (backend.runCall files)).Conforms holding (fun _ _ => True) held := by
  induction session generalizing held with
  | done b => trivial
  | ask c next ih =>
    apply Program.conforms_bind.mpr
    exact (conforms_runCall h.1 held).mono fun r held' _ => ih r (h.2 r) held'

/-! ### A link that is held is found -/

/-- What is so of a session that holds these links after these steps. -/
structure Holds (es : List (Exchange mockSteps)) (held : List (UInt64 × DeviceId)) : Prop where
  opened : held ⊆ opened es
  closed : closed es ⊆ (MockBackend.opened es).map Prod.fst
  /-- What is held is not closed again, as long as the tokens are distinct. -/
  apart : ((MockBackend.opened es).map Prod.fst).Nodup →
    ∀ link ∈ held, link.1 ∉ MockBackend.closed es

namespace Holds

theorem nil : Holds [] [] :=
  ⟨List.Subset.refl _, List.Subset.refl _, fun _ _ h => absurd h List.not_mem_nil⟩

/-- A step that opens nothing, and closes nothing, keeps what is held, or less. -/
theorem other (h : Holds es held) {e : Exchange mockSteps} (hopened : MockBackend.opened [e] = [])
    (hclosed : MockBackend.closed [e] = []) (hsub : held' ⊆ held) : Holds (es ++ [e]) held' := by
  constructor <;> rw [opened_append, hopened, List.append_nil]
  · exact fun link hlink => h.opened (hsub hlink)
  · rw [closed_append, hclosed, List.append_nil]
    exact h.closed
  · rw [closed_append, hclosed, List.append_nil]
    exact fun hnodup link hlink => h.apart hnodup link (hsub hlink)

theorem openLink (h : Holds es held) (target : DeviceId) (token : UInt64) :
    Holds (es ++ [⟨.openLink target, token⟩]) ((token, target) :: held) := by
  have hopened : MockBackend.opened (es ++ [⟨.openLink target, token⟩])
      = MockBackend.opened es ++ [(token, target)] := opened_append es _
  have hclosed : MockBackend.closed (es ++ [⟨.openLink target, token⟩]) = MockBackend.closed es :=
    (closed_append es _).trans (List.append_nil _)
  constructor <;> rw [hopened]
  · intro link hlink
    rcases List.mem_cons.mp hlink with rfl | hlink
    · exact List.mem_append_right _ (List.mem_singleton.mpr rfl)
    · exact List.mem_append_left _ (h.opened hlink)
  · rw [hclosed, List.map_append]
    exact fun token' h' => List.mem_append_left _ (h.closed h')
  · rw [hclosed, List.map_append]
    intro hnodup link hlink
    obtain ⟨hbefore, -, hnew⟩ := List.nodup_append.mp hnodup
    rcases List.mem_cons.mp hlink with rfl | hlink
    · intro hmem
      exact hnew _ (h.closed hmem) _ (List.mem_singleton.mpr rfl) rfl
    · exact h.apart hbefore link hlink

theorem closeLink (h : Holds es held) {token : UInt64} (htoken : token ∈ held.map Prod.fst) :
    Holds (es ++ [⟨.closeLink token, true⟩]) (held.filter fun link => link.1 ≠ token) := by
  have hopened : MockBackend.opened (es ++ [⟨.closeLink token, true⟩]) = MockBackend.opened es :=
    (opened_append es _).trans (List.append_nil _)
  have hclosed : MockBackend.closed (es ++ [⟨.closeLink token, true⟩])
      = MockBackend.closed es ++ [token] := closed_append es _
  constructor <;> rw [hopened]
  · exact fun link hlink => h.opened (List.mem_of_mem_filter hlink)
  · rw [hclosed]
    intro token' htoken'
    rcases List.mem_append.mp htoken' with hbefore | hlast
    · exact h.closed hbefore
    · rw [List.mem_singleton.mp hlast]
      exact List.map_subset Prod.fst h.opened htoken
  · rw [hclosed]
    intro hnodup link hlink hmem
    obtain ⟨hheld, hne⟩ := List.mem_filter.mp hlink
    rcases List.mem_append.mp hmem with hbefore | hlast
    · exact h.apart hnodup link hheld hbefore
    · exact of_decide_eq_true hne (List.mem_singleton.mp hlast)

theorem step (h : Holds es held) {e : Exchange mockSteps}
    (hnext : holding.next held e = some held') : Holds (es ++ [e]) held' := by
  obtain ⟨c, reply⟩ := e
  cases c with
  | openLink target =>
    obtain rfl := Option.some.inj hnext
    exact h.openLink target reply
  | closeLink token =>
    obtain ⟨htoken, hheld⟩ := Option.ite_none_right_eq_some.mp hnext
    obtain rfl := Option.some.inj hheld
    cases reply with
    | false => exact h.other rfl rfl fun link => List.mem_of_mem_filter
    | true => exact h.closeLink htoken
  | checkLink conn =>
    obtain ⟨-, hheld⟩ := Option.ite_none_right_eq_some.mp hnext
    obtain rfl := Option.some.inj hheld
    exact h.other rfl rfl fun link => id
  | _ =>
    obtain rfl := Option.some.inj hnext
    exact h.other rfl rfl fun link => id

end Holds

theorem holds_of_run (hrun : holding.Run [] es held) : Holds es held :=
  hrun.history .nil fun _ _ _ _ h hnext => h.step hnext

/-- The answers to an upload are as scripted: its target is found if it is one of the devices, and
its link is found. -/
def LinkTold (devices : List MockDevice) : Exchange mockSteps → Prop
  | ⟨.lookup id, found⟩ => Option.map script found = (scripted devices id).map script
  | ⟨.checkLink conn, checked⟩ =>
    match scripted devices conn.peer with
    | none => checked = .error (.deviceNotFound conn.peer)
    | some device => ∃ gatt, checked = .ok { device with gatt }
  | _ => True

section Run

variable {ι : Type} [DecidableEq ι] {α : ι → Type} {task : (i : ι) → Steps (α i)}
  {w : Pool mockSteps MockState α} {i j : ι}

theorem opened_own_sublist (trace : List (ι × Exchange mockSteps)) (i : ι) :
    (opened (own trace i)).Sublist (opened (trace.map Prod.snd)) :=
  (List.filter_sublist.map Prod.snd).filterMap _

/-- The token that a step hands out, in a trace of all sessions. -/
theorem mem_opened_own {trace : List (ι × Exchange mockSteps)} {token : UInt64} {peer : DeviceId} :
    (token, peer) ∈ opened (own trace i) ↔ (i, ⟨.openLink peer, token⟩) ∈ trace := by
  rw [opened, List.mem_filterMap]
  constructor
  · rintro ⟨⟨c, reply⟩, hmem, hsome⟩
    cases c with
    | openLink target =>
      cases hsome
      exact mem_own.mp hmem
    | _ => cases hsome
  · intro hmem
    exact ⟨_, mem_own.mpr hmem, rfl⟩

/-- A token is handed out to one session only. -/
theorem opener_unique {trace : List (ι × Exchange mockSteps)} {token : UInt64}
    {peer peer' : DeviceId} (hnodup : ((opened (trace.map Prod.snd)).map Prod.fst).Nodup)
    (hi : (token, peer) ∈ opened (own trace i)) (hj : (token, peer') ∈ opened (own trace j)) :
    i = j := by
  rw [opened, List.filterMap_map, List.map_filterMap] at hnodup
  exact congrArg Prod.fst
    (eq_of_nodup_filterMap hnodup (mem_opened_own.mp hi) (mem_opened_own.mp hj) rfl rfl)

theorem exists_closed_own {trace : List (ι × Exchange mockSteps)} {token : UInt64}
    (h : token ∈ closed (trace.map Prod.snd)) : ∃ j, token ∈ closed (own trace j) := by
  obtain ⟨e, he, hsome⟩ := List.mem_filterMap.mp h
  obtain ⟨⟨j, e⟩, hmem, rfl⟩ := List.mem_map.mp he
  exact ⟨j, List.mem_filterMap.mpr ⟨e, mem_own.mpr hmem, hsome⟩⟩

/-- **A link that a session holds is live.** -/
theorem live_of_holds {trace : List (ι × Exchange mockSteps)} {s : MockState}
    (hlinked : Linked (trace.map Prod.snd) s)
    (hcount : (opened (trace.map Prod.snd)).length ≤ 2 ^ 64)
    (hholds : ∀ j, ∃ held, Holds (own trace j) held) (hi : Holds (own trace i) held)
    (hconn : (conn.token, conn.peer) ∈ held) :
    s.connections.lookup conn.token = some conn.peer := by
  have hnodup := hlinked.nodup hcount
  have hnodupOwn (j : ι) : ((opened (own trace j)).map Prod.fst).Nodup :=
    hnodup.sublist ((opened_own_sublist trace j).map Prod.fst)
  rw [hlinked.table hcount]
  refine ⟨(opened_own_sublist trace i).subset (hi.opened hconn), fun hclosed => ?_⟩
  -- whoever has closed it has opened it, and so is the one who holds it
  obtain ⟨j, hclosed⟩ := exists_closed_own hclosed
  obtain ⟨held', hj⟩ := hholds j
  obtain ⟨⟨token, peer⟩, hopened, rfl⟩ := List.mem_map.mp (hj.closed hclosed)
  obtain rfl := opener_unique hnodup (hi.opened hconn) hopened
  exact hi.apart (hnodupOwn i) _ hconn hclosed

theorem linkTold_of_reached (hreached : Pool.Reached serve (.init devices) task w)
    (hconforms : ∀ i, (task i).Conforms holding (fun _ _ => True) [])
    (hcount : (opened (w.trace.map Prod.snd)).length ≤ 2 ^ 64) :
    ∀ e ∈ own w.trace i, LinkTold devices e := by
  intro e he
  obtain ⟨pre, post, htrace⟩ := List.append_of_mem (mem_own.mp he)
  obtain ⟨s, answer, hserved, hreply⟩ := hreached.at_entry htrace
  -- The device that is found is the scripted one, whatever other sessions have written to it.
  have hscripted := scripted_of_served hserved
  have hrun (j : ι) : ∃ held, holding.Run [] (own pre j) held := by
    obtain ⟨held', hrun, -⟩ := (hconforms j).path (hreached.path j)
    rw [htrace, own_append] at hrun
    obtain ⟨held, hfirst, -⟩ := Lts.run_append.mp hrun
    exact ⟨held, hfirst⟩
  obtain ⟨c, reply⟩ := e
  cases c with
  | lookup id =>
    obtain rfl : s.find id = reply := hreply
    exact hscripted.find id
  | checkLink conn =>
    have hcountPre : (opened (pre.map Prod.snd)).length ≤ 2 ^ 64 := by
      refine le_trans ?_ hcount
      rw [htrace, List.map_append, opened_append, List.length_append]
      exact Nat.le_add_right _ _
    -- the session holds the link on which it works
    obtain ⟨held', hrunAll, -⟩ := (hconforms i).path (hreached.path i)
    have hown : own w.trace i = own pre i ++ ⟨.checkLink conn, reply⟩ :: own post i := by
      rw [htrace, own_append]
      congr 1
      simp [own]
    rw [hown] at hrunAll
    obtain ⟨held, hfirst, hsecond⟩ := Lts.run_append.mp hrunAll
    obtain ⟨held'', hnext, -⟩ := Lts.run_cons.mp hsecond
    obtain ⟨hconn, -⟩ := Option.ite_none_right_eq_some.mp hnext
    -- A link that the session holds is in the table, as nobody else closes it.
    have hlive := live_of_holds (linked_of_served hserved) hcountPre
      (fun j => (hrun j).imp fun held => holds_of_run) (holds_of_run hfirst) hconn
    simp only [serve, hlive] at hreply
    cases hfind : s.find conn.peer with
    | none =>
      rw [hfind] at hreply
      simp only [LinkTold, hscripted.eq_none hfind]
      exact hreply.symm
    | some device =>
      rw [hfind] at hreply
      obtain ⟨device₀, gatt, hdevice, rfl⟩ := hscripted.eq_some hfind
      simp only [LinkTold, hdevice]
      exact ⟨gatt, hreply.symm⟩
  | _ => trivial

end Run

/-! ### What comes of an upload -/

/-- What a file comes to that is sent to the device, as the script has it. -/
def delivery (devices : List MockDevice) (peer : DeviceId) (file : OutboundFile) :
    Except TransportError (String × UInt64 × UInt64) :=
  match scripted devices peer with
  | none => .error (.deviceNotFound peer)
  | some device =>
    (takes device.transferFailureAfter
      (sliceChunks (max device.chunkSize.toNat 1) file.bytes) 0 0).map (Prod.mk file.name)

/-- What an upload of several files comes to: that of the files, up to the first that fails. -/
def deliveries (devices : List MockDevice) (peer : DeviceId) (files : List OutboundFile) :
    Except TransportError (List (String × UInt64 × UInt64)) :=
  match scripted devices peer with
  | none => .error (.deviceNotFound peer)
  | some _ => files.mapM (delivery devices peer)

/-- What the operations of an upload come to, by the scripts of the devices: the connection is to
the target, and the push is a delivery to the peer. -/
def OpTold (devices : List MockDevice) : Exchange linkOps → Prop
  | ⟨.connect target, r⟩ =>
    match scripted devices target with
    | none => r = .error (.deviceNotFound target)
    | some _ => ∃ conn : Connection, r = .ok conn ∧ conn.peer = target
  | ⟨.pushFile conn file, r⟩ => Except.map counted r = delivery devices conn.peer file
  | ⟨.disconnect _, _⟩ => True

theorem ensures_connect (target : DeviceId) :
    (backend.connect target).Ensures (LinkTold devices) fun _ r =>
      OpTold devices ⟨.connect target, r⟩ := by
  intro es r h hok
  obtain ⟨rfl, rfl⟩ | ⟨device, token, dt, event, rfl, rfl⟩ := returns_connect h
  · have hfound : (none : Option MockDevice).map script = (scripted devices target).map script :=
      hok _ List.mem_cons_self
    simp only [OpTold, Option.map_eq_none_iff.mp hfound.symm]
    rfl
  · have hfound : (some device).map script = (scripted devices target).map script :=
      hok _ List.mem_cons_self
    obtain ⟨device₀, hscripted, -⟩ := Option.map_eq_some_iff.mp hfound.symm
    simp only [OpTold, hscripted]
    exact ⟨_, rfl, rfl⟩

theorem ensures_pushFile (conn : Connection) (file : OutboundFile) :
    (pushFile conn file).Ensures (LinkTold devices) fun _ r =>
      OpTold devices ⟨.pushFile conn file, r⟩ := by
  intro es r h hok
  obtain ⟨checked, es', rfl, hcounted⟩ := counted_of_returns h
  have htold : LinkTold devices ⟨.checkLink conn, checked⟩ := hok _ List.mem_cons_self
  show r.map counted = delivery devices conn.peer file
  rw [hcounted, delivery]
  cases hscripted : scripted devices conn.peer with
  | none =>
    simp only [LinkTold, hscripted] at htold
    subst htold
    rfl
  | some device =>
    simp only [LinkTold, hscripted] at htold
    obtain ⟨gatt, rfl⟩ := htold
    rfl

theorem ensures_runLink (c : LinkOp) :
    (backend.runLink c).Ensures (LinkTold devices) fun _ r => OpTold devices ⟨c, r⟩ := by
  cases c with
  | connect target => exact ensures_connect target
  | pushFile conn file => exact ensures_pushFile conn file
  | disconnect conn => exact fun _ _ _ _ => trivial

section Links

variable {conn : Connection} {β : Type}

/-- A push comes to what the script says, however often it is tried again. -/
theorem ensures_pushFrom (conn : Connection) (file : OutboundFile) (left : ℕ)
    (last : TransportError) :
    (Upload.pushFrom conn file (left + 1) last).Ensures (OpTold devices) fun _ r =>
      r.map counted = delivery devices conn.peer file := by
  -- On the pushes that are left: each comes out as the script of the peer has it, and so does the
  -- last one.
  induction left generalizing last with
  | zero =>
    refine .ask fun r hr => ?_
    cases r with
    | ok receipt => exact .done hr
    | error e =>
      show Program.Ensures _ (if isFinalPush e then .done (.error e)
        else Upload.pushFrom conn file 0 e) _
      split_ifs <;> exact .done hr
  | succ left ih =>
    refine .ask fun r hr => ?_
    cases r with
    | ok receipt => exact .done hr
    | error e =>
      show Program.Ensures _ (if isFinalPush e then .done (.error e)
        else Upload.pushFrom conn file (left + 1) e) _
      split_ifs
      · exact .done hr
      · exact ih e

theorem ensures_pushWithRetries (conn : Connection) (file : OutboundFile) (retries : UInt32) :
    (Upload.pushWithRetries conn file retries).Ensures (OpTold devices) fun _ r =>
      r.map counted = delivery devices conn.peer file := by
  obtain ⟨left, hleft⟩ := Nat.exists_eq_add_of_le' (one_le_saturatingSucc retries)
  rw [Upload.pushWithRetries, hleft]
  exact ensures_pushFrom conn file left _

theorem ensures_pushAll (conn : Connection) (retries : UInt32) (files : List OutboundFile)
    (receipts : List TransferReceipt) :
    (Upload.pushAll conn retries files receipts).Ensures (OpTold devices) fun _ r =>
      r.map (List.map counted) = (files.mapM (delivery devices conn.peer)).map
        (receipts.map counted ++ ·) := by
  -- On the files: each is pushed to its end before the next.
  induction files generalizing receipts with
  | nil =>
    refine .done ?_
    show Except.ok (receipts.map counted) = Except.ok (receipts.map counted ++ [])
    rw [List.append_nil]
  | cons file files ih =>
    refine (ensures_pushWithRetries conn file retries).bind fun es r hr => ?_
    rw [List.mapM_cons, ← hr]
    cases r with
    | error e => exact .done rfl
    | ok receipt =>
      refine (ih (receipts ++ [receipt])).mono fun es' r hr => ?_
      rw [hr]
      show _ = Except.map _ ((files.mapM (delivery devices conn.peer)).map (counted receipt :: ·))
      cases files.mapM (delivery devices conn.peer) with
      | error e => rfl
      | ok rest => simp [Except.map]

/-- Closing the link does not change what comes of the transfer. -/
theorem ensures_thenDisconnect {post : Except TransportError β → Prop} (options : UploadOptions)
    {transfer : Upload.Links (Except TransportError β)}
    (h : transfer.Ensures (OpTold devices) fun _ r => post r) :
    (Upload.thenDisconnect conn options transfer).Ensures (OpTold devices) fun _ r => post r := by
  refine h.bind fun es r hr => ?_
  split_ifs
  · exact .ask fun _ _ => .done hr
  · exact .done hr

theorem ensures_withConnection {post : Except TransportError β → Prop} {target : DeviceId}
    {transfer : Connection → Upload.Links (Except TransportError β)}
    (hnone : scripted devices target = none → post (.error (.deviceNotFound target)))
    (hsome : ∀ conn : Connection, conn.peer = target → scripted devices target ≠ none →
      (transfer conn).Ensures (OpTold devices) fun _ r => post r) :
    (Upload.withConnection target transfer).Ensures (OpTold devices) fun _ r => post r := by
  refine .ask fun connected hconnected => ?_
  cases hscripted : scripted devices target with
  | none =>
    simp only [OpTold, hscripted] at hconnected
    subst hconnected
    exact .done (hnone hscripted)
  | some device =>
    simp only [OpTold, hscripted] at hconnected
    obtain ⟨conn, rfl, hpeer⟩ := hconnected
    exact hsome conn hpeer (by rw [hscripted]; exact Option.some_ne_none device)

theorem ensures_uploadFile (target : DeviceId) (file : OutboundFile) (options : UploadOptions) :
    (Upload.uploadFile target file options).Ensures (OpTold devices) fun _ r =>
      r.map counted = delivery devices target file := by
  refine ensures_withConnection (fun hnone => ?_) fun conn hpeer _ => ?_
  · simp only [delivery, hnone]
    rfl
  · rw [← hpeer]
    exact ensures_thenDisconnect options (ensures_pushWithRetries conn file _)

theorem ensures_uploadFiles (target : DeviceId) (files : List OutboundFile)
    (options : UploadOptions) :
    (Upload.uploadFiles target files options).Ensures (OpTold devices) fun _ r =>
      r.map (List.map counted) = deliveries devices target files := by
  refine ensures_withConnection (fun hnone => ?_) fun conn hpeer hsome => ?_
  · simp only [deliveries, hnone]
    rfl
  · obtain ⟨device, hscripted⟩ := Option.ne_none_iff_exists'.mp hsome
    refine ensures_thenDisconnect options ((ensures_pushAll conn _ files []).mono fun _ r hr => ?_)
    subst hpeer
    simp only [deliveries, hscripted]
    rw [hr]
    cases files.mapM (delivery devices conn.peer) <;> rfl

end Links

/-! ### Uploads among other sessions -/

variable (files devices) in
/-- The reply to a call of a session, if it is an upload. -/
def UploadTold : (c : SessionCall F) → c.Reply → Prop
  | .uploadFile target file _, r => Except.map counted r = delivery devices target (files file)
  | .uploadFiles target names _, r =>
    Except.map (List.map counted) r = deliveries devices target (names.map files)
  | _, _ => True

theorem ensures_uploads (c : SessionCall F) :
    (backend.runCall files c).Ensures (LinkTold devices) fun _ r =>
      UploadTold devices files c r := by
  have hinterpret {β : Type} {post : β → Prop} {p : Upload.Links β}
      (h : p.Ensures (OpTold devices) fun _ r => post r) :
      (p.interpret backend.runLink).Ensures (LinkTold devices) fun _ r => post r := by
    refine (Ensures.interpreted ensures_runLink p).mono ?_
    rintro es r ⟨runs, hreturns, -, hruns⟩
    refine h _ r hreturns fun e he => ?_
    obtain ⟨run, hrun, rfl⟩ := List.mem_map.mp he
    exact hruns run hrun
  cases c with
  | uploadFile target file options => exact hinterpret (ensures_uploadFile target _ options)
  | uploadFiles target names options => exact hinterpret (ensures_uploadFiles target _ options)
  | _ => exact fun _ _ _ _ => trivial

section Sessions

variable {ι : Type} [DecidableEq ι] {α : ι → Type}
  {sessions : (i : ι) → Program (sessionCalls F) (α i)} {steps : List (ι × PairingResponse)}
  {w : Pool mockSteps MockState α}

/-- **Uploads do not disturb one another.** Take any sessions on a mock, interleaved in any way, of
which none closes a connection that it is given, or pushes on one. As long as the tokens last, each
upload comes to what the script of its target tells.

`made` are the calls of a session that has returned, with the replies that its program went on with
to its end. Of a session that is still in progress nothing is said, and `made` is empty for it. -/
theorem uploads_isolated
    (hrun : (Pool.system serve).Run (backend.startSessions files devices sessions) steps w)
    (hsessions : ∀ i, (sessions i).Uses KeepsLinks)
    (hcount : (opened (w.trace.map Prod.snd)).length ≤ 2 ^ 64) :
    ∃ made : ι → List (Exchange (sessionCalls F)),
      (∀ i a, w.task i = .done a → Returns (sessions i) (made i) a) ∧
      (∀ i, (∀ a, w.task i ≠ .done a) → made i = []) ∧
      ∀ i, ∀ e ∈ made i, UploadTold devices files e.call e.reply := by
  have hreached := Pool.reached_of_run hrun
  have htold (i : ι) : ∀ e ∈ own w.trace i, LinkTold devices e :=
    linkTold_of_reached hreached (fun i => conforms_session (hsessions i) []) hcount
  have hsession (i : ι) : ∃ cs : List (Exchange (sessionCalls F)),
      (∀ a, w.task i = .done a → Returns (sessions i) cs a) ∧
      ((∀ a, w.task i ≠ .done a) → cs = []) ∧
      ∀ e ∈ cs, UploadTold devices files e.call e.reply := by
    -- A session that has returned has made its calls; of any other nothing is said.
    by_cases hdone : ∃ a, w.task i = .done a
    · obtain ⟨a, hdone⟩ := hdone
      obtain ⟨runs, hreturns, -, hruns⟩ := hreached.ensures
        (Ensures.interpreted ensures_uploads (sessions i)) (htold i) hdone
      refine ⟨runs.map Prod.fst, ?_, fun h => absurd hdone (h a), ?_⟩
      · intro a' hdone'
        cases hdone.symm.trans hdone'
        exact hreturns
      · intro e he
        obtain ⟨run, hrun, rfl⟩ := List.mem_map.mp he
        exact hruns run hrun
    · have hnot : ∀ a, w.task i ≠ .done a := fun a h => hdone ⟨a, h⟩
      exact ⟨[], fun a h => absurd h (hnot a), fun _ => rfl, fun e he => absurd he List.not_mem_nil⟩
  choose made hreturns hnone hmade using hsession
  exact ⟨made, hreturns, hnone, hmade⟩

end Sessions

/-- A session that sends the phone its file, twice at most. -/
def sendNotes (_ : Bool) : Program (sessionCalls Bool) (Except TransportError TransferReceipt) :=
  .call (I := sessionCalls Bool)
    (.uploadFile phone.info.id true { retries := 1, disconnectAfter := true })

/-- The steps of two uploads, in turn. -/
def inTurns : List (Bool × PairingResponse) :=
  (List.range 18).flatMap fun _ => [(true, .confirm true), (false, .confirm true)]

/-- Two uploads to the phone at once, step by step in turn: both come to what the script says. -/
theorem uploads_isolated_both : ∃ w, ∃ made : Bool → List (Exchange (sessionCalls Bool)),
    (Pool.system serve).Run
        (quietBackend.startSessions (fun _ => notes [1, 2, 3] ()) [phone] sendNotes) inTurns w ∧
      (∀ i, ∃ r, w.task i = .done r ∧ Returns (sendNotes i) (made i) r) ∧
      (∀ i, ∀ e ∈ made i,
        UploadTold [phone] (fun _ => notes [1, 2, 3] ()) e.call e.reply) := by
  let p (w : Pool mockSteps MockState fun _ : Bool => Except TransportError TransferReceipt) :
      Bool := (w.task true).value?.isSome && (w.task false).value?.isSome &&
    decide ((opened (w.trace.map Prod.snd)).length ≤ 2)
  have hcomputed : ((Pool.system serve).exec
      (quietBackend.startSessions (fun _ => notes [1, 2, 3] ()) [phone] sendNotes)
      inTurns).any p = true := by decide +kernel
  obtain ⟨w, hrun, hp⟩ := Lts.exists_run_of_any hcomputed
  obtain ⟨hboth, hcount⟩ := Bool.and_eq_true_iff.mp hp
  obtain ⟨htrue, hfalse⟩ := Bool.and_eq_true_iff.mp hboth
  obtain ⟨made, hreturns, -, hmade⟩ := uploads_isolated hrun
    (fun _ => ⟨trivial, fun _ => trivial⟩) (le_trans (of_decide_eq_true hcount) (by norm_num))
  refine ⟨w, made, hrun, fun i => ?_, hmade⟩
  have hdone : (w.task i).value?.isSome := by
    cases i
    · exact hfalse
    · exact htrue
  obtain ⟨r, hr⟩ := Option.isSome_iff_exists.mp hdone
  exact ⟨r, Program.value?_eq_some.mp hr, hreturns i r (Program.value?_eq_some.mp hr)⟩

end MockBackend
end Pax
