import Pax.Framework.Chunking
import Pax.Transport.Mock.State

/-!
# The operations of the mock backend

`MockBackend` of `pax-transport/src/mock.rs`, each operation as a program over the steps of
`Pax.Transport.Mock.State`. `pair` and `accept_pairings` do the same with a device up to what they
make of the outcome, which is `pairDevice` here. Any number of operations on one backend are a pool
of such programs, interleaved step by step (`MockBackend.start`). The operations that only touch the
adapter's address and power share nothing with these, and are left out.

`Built` says what every operation is made of: whole events of the kinds that it emits, and steps
that are its own (`built_run`). What depends on no more than this, as that every event which is
stamped is handed over, or that no operation but `connect` hands a token out, is proved from it and
not operation by operation.
-/

namespace Pax

/-- The pieces of a slice, each of at most `size` elements; an empty slice has none. -/
def sliceChunks (size : ℕ) (data : List UInt8) : List (List UInt8) :=
  match data with
  | [] => []
  | _ => Chunking.chunks size size data

namespace MockBackend

open Program (call)

/-- A program over the steps of the mock. -/
abbrev Steps (α : Type) := Program mockSteps α

/-- The virtual time that most events take: a millisecond. -/
def step : Duration := .fromMillis 1

/-- Stamp an event, and hand it to the observer, the lock being released in between. -/
def emit (origin : EventOrigin) (kind : TransitEventKind) (dt : Duration) : Steps Unit := do
  let event ← call (I := mockSteps) (.stamp origin kind dt)
  call (I := mockSteps) (.onEvent event)

def now : Steps Timestamp := call (I := mockSteps) .now

def lookup (id : DeviceId) : Steps (Option MockDevice) := call (I := mockSteps) (.lookup id)

variable (backend : MockBackend)

/-- The origin of the events that have no peer. -/
def adapterOrigin : EventOrigin :=
  { local' := backend.controller, peer := default, spec := backend.spec
    standards := .bredrDefault }

/-! ### Discovery -/

/-- The device can be reached over the transport that is asked for, if one is. -/
def overTransport (filter : DiscoveryFilter) (device : MockDevice) : Bool :=
  match filter.transport with
  | none => true
  | some t => device.spec.transport = t || device.spec.transport = .dual || t = .dual

/-- The loop over the devices, with those found so far. -/
def discoverFrom (filter : DiscoveryFilter) :
    List MockDevice → (out : List DeviceInfo) → Steps (List DeviceInfo)
  | [], out => return out
  | device :: devices, out =>
    if ¬ overTransport filter device then discoverFrom filter devices out
    else if ¬ filter.accepts backend.toLowercase device.info then discoverFrom filter devices out
    -- the limit is checked once a further device has been accepted
    else if filter.limit.any fun limit => limit ≤ out.length then return out
    else do
      emit (device.origin backend.controller) (.deviceDiscovered device.info.rssi) step
      discoverFrom filter devices (out ++ [device.info])

def discover (filter : DiscoveryFilter) : Steps (Except TransportError (List DeviceInfo)) := do
  emit backend.adapterOrigin .discoveryStarted step
  let devices ← call (I := mockSteps) .snapshot
  let out ← backend.discoverFrom filter devices []
  return .ok out

/-! ### Pairing -/

def declined : String := "declined by pairing agent"

/-- Pair with a device; `target` is entered if it succeeds. -/
def pairDevice (device : MockDevice) (target : DeviceId) : Steps (Except TransportError Unit) := do
  let origin := device.origin backend.controller
  emit origin (.pairingStarted device.pairingMethod) step
  let prompt := requestFor device.pairingMethod
  let response : PairingResponse ← call (I := mockSteps) (.respond device prompt)
  if response.IsRefusal then
    emit origin (.pairingFailed declined) step
    return .error (.pairingRejected declined)
  else
    match device.pairingFailure with
    | some reason =>
      emit origin (.pairingFailed reason) step
      return .error (.pairingFailed reason)
    | none =>
      -- whatever else the agent answered, the device is bonded
      call (I := mockSteps) (.insertPaired target)
      emit origin .pairingCompleted step
      return .ok ()

def pair (target : DeviceId) : Steps (Except TransportError PairingOutcome) := do
  match ← lookup target with
  | none => return .error (.deviceNotFound target)
  | some device =>
    match ← backend.pairDevice device target with
    | .error e => return .error e
    | .ok () => return .ok (.ofBond device.pairingMethod)

/-- The loop over the incoming devices, with those bonded so far. -/
def acceptFrom : List MockDevice → (bonded : List DeviceId) → Steps (List DeviceId)
  | [], bonded => return bonded
  | device :: devices, bonded => do
    match ← backend.pairDevice device device.info.id with
    | .error _ => acceptFrom devices bonded
    | .ok () => acceptFrom devices (bonded ++ [device.info.id])

/-- The incoming devices that are tried, of which there are at most as many as the cap says. -/
def tried (opts : InboundPairing) : List MockDevice :=
  match opts.maxDevices with
  | none => backend.incoming
  | some limit => backend.incoming.take limit

def acceptPairings (opts : InboundPairing) : Steps (Except TransportError (List DeviceId)) := do
  let bonded ← backend.acceptFrom (backend.tried opts) []
  call (I := mockSteps) (.advance opts.window)
  return .ok bonded

/-! ### Links -/

def connect (target : DeviceId) : Steps (Except TransportError Connection) := do
  match ← lookup target with
  | none => return .error (.deviceNotFound target)
  | some device =>
    let token ← call (I := mockSteps) (.openLink target)
    emit (device.origin backend.controller) .connected step
    return .ok { peer := target, local' := backend.controller, spec := device.spec
                 standards := device.standards, token }

def disconnect (conn : Connection) : Steps (Except TransportError Unit) := do
  let removed : Bool ← call (I := mockSteps) (.closeLink conn.token)
  if ¬ removed then return .error (.notConnected conn.peer)
  else
    emit conn.origin (.disconnected none) step
    return .ok ()

/-- The text of a scripted failure of a transfer. -/
def linkFailure (limit : UInt64) : String :=
  "simulated link failure at " ++ toString limit.toNat ++ " bytes"

/-- The loop over the chunks of a file, with the bytes and the chunks transferred so far. -/
def pushChunks (device : MockDevice) (origin : EventOrigin) (total : UInt64) :
    List (List UInt8) → (transferred chunks : UInt64) →
      Steps (Except TransportError (UInt64 × UInt64))
  | [], transferred, chunks => return .ok (transferred, chunks)
  | chunk :: rest, transferred, chunks =>
    let n := UInt64.ofNat chunk.length
    match device.transferFailureAfter.filter fun limit => limit < transferred + n with
    | some limit => do
      emit origin (.error (linkFailure limit)) step
      return .error (.transferFailed transferred (linkFailure limit))
    | none => do
      emit origin (.dataChunk .outbound n) device.perChunkLatency
      emit origin (.transferProgress (transferred + n) total) .zero
      pushChunks device origin total rest (transferred + n) (chunks + 1)

def pushFile (conn : Connection) (file : OutboundFile) :
    Steps (Except TransportError TransferReceipt) := do
  match ← call (I := mockSteps) (.checkLink conn) with
  | .error e => return .error e
  | .ok device =>
    let origin := conn.origin
    let total := file.len
    let start ← now
    emit origin (.transferStarted file.name total) step
    let pieces := sliceChunks (max device.chunkSize.toNat 1) file.bytes
    match ← pushChunks device origin total pieces 0 0 with
    | .error e => return .error e
    | .ok (transferred, chunks) =>
      let finish ← now
      let duration := finish.saturatingSince start
      emit origin (.transferCompleted transferred duration) step
      return .ok { objectName := file.name, bytes := transferred, chunks, duration }

/-! ### GATT -/

def gattRead (conn : Connection) (service characteristic : Uuid) :
    Steps (Except TransportError (List UInt8)) :=
  -- the device is looked up by the peer of the connection, and the token is not
  call (I := mockSteps) (.gattGet conn.peer service characteristic)

def gattWrite (conn : Connection) (service characteristic : Uuid) (data : List UInt8)
    (_withResponse : Bool) : Steps (Except TransportError Unit) :=
  call (I := mockSteps) (.gattInsert conn.peer service characteristic data)

def gattSubscribe (conn : Connection) (service characteristic : Uuid) :
    Steps (Except TransportError (List (Uuid × List UInt8))) := do
  let values ← call (I := mockSteps) (.gattQueue conn.peer service characteristic)
  return values.map fun values => values.map fun value => (characteristic, value)

/-! ### All of them -/

/-- The program of an operation, without the mark at which it returns to its caller. -/
def run : (op : MockOp) → Steps op.Result
  | .discover filter => backend.discover filter
  | .pair target => backend.pair target
  | .connect target => backend.connect target
  | .disconnect conn => disconnect conn
  | .pushFile conn file => pushFile conn file
  | .acceptPairings opts => backend.acceptPairings opts
  | .gattRead conn service characteristic => gattRead conn service characteristic
  | .gattWrite conn service characteristic data withResponse =>
    gattWrite conn service characteristic data withResponse
  | .gattSubscribe conn service characteristic => gattSubscribe conn service characteristic

variable {ι : Type}

/-- The operations `ops` on a backend with these devices, before any has begun. -/
def start (devices : List MockDevice) (ops : ι → MockOp) :
    Pool mockSteps MockState fun i => (ops i).Result :=
  .start (.init devices) fun i => backend.run (ops i)

/-! ### What an operation has done when it returns -/

section Returns

open Program (Returns returns_ask returns_done)

variable {β : Type} {es : List (Exchange mockSteps)}

/-- The two steps of an event come first. -/
theorem returns_emit_bind {origin : EventOrigin} {kind : TransitEventKind} {dt : Duration}
    {rest : Unit → Steps β} {b : β} (h : Returns (emit origin kind dt >>= rest) es b) :
    ∃ event es', es = ⟨.stamp origin kind dt, event⟩ :: ⟨.onEvent event, ()⟩ :: es' ∧
      Returns (rest ()) es' b := by
  obtain ⟨event, es₁, rfl, hrest⟩ := Program.returns_call_bind h
  obtain ⟨u, es₂, rfl, hlast⟩ := Program.returns_call_bind hrest
  exact ⟨event, es₂, rfl, hlast⟩

theorem returns_connect {backend : MockBackend} {target : DeviceId}
    {r : Except TransportError Connection} (h : Returns (backend.connect target) es r) :
    (es = [⟨.lookup target, none⟩] ∧ r = .error (.deviceNotFound target)) ∨
      ∃ device token dt event,
        es = [⟨.lookup target, some device⟩, ⟨.openLink target, token⟩,
          ⟨.stamp (device.origin backend.controller) .connected dt, event⟩,
          ⟨.onEvent event, ()⟩] ∧
        r = .ok { peer := target, local' := backend.controller, spec := device.spec
                  standards := device.standards, token } := by
  obtain ⟨found, es₁, rfl, hfound⟩ := Program.returns_call_bind h
  -- The device is not there, or the link is opened and announced.
  cases found with
  | none =>
    obtain ⟨rfl, rfl⟩ := returns_done.mp hfound
    exact .inl ⟨rfl, rfl⟩
  | some device =>
    obtain ⟨token, es₂, rfl, hopened⟩ := Program.returns_call_bind hfound
    obtain ⟨event, es₃, rfl, hemitted⟩ := returns_emit_bind hopened
    obtain ⟨rfl, rfl⟩ := returns_done.mp hemitted
    exact .inr ⟨device, token, step, event, rfl, rfl⟩

theorem returns_disconnect {conn : Connection} {r : Except TransportError Unit}
    (h : Returns (disconnect conn) es r) :
    (es = [⟨.closeLink conn.token, false⟩] ∧ r = .error (.notConnected conn.peer)) ∨
      ∃ dt event, es = [⟨.closeLink conn.token, true⟩,
          ⟨.stamp conn.origin (.disconnected none) dt, event⟩, ⟨.onEvent event, ()⟩] ∧
        r = .ok () := by
  obtain ⟨removed, es₁, rfl, hremoved⟩ := Program.returns_call_bind h
  -- The link was not there, or it was taken out and this is announced.
  cases removed with
  | false =>
    obtain ⟨rfl, rfl⟩ := returns_done.mp hremoved
    exact .inl ⟨rfl, rfl⟩
  | true =>
    obtain ⟨event, es₂, rfl, hemitted⟩ := returns_emit_bind hremoved
    obtain ⟨rfl, rfl⟩ := returns_done.mp hemitted
    exact .inr ⟨step, event, rfl, rfl⟩

/-- The loop over the chunks fails with `TransferFailed` if it fails. -/
theorem returns_pushChunks_error {device : MockDevice} {origin : EventOrigin} {total : UInt64}
    {pieces : List (List UInt8)} {transferred chunks : UInt64} {e : TransportError}
    (h : Returns (pushChunks device origin total pieces transferred chunks) es (.error e)) :
    ∃ transferred reason, e = .transferFailed transferred reason := by
  -- On the pieces: the error is that of the one that is cut off.
  induction pieces generalizing transferred chunks es with
  | nil => cases (returns_done.mp h).2
  | cons piece pieces ih =>
    rw [pushChunks] at h
    split at h
    · obtain ⟨event, es₁, rfl, hfailed⟩ := returns_emit_bind h
      cases (returns_done.mp hfailed).2
      exact ⟨_, _, rfl⟩
    · obtain ⟨event, es₁, rfl, hchunk⟩ := returns_emit_bind h
      obtain ⟨event', es₂, rfl, hrest⟩ := returns_emit_bind hchunk
      exact ih hrest

/-- A push starts with the check of its link, and returns the error if that is one. -/
theorem returns_pushFile {conn : Connection} {file : OutboundFile}
    {r : Except TransportError TransferReceipt} (h : Returns (pushFile conn file) es r) :
    ∃ (checked : Except TransportError MockDevice) (es' : List (Exchange mockSteps)),
      es = ⟨.checkLink conn, checked⟩ :: es' ∧
      ((∃ e, checked = .error e ∧ es' = [] ∧ r = .error e) ∨
        ∃ device, checked = .ok device ∧ ∀ e, r = .error e →
          ∃ transferred reason, e = .transferFailed transferred reason) := by
  obtain ⟨checked, es₁, rfl, hchecked⟩ := Program.returns_call_bind h
  refine ⟨checked, es₁, rfl, ?_⟩
  cases checked with
  | error e =>
    obtain ⟨rfl, rfl⟩ := returns_done.mp hchecked
    exact .inl ⟨e, rfl, rfl, rfl⟩
  | ok device =>
    refine .inr ⟨device, rfl, ?_⟩
    rintro e rfl
    obtain ⟨start, es₂, rfl, hstarted⟩ := Program.returns_call_bind hchecked
    obtain ⟨event, es₃, rfl, hemitted⟩ := returns_emit_bind hstarted
    obtain ⟨es₄, pushed, es₅, rfl, hpushed, hend⟩ := Program.returns_bind.mp hemitted
    cases pushed with
    | error e' =>
      cases (returns_done.mp hend).2
      exact returns_pushChunks_error hpushed
    | ok counts =>
      -- the rest of a push that transferred everything succeeds
      obtain ⟨finish, es₆, rfl, hfinish⟩ := Program.returns_call_bind hend
      obtain ⟨event', es₇, rfl, hlast⟩ := returns_emit_bind hfinish
      cases (returns_done.mp hlast).2

end Returns

/-! ### What an operation is made of -/

/-- The kinds of events an operation emits. -/
def emits : MockOp → TransitEventKind → Bool
  | .discover _, .discoveryStarted => true
  | .discover _, .deviceDiscovered _ => true
  | .pair _, .pairingStarted _ => true
  | .pair _, .pairingCompleted => true
  | .pair _, .pairingFailed _ => true
  | .acceptPairings _, .pairingStarted _ => true
  | .acceptPairings _, .pairingCompleted => true
  | .acceptPairings _, .pairingFailed _ => true
  | .connect _, .connected => true
  | .disconnect _, .disconnected _ => true
  | .pushFile .., .transferStarted _ _ => true
  | .pushFile .., .dataChunk _ _ => true
  | .pushFile .., .transferProgress _ _ => true
  | .pushFile .., .transferCompleted _ _ => true
  | .pushFile .., .error _ => true
  | _, _ => false

/-- The other steps an operation takes. -/
def holds : MockOp → MockCall → Bool
  | .discover _, .snapshot => true
  | .pair _, .lookup _ => true
  | .pair _, .respond _ _ => true
  | .pair _, .insertPaired _ => true
  | .acceptPairings _, .respond _ _ => true
  | .acceptPairings _, .insertPaired _ => true
  | .acceptPairings _, .advance _ => true
  | .connect _, .lookup _ => true
  | .connect _, .openLink _ => true
  | .disconnect _, .closeLink _ => true
  | .pushFile .., .checkLink _ => true
  | .pushFile .., .now => true
  | .gattRead .., .gattGet .. => true
  | .gattWrite .., .gattInsert .. => true
  | .gattSubscribe .., .gattQueue .. => true
  | _, _ => false

/-- A program that emits events of the kinds of an operation, takes its other steps, and does
nothing else. -/
inductive Built (op : MockOp) {α : Type} : Steps α → Prop
  | done (a : α) : Built op (.done a)
  | emit (origin : EventOrigin) (kind : TransitEventKind) (dt : Duration) {rest : Unit → Steps α}
    (hkind : emits op kind = true) (h : Built op (rest ())) :
    Built op (emit origin kind dt >>= rest)
  | ask (c : MockCall) {next : c.Reply → Steps α} (hcall : holds op c = true)
    (h : ∀ reply, Built op (next reply)) : Built op (.ask c next)

section Built

variable {op : MockOp} {α β : Type}

theorem Built.bind {p : Steps α} {f : α → Steps β} (hp : Built op p) (hf : ∀ a, Built op (f a)) :
    Built op (p >>= f) := by
  induction hp with
  | done a => exact hf a
  | emit origin kind dt hkind h ih =>
    rw [Program.bind_assoc']
    exact .emit origin kind dt hkind ih
  | ask c hcall h ih => exact .ask c hcall ih

theorem Built.call {c : MockCall} (h : holds op c = true) :
    Built op (Program.call (I := mockSteps) c) :=
  .ask c h fun reply => .done reply

theorem built_discoverFrom (filter filter' : DiscoveryFilter) (devices : List MockDevice)
    (out : List DeviceInfo) :
    Built (.discover filter') (backend.discoverFrom filter devices out) := by
  -- On the devices: one that is kept is announced, and all others are passed over.
  induction devices generalizing out with
  | nil => exact .done out
  | cons device devices ih =>
    rw [discoverFrom]
    split
    · exact ih out
    · split
      · exact ih out
      · split
        · exact .done out
        · exact .emit _ _ _ rfl (ih _)

theorem built_pairDevice (hop : (∃ target, op = .pair target) ∨ ∃ opts, op = .acceptPairings opts)
    (device : MockDevice) (target : DeviceId) : Built op (backend.pairDevice device target) := by
  -- Pairing, outbound or inbound, stamps the three kinds of events and makes these two steps.
  have hkinds : (∀ method, emits op (.pairingStarted method) = true) ∧
      emits op .pairingCompleted = true ∧ (∀ reason, emits op (.pairingFailed reason) = true) := by
    rcases hop with ⟨_, rfl⟩ | ⟨_, rfl⟩ <;> exact ⟨fun _ => rfl, rfl, fun _ => rfl⟩
  have hsteps : (∀ request, holds op (.respond device request) = true) ∧
      holds op (.insertPaired target) = true := by
    rcases hop with ⟨_, rfl⟩ | ⟨_, rfl⟩ <;> exact ⟨fun _ => rfl, rfl⟩
  refine .emit _ _ _ (hkinds.1 _) ((Built.call (hsteps.1 _)).bind fun response => ?_)
  split_ifs
  · exact .emit _ _ _ (hkinds.2.2 _) (.done _)
  · cases device.pairingFailure with
    | some reason => exact .emit _ _ _ (hkinds.2.2 _) (.done _)
    | none => exact .ask _ hsteps.2 fun _ => .emit _ _ _ hkinds.2.1 (.done _)

theorem built_acceptFrom (opts : InboundPairing) (devices : List MockDevice)
    (bonded : List DeviceId) :
    Built (.acceptPairings opts) (backend.acceptFrom devices bonded) := by
  induction devices generalizing bonded with
  | nil => exact .done bonded
  | cons device devices ih =>
    refine (built_pairDevice backend (.inr ⟨opts, rfl⟩) device _).bind fun result => ?_
    cases result with
    | error e => exact ih bonded
    | ok u => exact ih _

theorem built_pushChunks (conn : Connection) (file : OutboundFile) (device : MockDevice)
    (origin : EventOrigin) (total : UInt64) (pieces : List (List UInt8))
    (transferred chunks : UInt64) :
    Built (.pushFile conn file) (pushChunks device origin total pieces transferred chunks) := by
  induction pieces generalizing transferred chunks with
  | nil => exact .done _
  | cons piece pieces ih =>
    rw [pushChunks]
    split
    · exact .emit _ _ _ rfl (.done _)
    · exact .emit _ _ _ rfl (.emit _ _ _ rfl (ih _ _))

/-- **What every operation is made of**: events of its kinds, and its own steps. -/
theorem built_run (op : MockOp) : Built op (backend.run op) := by
  -- By the operation, along its code.
  cases op with
  | discover filter =>
    refine .emit _ _ _ rfl (.ask _ rfl fun devices => ?_)
    exact (built_discoverFrom backend filter filter devices []).bind fun _ => .done _
  | pair target =>
    refine .ask _ rfl fun found => ?_
    cases found with
    | none => exact .done _
    | some device =>
      refine (built_pairDevice backend (.inl ⟨target, rfl⟩) device target).bind fun result => ?_
      cases result <;> exact .done _
  | connect target =>
    refine .ask _ rfl fun found => ?_
    cases found with
    | none => exact .done _
    | some device => exact .ask _ rfl fun token => .emit _ _ _ rfl (.done _)
  | disconnect conn =>
    refine (Built.call rfl).bind fun removed => ?_
    split
    · exact .done _
    · exact .emit _ _ _ rfl (.done _)
  | pushFile conn file =>
    refine .ask _ rfl fun checked => ?_
    cases checked with
    | error e => exact .done _
    | ok device =>
      refine .ask _ rfl fun start => .emit _ _ _ rfl ?_
      refine (built_pushChunks conn file device _ _ _ _ _).bind fun pushed => ?_
      cases pushed with
      | error e => exact .done _
      | ok counts => exact .ask _ rfl fun finish => .emit _ _ _ rfl (.done _)
  | acceptPairings opts =>
    exact (built_acceptFrom backend opts _ _).bind fun bonded => .ask _ rfl fun _ => .done _
  | gattRead conn service characteristic => exact .ask _ rfl fun _ => .done _
  | gattWrite conn service characteristic data withResponse => exact .ask _ rfl fun _ => .done _
  | gattSubscribe conn service characteristic => exact .ask _ rfl fun _ => .done _

/-- The steps of an operation are those it is made of. -/
theorem Built.calls {p q : Steps α} {es : List (Exchange mockSteps)} (h : Built op p)
    (hpath : Program.Path p es q) : ∀ e ∈ es, holds op e.call = true ∨
      (∃ event, e.call = .onEvent event) ∨
      ∃ origin kind dt, e.call = .stamp origin kind dt ∧ emits op kind = true := by
  intro e he
  induction h generalizing es with
  | done a =>
    obtain ⟨rfl, -⟩ := Program.path_done.mp hpath
    exact absurd he List.not_mem_nil
  | emit origin kind dt hkind h ih =>
    -- the two steps of an event, or a step after them
    cases hpath with
    | nil => exact absurd he List.not_mem_nil
    | cons event hrest =>
      rcases List.mem_cons.mp he with rfl | he
      · exact .inr (.inr ⟨origin, kind, dt, rfl, hkind⟩)
      · cases hrest with
        | nil => exact absurd he List.not_mem_nil
        | cons u hlast =>
          rcases List.mem_cons.mp he with rfl | he
          · exact .inr (.inl ⟨event, rfl⟩)
          · exact ih hlast he
  -- a step of the operation, or one after it
  | ask c hcall h ih =>
    cases hpath with
    | nil => exact absurd he List.not_mem_nil
    | cons reply hrest =>
      rcases List.mem_cons.mp he with rfl | he
      · exact .inl hcall
      · exact ih reply hrest he

end Built

end MockBackend

end Pax
