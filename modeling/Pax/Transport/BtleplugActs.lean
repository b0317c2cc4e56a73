import Pax.Transport.BtleplugLinks

/-!
# What is done with btleplug

What each operation of `BtleplugBackend` has done to a characteristic when it returns. All of them
look for the peripheral that shows the address, and then for the characteristic among those that it
lists, so that whatever is done is done to a characteristic that has the UUIDs, of a peripheral that
shows the address (`Resolved`). A read or a write that returns an error has done nothing.

`gatt_subscribe` takes two steps, and each may fail: it subscribes, and then it asks for the stream
of notifications. So it may return an error although the subscription stands, and what it has done
then is said as well (`returns_gattSubscribe`).
-/

namespace Pax
namespace Btleplug

open Program (Returns)

/-- What was done to a characteristic, with what came of it. -/
inductive Act where
  | read (p : ℕ) (chr : Characteristic) (value : List UInt8)
  | write (p : ℕ) (chr : Characteristic) (data : List UInt8) (kind : WriteType)
  | subscribe (p : ℕ) (chr : Characteristic)
  /-- The notifications that the stream of the peripheral holds, of all its characteristics. -/
  | listen (p : ℕ) (stream : List (Uuid × List UInt8))
  deriving DecidableEq, Repr

/-- What an exchange has done to a characteristic. A call that fails counts as having done nothing.
-/
def act? : Exchange radio → Option Act
  | ⟨.read p chr, .ok value⟩ => some (.read p chr value)
  | ⟨.write p chr data kind, .ok ()⟩ => some (.write p chr data kind)
  | ⟨.subscribe p chr, .ok ()⟩ => some (.subscribe p chr)
  | ⟨.notifications p, .ok stream⟩ => some (.listen p stream)
  | _ => none

/-- The line that an exchange prints. -/
def line? : Exchange radio → Option String
  | ⟨.println line, _⟩ => some line
  | _ => none

def acts (es : List (Exchange radio)) : List Act := es.filterMap act?

def lines (es : List (Exchange radio)) : List String := es.filterMap line?

/-- No operation on a characteristic succeeds, and nothing is printed. -/
def Silent (es : List (Exchange radio)) : Prop := acts es = [] ∧ lines es = []

/-- The peripheral has shown the address. -/
def Shows (es : List (Exchange radio)) (p : ℕ) (addr : BdAddr) : Prop :=
  ∃ props : PeripheralProperties, ⟨.properties p, .ok (some props)⟩ ∈ es ∧ props.address = addr

/-- The characteristic is one of the peripheral's, and these are as they were asked for. -/
structure Resolved (es : List (Exchange radio)) (addr : BdAddr) (service characteristic : Uuid)
    (p : ℕ) (chr : Characteristic) : Prop where
  shows_addr : Shows es p addr
  listed : ∃ chrs : List Characteristic, ⟨.characteristics p, chrs⟩ ∈ es ∧ chr ∈ chrs
  service_eq : chr.serviceUuid = service
  uuid_eq : chr.uuid = characteristic

variable {α : Type} {es es' : List (Exchange radio)} {addr : BdAddr} {p : ℕ} {chr : Characteristic}
  {conn : Connection} {service characteristic : Uuid} {backend : RealBackend}

theorem acts_append : acts (es ++ es') = acts es ++ acts es' := List.filterMap_append

theorem lines_append : lines (es ++ es') = lines es ++ lines es' := List.filterMap_append

theorem silent_nil : Silent [] := ⟨rfl, rfl⟩

theorem Silent.append (h : Silent es) (h' : Silent es') : Silent (es ++ es') :=
  ⟨by rw [acts_append, h.1, h'.1]; rfl, by rw [lines_append, h.2, h'.2]; rfl⟩

theorem Silent.cons {e : Exchange radio} (hact : act? e = none) (hline : line? e = none)
    (h : Silent es) : Silent (e :: es) :=
  ⟨(List.filterMap_cons_none hact).trans h.1, (List.filterMap_cons_none hline).trans h.2⟩

theorem Shows.mono (h : Shows es p addr) (hsub : es ⊆ es') : Shows es' p addr := by
  obtain ⟨props, hmem, haddr⟩ := h
  exact ⟨props, hsub hmem, haddr⟩

theorem Resolved.mono (h : Resolved es addr service characteristic p chr) (hsub : es ⊆ es') :
    Resolved es' addr service characteristic p chr := by
  obtain ⟨chrs, hchrs, hmem⟩ := h.listed
  exact ⟨h.shows_addr.mono hsub, ⟨chrs, hsub hchrs, hmem⟩, h.service_eq, h.uuid_eq⟩

/-! ### The search -/

variable {found : ℕ → Program radio (Except TransportError α)} {missing : TransportError}
  {r : Except TransportError α}

/-- The search ends with an error, or goes on with a peripheral that shows the address. -/
theorem returns_among {ps : List ℕ} (h : Returns (among addr found missing ps) es r) :
    (Silent es ∧ ∃ e, r = .error e) ∨ ∃ es₁ p es₂, es = es₁ ++ es₂ ∧ Silent es₁ ∧
      Shows es₁ p addr ∧ Returns (found p) es₂ r := by
  induction ps generalizing es with
  | nil =>
    obtain ⟨rfl, rfl⟩ := Program.returns_done.mp h
    exact .inl ⟨silent_nil, _, rfl⟩
  | cons p ps ih =>
    obtain ⟨reply, es', rfl, hrest⟩ := Program.returns_ask.mp h
    -- If this peripheral is passed over, the one that is found is among the others.
    have hnext (hrest : Returns (among addr found missing ps) es' r) :
        (Silent (⟨.properties p, reply⟩ :: es') ∧ ∃ e, r = .error e) ∨ ∃ es₁ p' es₂,
          ⟨.properties p, reply⟩ :: es' = es₁ ++ es₂ ∧ Silent es₁ ∧ Shows es₁ p' addr ∧
          Returns (found p') es₂ r := by
      rcases ih hrest with ⟨hsilent, herror⟩ | ⟨es₁, p', es₂, rfl, hsilent, hshows, hfound⟩
      · exact .inl ⟨.cons rfl rfl hsilent, herror⟩
      · exact .inr ⟨_ :: es₁, p', es₂, rfl, .cons rfl rfl hsilent,
          hshows.mono (List.subset_cons_self _ _), hfound⟩
    -- Its properties were not read, or it has none, or they have an address to compare.
    rcases reply with e | _ | props
    · obtain ⟨rfl, rfl⟩ := Program.returns_done.mp hrest
      exact .inl ⟨.cons rfl rfl silent_nil, _, rfl⟩
    · exact hnext hrest
    · have hrest : Returns (if props.address = addr then found p else among addr found missing ps)
          es' r := hrest
      by_cases haddr : props.address = addr
      · rw [if_pos haddr] at hrest
        exact .inr ⟨[⟨.properties p, .ok (some props)⟩], p, es', rfl, .cons rfl rfl silent_nil,
          ⟨props, List.mem_singleton_self _, haddr⟩, hrest⟩
      · rw [if_neg haddr] at hrest
        exact hnext hrest

theorem returns_firstWith (h : Returns (firstWith addr found missing) es r) :
    (Silent es ∧ ∃ e, r = .error e) ∨ ∃ es₁ p es₂, es = es₁ ++ es₂ ∧ Silent es₁ ∧
      Shows es₁ p addr ∧ Returns (found p) es₂ r := by
  obtain ⟨reply, es', rfl, hrest⟩ := Program.returns_ask.mp h
  cases reply with
  | error e =>
    obtain ⟨rfl, rfl⟩ := Program.returns_done.mp hrest
    exact .inl ⟨.cons rfl rfl silent_nil, _, rfl⟩
  | ok ps =>
    rcases returns_among hrest with ⟨hsilent, herror⟩ | ⟨es₁, p, es₂, rfl, hsilent, hshows, hfound⟩
    · exact .inl ⟨.cons rfl rfl hsilent, herror⟩
    · exact .inr ⟨_ :: es₁, p, es₂, rfl, .cons rfl rfl hsilent,
        hshows.mono (List.subset_cons_self _ _), hfound⟩

/-! ### Links -/

theorem silent_emit {peer : DeviceId} {kind : TransitEventKind} {u : Unit}
    (h : Returns (emit backend peer kind) es u) : Silent es := by
  -- each exchange is a step of telling the observer
  have hstep : ∀ e ∈ es, act? e = none ∧ line? e = none := by
    intro e he
    obtain ⟨step, r, rfl⟩ := Program.call_of_returns_translate h e he
    exact ⟨rfl, rfl⟩
  exact ⟨List.filterMap_eq_nil_iff.mpr fun e he => (hstep e he).1,
    List.filterMap_eq_nil_iff.mpr fun e he => (hstep e he).2⟩

/-- **A connection** is to a peripheral that shows the address of the device. -/
theorem returns_connect {target : DeviceId} {r : Except TransportError Connection}
    (h : Returns (connect backend target) es r) : Silent es ∧ ∀ conn, r = .ok conn →
      conn.peer = target ∧ ∃ p, Shows es p target.addr ∧ ⟨.connect p, .ok ()⟩ ∈ es := by
  unfold connect at h
  -- The peripheral is not found, or it is connected to, with or without success.
  rcases returns_firstWith h with ⟨hsilent, e, rfl⟩ | ⟨es₁, p, es₂, rfl, hsilent, hshows, hrest⟩
  · exact ⟨hsilent, fun conn hconn => nomatch hconn⟩
  obtain ⟨reply, es₃, rfl, hend⟩ := Program.returns_call_bind hrest
  cases reply with
  | error e =>
    obtain ⟨rfl, rfl⟩ := Program.returns_done.mp hend
    exact ⟨hsilent.append (.cons rfl rfl silent_nil), fun conn hconn => nomatch hconn⟩
  | ok u =>
    obtain ⟨es₄, u', es₅, rfl, hemit, hdone⟩ := Program.returns_bind.mp hend
    obtain ⟨rfl, rfl⟩ := Program.returns_done.mp hdone
    refine ⟨hsilent.append (.cons rfl rfl ((silent_emit hemit).append silent_nil)), ?_⟩
    intro conn hconn
    obtain rfl := Except.ok.inj hconn
    exact ⟨rfl, p, hshows.mono (List.subset_append_left _ _), by simp⟩

theorem silent_disconnect {r : Except TransportError Unit}
    (h : Returns (disconnect backend conn) es r) : Silent es := by
  unfold disconnect at h
  -- Neither the search nor the disconnect does anything to a characteristic.
  rcases returns_firstWith h with ⟨hsilent, -⟩ | ⟨es₁, p, es₂, rfl, hsilent, hshows, hrest⟩
  · exact hsilent
  obtain ⟨reply, es₃, rfl, hend⟩ := Program.returns_call_bind hrest
  cases reply with
  | error e =>
    obtain ⟨rfl, rfl⟩ := Program.returns_done.mp hend
    exact hsilent.append (.cons rfl rfl silent_nil)
  | ok u =>
    obtain ⟨es₄, u', es₅, rfl, hemit, hdone⟩ := Program.returns_bind.mp hend
    obtain ⟨rfl, -⟩ := Program.returns_done.mp hdone
    exact hsilent.append (.cons rfl rfl ((silent_emit hemit).append silent_nil))

/-! ### Characteristics -/

/-- The characteristic is found among those of the peripheral, or there is an error. -/
theorem returns_findCharacteristic {r : Except TransportError Characteristic}
    (h : Returns (findCharacteristic p service characteristic) es r) :
    Silent es ∧ ∀ chr, r = .ok chr → chr.serviceUuid = service ∧ chr.uuid = characteristic ∧
      ∃ chrs : List Characteristic, ⟨.characteristics p, chrs⟩ ∈ es ∧ chr ∈ chrs := by
  obtain ⟨reply, es', rfl, hrest⟩ := Program.returns_call_bind h
  cases reply with
  | error e =>
    obtain ⟨rfl, rfl⟩ := Program.returns_done.mp hrest
    exact ⟨.cons rfl rfl silent_nil, fun chr hchr => nomatch hchr⟩
  | ok u =>
    obtain ⟨chrs, es'', rfl, hfind⟩ := Program.returns_call_bind hrest
    -- The services are discovered first; the characteristic is one of theirs, or missing.
    cases hfound : chrs.find? fun c => c.serviceUuid = service ∧ c.uuid = characteristic with
    | none =>
      rw [hfound] at hfind
      obtain ⟨rfl, rfl⟩ := Program.returns_done.mp hfind
      exact ⟨.cons rfl rfl (.cons rfl rfl silent_nil), fun chr hchr => nomatch hchr⟩
    | some chr =>
      rw [hfound] at hfind
      obtain ⟨rfl, rfl⟩ := Program.returns_done.mp hfind
      refine ⟨.cons rfl rfl (.cons rfl rfl silent_nil), fun chr' hchr => ?_⟩
      obtain rfl := Except.ok.inj hchr
      have hmatch : chr.serviceUuid = service ∧ chr.uuid = characteristic := by
        simpa using List.find?_some hfound
      exact ⟨hmatch.1, hmatch.2, chrs, by simp, List.mem_of_find?_eq_some hfound⟩

/-- The operation comes after the search, or there is an error. -/
theorem returns_onCharacteristic
    {operation : ℕ → Characteristic → Program radio (Except TransportError α)}
    (h : Returns (onCharacteristic conn service characteristic operation) es r) :
    (Silent es ∧ ∃ e, r = .error e) ∨ ∃ es₁ p chr es₂, es = es₁ ++ es₂ ∧ Silent es₁ ∧
      Resolved es₁ conn.peer.addr service characteristic p chr ∧
      Returns (operation p chr) es₂ r := by
  obtain ⟨es₁, peripheral, es₂, rfl, hfind, hrest⟩ := Program.returns_bind.mp h
  -- The peripheral is found and its characteristic is, or the operation ends before it is done.
  rcases returns_firstWith hfind with ⟨hsilent, e, rfl⟩ | ⟨es₃, p, es₄, rfl, hsilent, hshows, hp⟩
  · obtain ⟨rfl, rfl⟩ := Program.returns_done.mp hrest
    exact .inl ⟨hsilent.append silent_nil, e, rfl⟩
  obtain ⟨rfl, rfl⟩ := Program.returns_done.mp hp
  obtain ⟨es₅, resolved, es₆, rfl, hresolve, hoperation⟩ := Program.returns_bind.mp hrest
  obtain ⟨hsilent', hresolved⟩ := returns_findCharacteristic hresolve
  rw [List.append_nil]
  cases resolved with
  | error e =>
    obtain ⟨rfl, rfl⟩ := Program.returns_done.mp hoperation
    exact .inl ⟨hsilent.append (hsilent'.append silent_nil), e, rfl⟩
  | ok chr =>
    obtain ⟨hservice, huuid, chrs, hchrs, hmem⟩ := hresolved chr rfl
    refine .inr ⟨es₃ ++ es₅, p, chr, es₆, (List.append_assoc ..).symm, hsilent.append hsilent',
      ⟨hshows.mono (List.subset_append_left _ _), ⟨chrs, ?_, hmem⟩, hservice, huuid⟩, hoperation⟩
    exact List.mem_append_right _ hchrs

/-- **A read** has an error without having read anything, or it has read the one characteristic
that it was asked for, and returns the value of that. -/
theorem returns_gattRead {r : Except TransportError (List UInt8)}
    (h : Returns (gattRead conn service characteristic) es r) :
    (Silent es ∧ ∃ e, r = .error e) ∨ ∃ value p chr, r = .ok value ∧
      Resolved es conn.peer.addr service characteristic p chr ∧
      acts es = [.read p chr value] ∧ lines es = [] := by
  rcases returns_onCharacteristic h with
    herror | ⟨es₁, p, chr, es₂, rfl, hsilent, hresolved, hrest⟩
  · exact .inl herror
  obtain ⟨reply, es₃, rfl, hend⟩ := Program.returns_call_bind hrest
  obtain ⟨rfl, rfl⟩ := Program.returns_done.mp hend
  -- The read is the only act, and it is one only if it is served.
  cases reply with
  | error e => exact .inl ⟨hsilent.append (.cons rfl rfl silent_nil), _, rfl⟩
  | ok value =>
    refine .inr ⟨value, p, chr, rfl, hresolved.mono (List.subset_append_left _ _), ?_, ?_⟩
    · rw [acts_append, hsilent.1]
      rfl
    · rw [lines_append, hsilent.2]
      rfl

/-- **A write** has an error without having written anything, or it has written the data to the
one characteristic that it was asked for, in the way that it was asked for. -/
theorem returns_gattWrite {data : List UInt8} {withResponse : Bool} {r : Except TransportError Unit}
    (h : Returns (gattWrite conn service characteristic data withResponse) es r) :
    (Silent es ∧ ∃ e, r = .error e) ∨ ∃ p chr, r = .ok () ∧
      Resolved es conn.peer.addr service characteristic p chr ∧
      acts es = [.write p chr data (if withResponse then .withResponse else .withoutResponse)] ∧
      lines es = [] := by
  rcases returns_onCharacteristic h with
    herror | ⟨es₁, p, chr, es₂, rfl, hsilent, hresolved, hrest⟩
  · exact .inl herror
  obtain ⟨reply, es₃, rfl, hend⟩ := Program.returns_call_bind hrest
  obtain ⟨rfl, rfl⟩ := Program.returns_done.mp hend
  -- The write is the only act, and it is one only if it is served.
  cases reply with
  | error e => exact .inl ⟨hsilent.append (.cons rfl rfl silent_nil), _, rfl⟩
  | ok u =>
    refine .inr ⟨p, chr, rfl, hresolved.mono (List.subset_append_left _ _), ?_, ?_⟩
    · rw [acts_append, hsilent.1]
      rfl
    · rw [lines_append, hsilent.2]
      rfl

/-- The characteristic was subscribed to, but its notifications could not be had. -/
def Unheard (es : List (Exchange radio)) (p : ℕ) (chr : Characteristic) : Prop :=
  acts es = [.subscribe p chr] ∧ ∃ msg, ⟨.notifications p, .error msg⟩ ∈ es

theorem Unheard.after (h : Unheard es p chr) (hsilent : Silent es') :
    Unheard (es' ++ es) p chr := by
  obtain ⟨hacts, msg, hmem⟩ := h
  refine ⟨?_, msg, List.mem_append_right _ hmem⟩
  rw [acts_append, hsilent.1, hacts]
  rfl

/-- **A subscription**, and what comes of it. If it fails, then at its last step at the latest. -/
theorem returns_gattSubscribe {r : Except TransportError (List (Uuid × List UInt8))}
    (h : Returns (gattSubscribe conn service characteristic) es r) : lines es = [] ∧
      ((∃ e, r = .error e) ∧ (acts es = [] ∨ ∃ p chr,
          Resolved es conn.peer.addr service characteristic p chr ∧ Unheard es p chr) ∨
        ∃ p chr stream, r = .ok (stream.filter fun n => n.1 = characteristic) ∧
          Resolved es conn.peer.addr service characteristic p chr ∧
          acts es = [.subscribe p chr, .listen p stream]) := by
  rcases returns_onCharacteristic h with
    ⟨hsilent, herror⟩ | ⟨es₁, p, chr, es₂, rfl, hsilent, hresolved, hrest⟩
  · exact ⟨hsilent.2, .inl ⟨herror, .inl hsilent.1⟩⟩
  have hresolved : Resolved (es₁ ++ es₂) conn.peer.addr service characteristic p chr :=
    hresolved.mono (List.subset_append_left _ _)
  rw [lines_append, hsilent.2, acts_append, hsilent.1, List.nil_append, List.nil_append]
  obtain ⟨reply, es₃, rfl, hsubscribed⟩ := Program.returns_call_bind hrest
  -- A subscription that is refused is no act; one that is served is, also if the stream fails.
  cases reply with
  | error e =>
    obtain ⟨rfl, rfl⟩ := Program.returns_done.mp hsubscribed
    exact ⟨rfl, .inl ⟨⟨_, rfl⟩, .inl rfl⟩⟩
  | ok u =>
    obtain ⟨reply, es₄, rfl, hend⟩ := Program.returns_call_bind hsubscribed
    cases reply with
    | error msg =>
      -- the subscription stands
      obtain ⟨rfl, rfl⟩ := Program.returns_done.mp hend
      have hunheard : Unheard [⟨.subscribe p chr, .ok ()⟩, ⟨.notifications p, .error msg⟩] p chr :=
        ⟨rfl, msg, List.mem_cons_of_mem _ (List.mem_singleton_self _)⟩
      exact ⟨rfl, .inl ⟨⟨_, rfl⟩, .inr ⟨p, chr, hresolved, hunheard.after hsilent⟩⟩⟩
    | ok stream =>
      obtain ⟨rfl, rfl⟩ := Program.returns_done.mp hend
      exact ⟨rfl, .inr ⟨p, chr, stream, rfl, hresolved, rfl⟩⟩

end Btleplug
end Pax
