import VideoInterop.LeaseOwner.Coupling

/-!
# Custody of the leases

What the owner knows of the clients: which requests hold a reservation, who
holds the active leases, which issues and retains wait for a confirmation, and
which monitor stands for which of them.  `Custody.Change` is what one event may
do to it.  Leases that are being released have no part in it.

`Custody.Sound` is the invariant: a monitor stands for a pending issue or retain
exactly when the lease says so, and every reservation has its monitor.
-/

namespace VideoInterop.LeaseOwner

/-- An active lease. -/
structure Holding where
  /-- The token of the producer. -/
  backendToken : Term
  /-- The registered holders. -/
  holders : Finset Ref
  /-- The holder of the issued lease. -/
  rootHolder : Option Ref
  /-- Monitor and request of the issuer, until it confirms. -/
  pendingIssue : Option (Ref × Ref)
  /-- Monitor and request of each retainer that has not confirmed. -/
  pendingRetains : FMap Ref (Ref × Ref)

/-- What the owner keeps of the issue and retain protocols. -/
structure Custody where
  /-- The reservations by request. -/
  reservations : FMap Ref Reservation
  /-- What each monitor stands for. -/
  watches : FMap Ref MonitorTarget
  /-- The token of each pending issue. -/
  issues : FMap Ref Ref
  /-- The active leases by token. -/
  holdings : Ref → Option Holding

/-- An entry without its status and age. -/
def Entry.holding (entry : Entry) : Holding where
  backendToken := entry.backendToken
  holders := entry.holders
  rootHolder := entry.rootHolder
  pendingIssue := entry.pendingIssue
  pendingRetains := entry.pendingRetains

/-- The holding of an active entry. -/
def Entry.holding? (entry : Entry) : Option Holding :=
  match entry.status with
  | .active => some entry.holding
  | _ => none

/-- The custody of an owner's state. -/
def State.custody (s : State) : Custody where
  reservations := s.issueReservations
  watches := s.protocolMonitors
  issues := s.pendingIssues
  holdings := fun token => (s.leases.fetch token).bind Entry.holding?

/-! ## Changes -/

/-- The monitor's signal is the event. -/
def Fired (event : Event) (monitorRef : Ref) : Prop :=
  ∃ reason, event = .info (.down (some monitorRef) reason)

/-- The monitors of the issue and the retains that are pending. -/
def Holding.Watches (H : Holding) (monitorRef : Ref) : Prop :=
  (∃ requestRef, H.pendingIssue = some (monitorRef, requestRef)) ∨
    ∃ child requestRef, H.pendingRetains.fetch child = some (monitorRef, requestRef)

/-- The monitor of the pending retain of a holder. -/
def Holding.WatchesRetain (H : Holding) (holder monitorRef : Ref) : Prop :=
  ∃ requestRef, H.pendingRetains.fetch holder = some (monitorRef, requestRef)

/-- The holding once a holder is gone. -/
def Holding.without (H : Holding) (holder : Ref) : Holding :=
  { H with
    holders := H.holders.erase holder
    pendingRetains := H.pendingRetains.delete holder }

namespace Custody

/-- The event gives up the reservation of a request. -/
def Vacates (C : Custody) (event : Event) (requestRef : Ref) : Prop :=
  event = .info (.cancelIssueReservation requestRef) ∨
    ∃ monitorRef, Fired event monitorRef ∧
      C.watches.fetch monitorRef = some (.reservation requestRef)

/-- The event revokes an issue that is not confirmed. -/
def Revokes (C : Custody) (event : Event) (token : Ref) : Prop :=
  (∃ requestRef, event = .info (.cancelIssue requestRef) ∧
      C.issues.fetch requestRef = some token) ∨
    ∃ monitorRef requestRef, Fired event monitorRef ∧
      C.watches.fetch monitorRef = some (.issue token requestRef)

/-- The event takes a holder off a lease. -/
def Removes (C : Custody) (event : Event) (token : Ref) (H : Holding) (holder : Ref) : Prop :=
  event = .info (.release token holder) ∨ event = .info (.abandoned token holder) ∨
    (event = .info (.cancelRetain token holder) ∧ some holder ≠ H.rootHolder) ∨
    ∃ monitorRef, Fired event monitorRef ∧
      C.watches.fetch monitorRef = some (.retain token holder)

/-- The custody once a lease is no longer active. -/
def dismissed (C : Custody) (token : Ref) (H : Holding) (watches : FMap Ref MonitorTarget) :
    Custody :=
  { C with
    watches := watches
    issues := H.pendingIssue.elim C.issues fun (_, requestRef) => C.issues.delete requestRef
    holdings := Function.update C.holdings token none }

/-- The custody once a lease's holding is another. -/
def amended (C : Custody) (token : Ref) (H : Holding) (watches : FMap Ref MonitorTarget) :
    Custody :=
  { C with watches := watches, holdings := Function.update C.holdings token (some H) }

/-- One change, the event that makes it, and the monitors and grants it sends. -/
inductive Change (env : Env) (event : Event) (C : Custody) : List Signal → Custody → Prop where
  | same : Change env event C [] C
  | drain {replyTo requestRef} (hevent : event = .info (.drain replyTo requestRef)) :
      Change env event C [.monitor replyTo env.monitorRef] C
  | reserve {metadata replyTo requestRef}
      (hevent : event = .info (.reserveIssue metadata replyTo requestRef)) :
      Change env event C
        [.monitor replyTo env.monitorRef,
          .reply replyTo requestRef (.issueReserved (.ok env.reservation))]
        { C with
          reservations := C.reservations.put requestRef
            { reservation := env.reservation
              replyTo := replyTo
              monitorRef := env.monitorRef
              metadata := metadata }
          watches := C.watches.put env.monitorRef (.reservation requestRef) }
  | vacate {requestRef watches} (hevent : C.Vacates event requestRef)
      (hwatches : C.watches.Without (fun k => Fired event k ∨
        ∃ r, C.reservations.fetch requestRef = some r ∧ k = r.monitorRef) watches) :
      Change env event C []
        { C with reservations := C.reservations.delete requestRef, watches := watches }
  | issue {reservation backendToken replyTo requestRef r lease}
      (hevent : event = .info (.commitIssue reservation backendToken replyTo requestRef))
      (hr : C.reservations.fetch requestRef = some r) (htoken : lease.token = env.token)
      (hholder : lease.holder = env.holder) :
      Change env event C [.reply replyTo requestRef (.issued (.ok lease))]
        { reservations := C.reservations.delete requestRef
          watches := C.watches.put r.monitorRef (.issue env.token requestRef)
          issues := C.issues.put requestRef env.token
          holdings := Function.update C.holdings env.token
            (some
              { backendToken := backendToken
                holders := {env.holder}
                rootHolder := some env.holder
                pendingIssue := some (r.monitorRef, requestRef)
                pendingRetains := ∅ }) }
  | reject {reservation backendToken replyTo requestRef r watches}
      (hevent : event = .info (.commitIssue reservation backendToken replyTo requestRef))
      (hr : C.reservations.fetch requestRef = some r)
      (hwatches : C.watches.Without (· = r.monitorRef) watches) :
      Change env event C []
        { C with reservations := C.reservations.delete requestRef, watches := watches }
  | confirmIssue {token requestRef monitorRef H}
      (hevent : event = .info (.confirmIssue token requestRef)) (hH : C.holdings token = some H)
      (hpending : H.pendingIssue = some (monitorRef, requestRef)) :
      Change env event C []
        { C.amended token { H with pendingIssue := none } (C.watches.delete monitorRef) with
          issues := C.issues.delete requestRef }
  | revoke {token H pending watches} (hevent : C.Revokes event token)
      (hH : C.holdings token = some H) (hpending : H.pendingIssue = some pending)
      (hwatches : C.watches.Without H.Watches watches) :
      Change env event C [] (C.dismissed token H watches)
  | retain {token parent child replyTo requestRef H guard}
      (hevent : event = .info (.retain token parent child replyTo requestRef))
      (hH : C.holdings token = some H) (hparent : parent ∈ H.holders) (hchild : child ∉ H.holders) :
      Change env event C
        [.monitor replyTo env.monitorRef, .reply replyTo requestRef (.retained (.ok guard))]
        (C.amended token
          { H with
            holders := insert child H.holders
            pendingRetains := H.pendingRetains.put child (env.monitorRef, requestRef) }
          (C.watches.put env.monitorRef (.retain token child)))
  | confirmRetain {token child requestRef monitorRef H}
      (hevent : event = .info (.confirmRetain token child requestRef))
      (hH : C.holdings token = some H)
      (hpending : H.pendingRetains.fetch child = some (monitorRef, requestRef)) :
      Change env event C []
        (C.amended token { H with pendingRetains := H.pendingRetains.delete child }
          (C.watches.delete monitorRef))
  | remove {token holder H watches} (hevent : C.Removes event token H holder)
      (hH : C.holdings token = some H) (hholder : holder ∈ H.holders)
      (hmore : (H.holders.erase holder).Nonempty)
      (hwatches : C.watches.Without (H.WatchesRetain holder) watches) :
      Change env event C [] (C.amended token (H.without holder) watches)
  | removeLast {token holder H watches} (hevent : C.Removes event token H holder)
      (hH : C.holdings token = some H) (hlast : H.holders = {holder})
      (hwatches : C.watches.Without H.Watches watches) :
      Change env event C [] (C.dismissed token H watches)

/-! ## The invariant -/

/-- Everything pending has a monitor that stands for it. -/
structure Sound (C : Custody) : Prop where
  /-- A reservation is monitored. -/
  reservation : ∀ requestRef r, C.reservations.fetch requestRef = some r →
    C.watches.fetch r.monitorRef = some (.reservation requestRef)
  /-- A monitor stands for an issue exactly when it is pending. -/
  issue : ∀ monitorRef token requestRef,
    C.watches.fetch monitorRef = some (.issue token requestRef) ↔
      ∃ H, C.holdings token = some H ∧ H.pendingIssue = some (monitorRef, requestRef)
  /-- A monitor stands for a retain exactly when it is pending. -/
  retain : ∀ monitorRef token child,
    C.watches.fetch monitorRef = some (.retain token child) ↔
      ∃ H requestRef, C.holdings token = some H ∧
        H.pendingRetains.fetch child = some (monitorRef, requestRef)
  /-- The index of issues has pending ones only. -/
  index : ∀ requestRef token, C.issues.fetch requestRef = some token →
    ∃ H monitorRef, C.holdings token = some H ∧ H.pendingIssue = some (monitorRef, requestRef)
  /-- No commit is half done. -/
  settled : ∀ monitorRef requestRef, C.watches.fetch monitorRef ≠ some (.issuePending requestRef)
  /-- A pending retain is of a registered holder, and is monitored. -/
  pending : ∀ token H child p, C.holdings token = some H → H.pendingRetains.fetch child = some p →
    child ∈ H.holders

variable {env : Env} {event : Event} {C C' : Custody} {token : Ref} {H : Holding}
  {signals : List Signal}

/-- What a monitor of a pending issue or retain stands for. -/
theorem Sound.watches (h : Sound C) (hH : C.holdings token = some H) {monitorRef : Ref}
    (hw : H.Watches monitorRef) :
    (∃ requestRef, C.watches.fetch monitorRef = some (.issue token requestRef)) ∨
      ∃ child, C.watches.fetch monitorRef = some (.retain token child) := by
  rcases hw with ⟨requestRef, hissue⟩ | ⟨child, requestRef, hretain⟩
  · exact .inl ⟨requestRef, (h.issue _ _ _).mpr ⟨H, hH, hissue⟩⟩
  · exact .inr ⟨child, (h.retain _ _ _).mpr ⟨H, requestRef, hH, hretain⟩⟩

/-- A lease whose pending issue and retains become fewer, or that is dismissed,
with the monitors that stood for them. -/
theorem Sound.shrink (h : Sound C) (hH : C.holdings token = some H) (H' : Option Holding)
    {watches : FMap Ref MonitorTarget} {issues : FMap Ref Ref}
    (hissue : ∀ K p, H' = some K → K.pendingIssue = some p → H.pendingIssue = some p)
    (hretain : ∀ K child p, H' = some K → K.pendingRetains.fetch child = some p →
      H.pendingRetains.fetch child = some p ∧ child ∈ K.holders)
    (hwatches : C.watches.Without
      (fun m => H.Watches m ∧ ∀ K, H' = some K → ¬K.Watches m) watches)
    (hindex : ∀ requestRef t, issues.fetch requestRef = some t →
      C.issues.fetch requestRef = some t ∧
        (t = token → ∃ K m, H' = some K ∧ K.pendingIssue = some (m, requestRef))) :
    Sound { C with
      watches := watches, issues := issues, holdings := Function.update C.holdings token H' } := by
  refine ⟨?_, ?_, ?_, ?_, ?_, ?_⟩
  · intro requestRef r hr
    have hwatch := h.reservation requestRef r hr
    refine (hwatches _ _).mpr ⟨hwatch, fun hgone => ?_⟩
    rcases h.watches hH hgone.1 with ⟨_, hw⟩ | ⟨_, hw⟩ <;> rw [hwatch] at hw <;> cases hw
  · intro m t requestRef
    rw [hwatches, h.issue]
    by_cases ht : t = token
    · subst ht
      simp only [Function.update_self]
      constructor
      · rintro ⟨⟨K, hK, hpending⟩, hgone⟩
        rw [hH] at hK
        cases hK
        by_contra hno
        refine hgone ⟨.inl ⟨requestRef, hpending⟩, fun K hK hw => ?_⟩
        rcases hw with ⟨q, hq⟩ | ⟨child, q, hq⟩
        · have hq' := hissue K _ hK hq
          rw [hpending] at hq'
          cases hq'
          exact hno ⟨K, hK, hq⟩
        · -- One monitor does not stand for an issue and a retain.
          have hi := (h.issue _ _ _).mpr ⟨H, hH, hpending⟩
          have hr := (h.retain _ _ _).mpr ⟨H, q, hH, (hretain K _ _ hK hq).1⟩
          rw [hi] at hr
          cases hr
      · rintro ⟨K, hK, hpending⟩
        exact ⟨⟨H, hH, hissue K _ hK hpending⟩, fun hgone => hgone.2 K hK (.inl ⟨_, hpending⟩)⟩
    · simp only [Function.update_of_ne ht]
      refine ⟨And.left, fun hK => ⟨hK, fun hgone => ?_⟩⟩
      have hi := (h.issue _ _ _).mpr hK
      rcases h.watches hH hgone.1 with ⟨_, hw⟩ | ⟨_, hw⟩ <;> rw [hi] at hw <;> cases hw
      exact ht rfl
  · intro m t child
    rw [hwatches, h.retain]
    by_cases ht : t = token
    · subst ht
      simp only [Function.update_self]
      constructor
      · rintro ⟨⟨K, requestRef, hK, hpending⟩, hgone⟩
        rw [hH] at hK
        cases hK
        by_contra hno
        refine hgone ⟨.inr ⟨child, requestRef, hpending⟩, fun K hK hw => ?_⟩
        have hr := (h.retain _ _ _).mpr ⟨H, requestRef, hH, hpending⟩
        rcases hw with ⟨q, hq⟩ | ⟨child', q, hq⟩
        · have hi := (h.issue _ _ _).mpr ⟨H, hH, hissue K _ hK hq⟩
          rw [hi] at hr
          cases hr
        · have hr' := (h.retain _ _ _).mpr ⟨H, q, hH, (hretain K _ _ hK hq).1⟩
          rw [hr] at hr'
          cases hr'
          exact hno ⟨K, q, hK, hq⟩
      · rintro ⟨K, requestRef, hK, hpending⟩
        exact ⟨⟨H, requestRef, hH, (hretain K _ _ hK hpending).1⟩,
          fun hgone => hgone.2 K hK (.inr ⟨_, _, hpending⟩)⟩
    · simp only [Function.update_of_ne ht]
      refine ⟨And.left, fun hK => ⟨hK, fun hgone => ?_⟩⟩
      have hr := (h.retain _ _ _).mpr hK
      rcases h.watches hH hgone.1 with ⟨_, hw⟩ | ⟨_, hw⟩ <;> rw [hr] at hw <;> cases hw
      exact ht rfl
  · intro requestRef t ht
    obtain ⟨hold, hnew⟩ := hindex requestRef t ht
    by_cases heq : t = token
    · obtain ⟨K, m, hK, hpending⟩ := hnew heq
      exact ⟨K, m, by simp only [heq, Function.update_self, hK], hpending⟩
    · obtain ⟨K, m, hK, hpending⟩ := h.index requestRef t hold
      exact ⟨K, m, by simp only [Function.update_of_ne heq, hK], hpending⟩
  · intro m requestRef hm
    exact h.settled m requestRef ((hwatches _ _).mp hm).1
  · intro t K child p hK hp
    by_cases heq : t = token
    · simp only [heq, Function.update_self] at hK
      exact (hretain K child p hK hp).2
    · simp only [Function.update_of_ne heq] at hK
      exact h.pending t K child p hK hp

theorem Sound.dismissed (h : Sound C) (hH : C.holdings token = some H)
    {watches : FMap Ref MonitorTarget} (hwatches : C.watches.Without H.Watches watches) :
    Sound (C.dismissed token H watches) := by
  refine h.shrink hH none (by simp) (by simp) (hwatches.congr fun _ _ _ => by simp) ?_
  intro requestRef t ht
  have hindex := h.index requestRef t
  cases hpending : H.pendingIssue with
  | none =>
      rw [hpending] at ht
      refine ⟨ht, fun heq => ?_⟩
      obtain ⟨K, m, hK, hp⟩ := hindex ht
      rw [heq, hH] at hK
      cases hK
      rw [hpending] at hp
      cases hp
  | some p =>
      rw [hpending] at ht
      simp only [Option.elim_some, FMap.fetch_delete] at ht
      split at ht
      · cases ht
      · next hne =>
          refine ⟨ht, fun heq => ?_⟩
          obtain ⟨K, m, hK, hp⟩ := hindex ht
          rw [heq, hH] at hK
          cases hK
          rw [hpending] at hp
          cases hp
          exact (hne rfl).elim

/-- A lease that loses the pending retain of one holder. -/
theorem Sound.dropRetain (h : Sound C) (hH : C.holdings token = some H) {holder : Ref} {K : Holding}
    (hissue : K.pendingIssue = H.pendingIssue)
    (hretains : K.pendingRetains = H.pendingRetains.delete holder)
    (hholders : ∀ c ∈ H.holders, c ≠ holder → c ∈ K.holders) {watches : FMap Ref MonitorTarget}
    (hwatches : C.watches.Without (H.WatchesRetain holder) watches) :
    Sound (C.amended token K watches) := by
  have hfewer : ∀ c p, K.pendingRetains.fetch c = some p ↔
      c ≠ holder ∧ H.pendingRetains.fetch c = some p := by
    intro c p
    rw [hretains]
    by_cases hc : c = holder <;> simp [hc]
  refine h.shrink hH (some K) ?_ ?_ ?_ ?_
  · rintro _ p ⟨rfl⟩ hp
    exact hissue ▸ hp
  · rintro _ c p ⟨rfl⟩ hp
    obtain ⟨hne, hp⟩ := (hfewer c p).mp hp
    exact ⟨hp, hholders c (h.pending token H c p hH hp) hne⟩
  · refine hwatches.congr fun k _ _ => ?_
    constructor
    · rintro ⟨requestRef, hpending⟩
      refine ⟨.inr ⟨_, _, hpending⟩, ?_⟩
      -- The monitor stands for this retain and for nothing else.
      have hwatch := (h.retain k token holder).mpr ⟨H, requestRef, hH, hpending⟩
      rintro _ ⟨rfl⟩ (⟨q, hq⟩ | ⟨c, q, hq⟩)
      · rw [(h.issue k token q).mpr ⟨H, hH, hissue ▸ hq⟩] at hwatch
        cases hwatch
      · obtain ⟨hne, hq⟩ := (hfewer c _).mp hq
        rw [(h.retain k token c).mpr ⟨H, q, hH, hq⟩] at hwatch
        cases hwatch
        exact hne rfl
    · rintro ⟨⟨q, hq⟩ | ⟨c, q, hq⟩, hno⟩
      · exact absurd (.inl ⟨q, hissue ▸ hq⟩) (hno _ rfl)
      · by_cases hc : c = holder
        · exact ⟨q, hc ▸ hq⟩
        · exact absurd (.inr ⟨c, q, (hfewer c _).mpr ⟨hc, hq⟩⟩) (hno _ rfl)
  · intro q t hq
    refine ⟨hq, ?_⟩
    rintro rfl
    obtain ⟨K', m, hK, hp⟩ := h.index q _ hq
    rw [hH] at hK
    cases hK
    exact ⟨K, m, rfl, hissue ▸ hp⟩

theorem Sound.vacate (h : Sound C) {requestRef : Ref} {watches : FMap Ref MonitorTarget}
    {gone : Ref → Prop} (hwatches : C.watches.Without gone watches)
    (hgone : ∀ k target, gone k → C.watches.fetch k = some target →
      target = .reservation requestRef) :
    Sound { C with reservations := C.reservations.delete requestRef, watches := watches } := by
  refine ⟨?_, ?_, ?_, h.index, ?_, h.pending⟩
  · intro other r hother
    simp only [FMap.fetch_delete] at hother
    split at hother
    · cases hother
    · next hne =>
        have hwatch := h.reservation other r hother
        refine (hwatches _ _).mpr ⟨hwatch, fun hg => ?_⟩
        cases hgone _ _ hg hwatch
        exact hne rfl
  · intro m t q
    rw [hwatches, h.issue]
    refine ⟨And.left, fun hH => ⟨hH, fun hg => ?_⟩⟩
    cases hgone _ _ hg ((h.issue _ _ _).mpr hH)
  · intro m t child
    rw [hwatches, h.retain]
    refine ⟨And.left, fun hH => ⟨hH, fun hg => ?_⟩⟩
    cases hgone _ _ hg ((h.retain _ _ _).mpr hH)
  · intro m q hm
    exact h.settled m q ((hwatches _ _).mp hm).1

theorem Vacates.target {requestRef k : Ref} {target : MonitorTarget}
    (hevent : C.Vacates event requestRef) (hk : Fired event k)
    (hwatch : C.watches.fetch k = some target) : target = .reservation requestRef := by
  obtain ⟨reason, rfl⟩ := hk
  rcases hevent with hcancel | ⟨m, ⟨reason', hfired⟩, hm⟩
  · cases hcancel
  · cases hfired
    rw [hwatch] at hm
    exact Option.some.inj hm

/-- **A change keeps the custody sound**, when the references it makes are new. -/
theorem Change.sound (hchange : Change env event C signals C') (h : Sound C)
    (hmonitor : C.watches.fetch env.monitorRef = none) (htoken : C.holdings env.token = none) :
    Sound C' := by
  cases hchange with
  | same => exact h
  | drain => exact h
  | @reserve metadata replyTo requestRef =>
      refine ⟨?_, ?_, ?_, h.index, ?_, h.pending⟩
      · intro other r hr
        simp only [FMap.fetch_put] at hr
        split at hr
        · next heq =>
            cases hr
            rw [heq]
            exact FMap.fetch_put_self ..
        · exact (FMap.fetch_put_fresh hmonitor _ _ _).mpr (.inr (h.reservation other r hr))
      · intro m t q
        rw [FMap.fetch_put_fresh hmonitor, ← h.issue]
        simp
      · intro m t child
        rw [FMap.fetch_put_fresh hmonitor, ← h.retain]
        simp
      · intro m q
        rw [ne_eq, FMap.fetch_put_fresh hmonitor]
        rintro (⟨-, htarget⟩ | hm)
        · cases htarget
        · exact h.settled m q hm
  | vacate hevent hwatches =>
      refine h.vacate hwatches fun k target hgone hk => ?_
      rcases hgone with hfired | ⟨r, hr, rfl⟩
      · exact hevent.target hfired hk
      · rw [h.reservation _ r hr] at hk
        exact (Option.some.inj hk).symm
  | @issue reservation backendToken replyTo requestRef r lease _ hr _ _ =>
      have hwatch := h.reservation requestRef r hr
      have hput : ∀ m target, (C.watches.put r.monitorRef (.issue env.token requestRef)).fetch m =
          some target ↔ (m = r.monitorRef ∧ target = .issue env.token requestRef) ∨
            (m ≠ r.monitorRef ∧ C.watches.fetch m = some target) := by
        intro m target
        by_cases hm : m = r.monitorRef <;> simp [hm, eq_comm]
      refine ⟨?_, ?_, ?_, ?_, ?_, ?_⟩
      · intro other r' hr'
        simp only [FMap.fetch_delete] at hr'
        split at hr'
        · cases hr'
        · next hne =>
            have hwatch' := h.reservation other r' hr'
            refine (hput _ _).mpr (.inr ⟨fun heq => ?_, hwatch'⟩)
            rw [heq, hwatch] at hwatch'
            cases hwatch'
            exact hne rfl
      · intro m t q
        rw [hput, h.issue]
        by_cases ht : t = env.token
        · subst ht
          simp only [Function.update_self, htoken]
          simp [eq_comm]
        · simp only [Function.update_of_ne ht]
          constructor
          · rintro (⟨-, htarget⟩ | ⟨-, hH⟩)
            · cases htarget
              exact absurd rfl ht
            · exact hH
          · intro hH
            refine .inr ⟨fun heq => ?_, hH⟩
            have hi := (h.issue _ _ _).mpr hH
            rw [heq, hwatch] at hi
            cases hi
      · intro m t child
        rw [hput, h.retain]
        by_cases ht : t = env.token
        · subst ht
          simp only [Function.update_self, htoken]
          simp
        · simp only [Function.update_of_ne ht]
          constructor
          · rintro (⟨-, htarget⟩ | ⟨-, hH⟩)
            · cases htarget
            · exact hH
          · intro hH
            refine .inr ⟨fun heq => ?_, hH⟩
            have hi := (h.retain _ _ _).mpr hH
            rw [heq, hwatch] at hi
            cases hi
      · intro q t hq
        simp only [FMap.fetch_put] at hq
        split at hq
        · next heq =>
            cases hq
            exact ⟨_, r.monitorRef, Function.update_self .., by rw [heq]⟩
        · obtain ⟨H, m, hH, hp⟩ := h.index q t hq
          have hne : t ≠ env.token := by
            rintro rfl
            rw [htoken] at hH
            cases hH
          exact ⟨H, m, by simp only [Function.update_of_ne hne, hH], hp⟩
      · intro m q hm
        rcases (hput _ _).mp hm with ⟨-, htarget⟩ | ⟨-, hm⟩
        · cases htarget
        · exact h.settled m q hm
      · intro t H child p hH hp
        by_cases ht : t = env.token
        · simp only [ht, Function.update_self] at hH
          cases hH
          simp at hp
        · simp only [Function.update_of_ne ht] at hH
          exact h.pending t H child p hH hp
  | @reject reservation backendToken replyTo requestRef r watches _ hr hwatches =>
      refine h.vacate hwatches fun k target hgone hk => ?_
      rw [show k = r.monitorRef from hgone, h.reservation _ r hr] at hk
      exact (Option.some.inj hk).symm
  | @confirmIssue token requestRef monitorRef H _ hH hpending =>
      refine h.shrink hH (some { H with pendingIssue := none }) ?_ ?_ ?_ ?_
      · rintro K p ⟨rfl⟩ hp
        cases hp
      · rintro K child p ⟨rfl⟩ hp
        exact ⟨hp, h.pending token H child p hH hp⟩
      · refine (FMap.Without.delete _ _).congr fun k target hk => ?_
        have hwatch := (h.issue monitorRef token requestRef).mpr ⟨H, hH, hpending⟩
        constructor
        · rintro rfl
          refine ⟨.inl ⟨_, hpending⟩, ?_⟩
          rintro K ⟨rfl⟩ (⟨q, hq⟩ | ⟨child, q, hq⟩)
          · cases hq
          · have hr := (h.retain k token child).mpr ⟨H, q, hH, hq⟩
            rw [hwatch] at hr
            cases hr
        · rintro ⟨⟨q, hq⟩ | ⟨child, q, hq⟩, hno⟩
          · rw [hpending] at hq
            cases hq
            rfl
          · exact absurd (.inr ⟨child, q, hq⟩) (hno _ rfl)
      · intro q t hq
        simp only [FMap.fetch_delete] at hq
        split at hq
        · cases hq
        · next hne =>
            refine ⟨hq, ?_⟩
            rintro rfl
            obtain ⟨K, m, hK, hp⟩ := h.index q _ hq
            rw [hH] at hK
            cases hK
            rw [hpending] at hp
            cases hp
            exact (hne rfl).elim
  | revoke _ hH _ hwatches => exact h.dismissed hH hwatches
  | @retain token parent child replyTo requestRef H guard _ hH _ hchild =>
      have hunwatched : ∀ target, C.watches.fetch env.monitorRef ≠ some target := by simp [hmonitor]
      have hnone : H.pendingRetains.fetch child = none := by
        cases hp : H.pendingRetains.fetch child with
        | none => rfl
        | some p => exact absurd (h.pending token H child p hH hp) hchild
      refine ⟨?_, ?_, ?_, ?_, ?_, ?_⟩
      · intro q r hr
        exact (FMap.fetch_put_fresh hmonitor _ _ _).mpr (.inr (h.reservation q r hr))
      · intro m t q
        simp only [amended, FMap.fetch_put_fresh hmonitor, h.issue]
        by_cases ht : t = token
        · subst ht
          simp [hH]
        · simp [Function.update_of_ne ht]
      · intro m t c
        simp only [amended, FMap.fetch_put_fresh hmonitor, h.retain]
        by_cases ht : t = token
        · subst ht
          simp only [Function.update_self, hH]
          by_cases hc : c = child
          · subst hc
            simp [hnone, eq_comm]
          · simp [hc]
        · simp [ht]
      · intro q t hq
        obtain ⟨K, m, hK, hp⟩ := h.index q t hq
        by_cases ht : t = token
        · subst ht
          rw [hH] at hK
          cases hK
          exact ⟨_, m, Function.update_self .., hp⟩
        · exact ⟨K, m, by simp only [amended, Function.update_of_ne ht, hK], hp⟩
      · intro m q hm
        rcases (FMap.fetch_put_fresh hmonitor _ _ _).mp hm with ⟨-, htarget⟩ | hm
        · cases htarget
        · exact h.settled m q hm
      · intro t K c p hK hp
        by_cases ht : t = token
        · simp only [amended, ht, Function.update_self] at hK
          cases hK
          simp only [FMap.fetch_put] at hp
          split at hp
          · next hc => exact hc ▸ Finset.mem_insert_self ..
          · exact Finset.mem_insert_of_mem (h.pending token H c p hH hp)
        · simp only [amended, Function.update_of_ne ht] at hK
          exact h.pending t K c p hK hp
  | @confirmRetain token child requestRef monitorRef H _ hH hpending =>
      refine h.dropRetain (K := { H with pendingRetains := H.pendingRetains.delete child }) hH rfl
        rfl (fun c hc _ => hc) ?_
      refine (FMap.Without.delete _ _).congr fun k _ _ => ?_
      simp [Holding.WatchesRetain, hpending, eq_comm]
  | @remove token holder H watches _ hH _ _ hwatches =>
      exact h.dropRetain (K := H.without holder) hH rfl rfl
        (fun c hc hne => Finset.mem_erase.mpr ⟨hne, hc⟩) hwatches
  | removeLast _ hH _ hwatches => exact h.dismissed hH hwatches

end Custody

end VideoInterop.LeaseOwner
