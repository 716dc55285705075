import WsAdapter.Queue
import WsAdapter.Ping

/-!
Each reply slot is in the channel, or in the hand of a scan, at most once.

A `Ping` sends its slot on `pingRequests` once. A scan receives the head of the
channel into its hand and then hands it over or drops it; no step puts a slot
back. So no slot is ever queued twice or held by two scans, a slot held by a
scan is no longer queued, and a slot is there only once its `Ping` has sent it.

A scan that takes the slot of a `Ping` not yet parked drops it: the `Ping`
then parks on a slot that is neither queued nor held, and that no scan can
reach again.
-/

namespace WsAdapter

open GorillaWebsocketConnectionAdapter

variable {s s' : GorillaWebsocketConnectionAdapter} {e : Event} {p : PingId}

namespace ReadPhase

@[simp] theorem held_handling (k : ConnId) (hd : Handler) (l : Option PingId) :
    (ReadPhase.handling k hd l).held = l := rfl

@[simp] theorem held_reading (k : ConnId) : (ReadPhase.reading k).held = none := rfl

@[simp] theorem held_returned (t : Int) (b : List UInt8) (err : Option AdapterError) :
    (ReadPhase.returned t b err).held = none := rfl

@[simp] theorem held_after (k : ConnId) (hd : Handler) : (hd.after k).held = none := by
  cases hd <;> rfl

end ReadPhase

namespace ClosePhase

@[simp] theorem held_scanning (e : WebsocketCloseError) (werr : Option TransportError)
    (l : Option PingId) : (ClosePhase.scanning e werr l).held = l := rfl

@[simp] theorem held_returned (err : Option AdapterError) : (ClosePhase.returned err).held = none :=
  rfl

end ClosePhase

/-- How many times slot `y` is queued in `pingRequests` or held by a scan. -/
def slotCount (s : GorillaWebsocketConnectionAdapter) (y : PingId) : Nat :=
  (s.pingRequests ++ s.heldSlots).count y

theorem slotCount_eq (s : GorillaWebsocketConnectionAdapter) (y : PingId) :
    slotCount s y = s.pingRequests.count y + s.reads.countP (fun ph => ph.held == some y) +
      s.closes.countP (fun ph => ph.held == some y) := by
  simp only [slotCount, heldSlots, List.count_append, List.count_filterMap]
  omega

/-- A channel operation of a scan that does not end it keeps every slot where
it was, or drops the one in hand. -/
theorem count_scanOp_next {active : PingId → Bool} {ls q : List PingId} {held l : Option PingId}
    (h : scanOp active ls held = .next q l) (y : PingId) :
    q.count y + (if (l == some y) = true then 1 else 0) ≤
      ls.count y + if (held == some y) = true then 1 else 0 := by
  rcases scanOp_eq_next h with ⟨rfl, x, rfl, rfl⟩ | ⟨x, rfl, -, rfl, rfl⟩
  · simp [List.count_cons]
  · simp

/-- A `Read` or `Close` that moves from phase `a` to phase `b` while the
channel goes from `ls` to `q` adds no slot if the channel operation adds none. -/
theorem count_set_held {α : Type} (held : α → Option PingId) {l : List α} {i : Nat} {a : α}
    (b : α) (hi : l[i]? = some a) {q ls : List PingId} {y : PingId}
    (hle : q.count y + (if (held b == some y) = true then 1 else 0) ≤
      ls.count y + if (held a == some y) = true then 1 else 0) :
    q.count y + (l.set i b).countP (fun x => held x == some y) ≤
      ls.count y + l.countP (fun x => held x == some y) := by
  have := countP_set_of_getElem? (fun x => held x == some y) b hi
  beta_reduce at this
  omega

/-- What a step does to the slots: it never adds one, except a `Ping` sending
its own slot on the channel. -/
theorem slotCount_step (h : s.step e = some s') :
    (∀ y, slotCount s' y ≤ slotCount s y) ∨
      ∃ p c k, s.pings[p]? = some c ∧ c.phase = .registering k ∧
        (s'.pings[p]?).map (·.phase) = some (.sending k) ∧
        ∀ y, slotCount s' y = slotCount s y + if p = y then 1 else 0 := by
  have hread : ∀ {r : Nat} {a : ReadPhase} (b : ReadPhase), s.reads[r]? = some a →
      b.held = a.held → ∀ y, slotCount (s.setRead r b) y = slotCount s y := fun b hr hab y => by
    simp [slotCount_eq, countP_set_eq (fun ph => ph.held == some y) b hr (by simp only [hab])]
  cases Transition.of_step h with
  | @ping _ p c c' q _ hc hm =>
    cases hm with
    | register k hph _ =>
      have hlt : p < s.pings.length := (List.getElem?_eq_some_iff.mp hc).1
      refine .inr ⟨p, c, k, hc, hph, by simp [hlt], fun y => ?_⟩
      simp only [slotCount_eq, List.count_append, List.count_singleton, beq_iff_eq]
      omega
    | _ => exact .inl fun y => le_refl _
  | readCall _ ph _ hph => exact .inl fun y => by simp [slotCount_eq, hph]
  | readMessage r k f ph hk _ hph => exact .inl fun y => (hread ph hk (by simp [hph]) y).le
  | readPong r k hk =>
    exact .inl fun y => (hread (.handling k (.pong s.pongLog.length) none) hk rfl y).le
  | readScan r k hd held q l hr hn =>
    refine .inl fun y => ?_
    have := count_set_held ReadPhase.held (.handling k hd l) hr (count_scanOp_next hn y)
    simp only [slotCount_eq, setRead]
    omega
  | readScanExit r k hd held d hr _ =>
    refine .inl fun y => ?_
    have := count_set_held ReadPhase.held (hd.after k) hr
      (Nat.add_le_add_left (by simp) (s.pingRequests.count y))
    simp only [slotCount_eq, setRead, deliver_pingRequests, deliver_reads, deliver_closes]
    omega
  | readUnbind r k ce hr =>
    exact .inl fun y => (hread (.returned (-1) [] (some (.closeError ce))) hr rfl y).le
  | closeFail | closeStart => exact .inl fun y => by simp [slotCount_eq]
  | closeScan k ce werr held q l hk hn =>
    refine .inl fun y => ?_
    have := count_set_held ClosePhase.held (.scanning ce werr l) hk (count_scanOp_next hn y)
    simp only [slotCount_eq, setClose]
    omega
  | closeScanExit k ce werr held d hk _ =>
    refine .inl fun y => ?_
    have := count_set_held ClosePhase.held (.returned (werr.map .transport)) hk
      (Nat.add_le_add_left (by simp) (s.pingRequests.count y))
    simp only [slotCount_eq, setClose, deliver_pingRequests, deliver_reads, deliver_closes]
    omega
  | _ => exact .inl fun y => le_refl _

/-- Each slot is queued or held at most once, and only once its `Ping` has
sent it. -/
def SlotsOnce (s : GorillaWebsocketConnectionAdapter) : Prop :=
  ∀ y, slotCount s y ≤ 1 ∧ (0 < slotCount s y → ∃ c, s.pings[y]? = some c ∧ c.slotSent = true)

theorem slotsOnce_step (hsane : PingsSane s) (hs : SlotsOnce s) (h : s.step e = some s') :
    SlotsOnce s' := by
  have sent : ∀ {y : PingId} {c : PingCall}, s.pings[y]? = some c → c.slotSent = true →
      ∃ c', s'.pings[y]? = some c' ∧ c'.slotSent = true := fun hc hr =>
    slotSent_step h hc (hsane _ (List.getElem?_mem hc)) hr
  rcases slotCount_step h with hle | ⟨p, c, k, hc, hph, hc', heq⟩
  · intro y
    refine ⟨(hle y).trans (hs y).1, fun hpos => ?_⟩
    obtain ⟨c, hc, hr⟩ := (hs y).2 (Nat.lt_of_lt_of_le hpos (hle y))
    exact sent hc hr
  · intro y
    have hy := hs y
    rw [heq y]
    by_cases hpy : p = y
    · subst hpy
      have h0 : slotCount s p = 0 := by
        by_contra hne
        obtain ⟨c₀, hc₀, hr⟩ := hy.2 (Nat.pos_of_ne_zero hne)
        rw [hc] at hc₀; cases hc₀
        simp [hph, PingCall.slotSent] at hr
      obtain ⟨c', hc'', hph'⟩ := Option.map_eq_some'.mp hc'
      exact ⟨by simp [h0], fun _ => ⟨c', hc'', by simp [hph', PingCall.slotSent]⟩⟩
    · simp only [hpy, if_false, Nat.add_zero]
      exact ⟨hy.1, fun hpos => (hy.2 hpos).elim fun c hc => sent hc.1 hc.2⟩

theorem slotsOnce_of_reachable (hs : Reachable s) : SlotsOnce s :=
  Reachable.induction
    (fun y => by simp [slotCount, heldSlots, newGorillaWebsocketConnectionAdapter])
    (fun _ _ _ hr ht h => slotsOnce_step (pingsSane_of_reachable hr) ht h) hs

/-- In every reachable state no reply slot is queued twice or held by two
scans, no slot held by a scan is still queued, and every slot there belongs to
a `Ping` that has sent it on the channel: one between the send and its return,
or one that returned after the send. -/
theorem slots_nodup_and_sent (hs : Reachable s) :
    (s.pingRequests ++ s.heldSlots).Nodup ∧
      ∀ x ∈ s.pingRequests ++ s.heldSlots, ∃ c, s.pings[x]? = some c ∧ c.slotSent = true := by
  have h := slotsOnce_of_reachable hs
  exact ⟨List.nodup_iff_count_le_one.mpr fun y => (h y).1,
    fun x hx => (h x).2 (List.count_pos_iff.mpr hx)⟩

/-- The ten slots of the full queue of `fillPingRequests` belong to `Ping`s
that returned their context's error after their frame went out. -/
theorem slots_nodup_and_sent_fill :
    ∃ s, newGorillaWebsocketConnectionAdapter.run fillPingRequests = some s ∧
      s.pingRequests.length = 10 ∧
      (∀ x ∈ s.pingRequests, (s.pings[x]?).map (·.phase) = some (.returned (some .contextDone))) ∧
      ((s.pingRequests ++ s.heldSlots).Nodup ∧
        ∀ x ∈ s.pingRequests ++ s.heldSlots, ∃ c, s.pings[x]? = some c ∧ c.slotSent = true) :=
  ⟨_, rfl, rfl, by decide, slots_nodup_and_sent ⟨fillPingRequests, rfl⟩⟩

/-! ### Orphaned slots -/

/-- `Ping` `p` is parked on a slot that is neither queued nor held by a scan. -/
def Orphaned (s : GorillaWebsocketConnectionAdapter) (p : PingId) : Prop :=
  s.parked p = true ∧ p ∉ s.pingRequests ∧ p ∉ s.heldSlots

instance (s : GorillaWebsocketConnectionAdapter) (p : PingId) : Decidable (Orphaned s p) :=
  inferInstanceAs (Decidable (_ ∧ _ ∧ _))

theorem parked_iff : s.parked p = true ↔ ∃ c k, s.pings[p]? = some c ∧ c.phase = .waiting k := by
  unfold parked
  cases hc : s.pings[p]? with
  | none => simp
  | some c => cases h : c.phase <;> simp [h, PingPhase.isWaiting]

theorem parked_congr (h : s'.pings[p]? = s.pings[p]?) : s'.parked p = s.parked p := by
  unfold parked; rw [h]

theorem orphaned_step (ho : Orphaned s p) (h : s.step e = some s') :
    Orphaned s' p ∨
      ∃ c, s'.pings[p]? = some c ∧ c.ctxDone = true ∧ c.phase = .returned (some .contextDone) := by
  obtain ⟨hpk, hq, hh⟩ := ho
  obtain ⟨c, k, hc, hw⟩ := parked_iff.mp hpk
  have hfree : p ∉ s'.pingRequests ++ s'.heldSlots := by
    have h0 : slotCount s p = 0 := List.count_eq_zero.mpr (by simp [hq, hh])
    rcases slotCount_step h with hle | ⟨q, d, k', hd, hreg, -, heq⟩
    · exact List.count_eq_zero.mp (Nat.le_zero.mp (h0 ▸ hle p))
    · have hqp : q ≠ p := by rintro rfl; rw [hc] at hd; cases hd; rw [hw] at hreg; cases hreg
      have h1 := heq p
      simp only [if_neg hqp, h0, Nat.add_zero] at h1
      exact List.count_eq_zero.mp h1
  have hq' : p ∉ s'.pingRequests := fun hm => hfree (List.mem_append_left _ hm)
  have hh' : p ∉ s'.heldSlots := fun hm => hfree (List.mem_append_right _ hm)
  rcases step_ping_at h hc with he | ⟨c', q, hm, he⟩ | ⟨hx, -⟩
  · exact .inl ⟨(parked_congr (he.trans hc.symm)).trans hpk, hq', hh'⟩
  · cases hm with
    | cancel => exact .inl ⟨parked_iff.mpr ⟨_, k, he, hw⟩, hq', hh'⟩
    | contextDone _ hctx => exact .inr ⟨_, he, hctx, rfl⟩
    | _ => simp_all
  · exact absurd hx hh

/-- Once a `Ping` is parked on a slot that is neither queued nor held by a
scan, no step hands it anything: on every run from there it stays so, or it
returns its context's error after its context has ended. -/
theorem orphaned_run {evs : List Event} (ho : Orphaned s p) (h : s.run evs = some s') :
    Orphaned s' p ∨
      ∃ c, s'.pings[p]? = some c ∧ c.ctxDone = true ∧ c.phase = .returned (some .contextDone) := by
  induction evs generalizing s with
  | nil => cases h; exact .inl ho
  | cons e es ih =>
    obtain ⟨t, ht, h⟩ := Option.bind_eq_some.mp h
    rcases orphaned_step ho ht with ho' | ⟨c, hc, hctx, hr⟩
    · exact ih ho' h
    · exact .inr ((returned_run hc hr h).elim (⟨c, ·, hctx, hr⟩) (⟨_, ·, rfl, hr⟩))

/-- A `Ping` writes its frame; the pong that answers it is handled before the
`Ping` parks, and the scan drops the slot. -/
def pongBeforePark : List Event :=
  [.dial false (some 101) none, .readCall false, .pingCall false, .pingProceed 0,
    .pingProceed 0, .pingProceed 0, .pingWrite 0 none, .readIncoming 0 .pong,
    .readProceed 0, .readProceed 0, .readProceed 0, .pingProceed 0]

theorem orphaned_run_pongBeforePark :
    ∃ s, newGorillaWebsocketConnectionAdapter.run pongBeforePark = some s ∧ Orphaned s 0 ∧
      ∀ evs s', s.run evs = some s' → Orphaned s' 0 ∨ ∃ c, s'.pings[0]? = some c ∧
        c.ctxDone = true ∧ c.phase = .returned (some .contextDone) :=
  ⟨_, rfl, by decide, fun _ _ h => orphaned_run (by decide) h⟩

/-- The `Ping` is parked with a live context on a slot no scan can reach, with
nothing received, although the pong read on its connection after its frame
went out was meant for it. -/
theorem ping_parked_on_dropped_slot :
    ∃ s, newGorillaWebsocketConnectionAdapter.run pongBeforePark = some s ∧ Orphaned s 0 ∧
      (s.pings[0]?).map (·.ctxDone) = some false ∧ (s.pings[0]?).map (·.notified) = some 0 ∧
      (s.pings[0]?).map (·.sentOn) = some (some 0) ∧ (s.pings[0]?).map (·.sentAt) = some 0 ∧
      s.pongLog = [0] :=
  ⟨_, rfl, by decide, rfl, rfl, rfl, rfl, rfl⟩

end WsAdapter
