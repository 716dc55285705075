import WsAdapter.Notify

/-!
The channel `pingRequests`: what fills it, what empties it, and the slots that
stay behind.

Only a `Ping` at registration adds to the queue, one slot and only when there
is room; only a scan takes from it. So a full queue stays as it is, and blocks
every registration, until a scan runs, whatever else happens to the
connection. A `Ping` that gives up (its context ends,
or the write of its frame fails) leaves its slot queued, so the queue can fill
with slots nobody waits on.
-/

namespace WsAdapter

open GorillaWebsocketConnectionAdapter

variable {s s' : GorillaWebsocketConnectionAdapter} {e : Event} {p : PingId}

/-- The step is a channel operation of a scan: of the handler a `Read` is
running (`pongHandler` or `closeHandler`), or of a `Close`. -/
def ScanStep (s : GorillaWebsocketConnectionAdapter) : Event → Prop
  | .readProceed r => ∃ k h held, s.reads[r]? = some (.handling k h held)
  | .closeProceed k => ∃ e werr held, s.closes[k]? = some (.scanning e werr held)
  | _ => False

/-- What a step does to `pingRequests`: nothing, the registration of a `Ping`
when there is room, or a scan's receive of the head. -/
theorem step_queue (h : s.step e = some s') :
    s'.pingRequests = s.pingRequests ∨
    (∃ p c k, s.pings[p]? = some c ∧ c.phase = .registering k ∧
      s.pingRequests.length < pingRequestsCapacity ∧ s'.pingRequests = s.pingRequests ++ [p]) ∨
    (ScanStep s e ∧ ∃ x, s.pingRequests = x :: s'.pingRequests) := by
  have hscan : ∀ {held q l}, scanOp s.parked s.pingRequests held = .next q l → ScanStep s e →
      q = s.pingRequests ∨ (ScanStep s e ∧ ∃ x, s.pingRequests = x :: q) := fun hn hs => by
    rcases scanOp_eq_next hn with ⟨-, x, hx, -⟩ | ⟨_, -, -, hq, -⟩
    · exact .inr ⟨hs, x, hx⟩
    · exact .inl hq
  cases Transition.of_step h with
  | @ping _ p c c' q _ hc hm =>
    cases hm with
    | register k hph hroom => exact .inr (.inl ⟨p, c, k, hc, hph, hroom, rfl⟩)
    | _ => exact .inl rfl
  | readScan r k hd held q l hr hn => exact (hscan hn ⟨k, hd, held, hr⟩).imp id .inr
  | closeScan k ce werr held q l hk hn => exact (hscan hn ⟨ce, werr, held, hk⟩).imp id .inr
  | readScanExit | closeScanExit => exact .inl (deliver_pingRequests _ _)
  | _ => exact .inl rfl

theorem queue_length_le_capacity (hs : Reachable s) :
    s.pingRequests.length ≤ pingRequestsCapacity :=
  Reachable.induction (by simp [newGorillaWebsocketConnectionAdapter])
    (fun s _ s' _ hb h => by
      rcases step_queue h with he | ⟨_, _, _, -, -, hroom, he⟩ | ⟨-, x, hx⟩
      · rwa [he]
      · rw [he, List.length_append, List.length_singleton]; omega
      · rw [hx, List.length_cons] at hb; omega) hs

/-- The queue never holds more than its capacity, and no step other than a
channel operation of a scan takes a slot out of it. -/
theorem pingRequests_bounded_and_drained_only_by_scans (hs : Reachable s) :
    s.pingRequests.length ≤ pingRequestsCapacity ∧
      ∀ e s', s.step e = some s' → ¬ ScanStep s e → s.pingRequests <+: s'.pingRequests := by
  refine ⟨queue_length_le_capacity hs, fun e s' h hns => ?_⟩
  rcases step_queue h with he | ⟨_, _, _, -, -, -, he⟩ | ⟨hsc, -⟩
  · exact he ▸ List.prefix_refl _
  · exact he ▸ List.prefix_append _ _
  · exact absurd hsc hns

/-- A `Ping` that registers, writes its frame and parks. -/
def parkedPing (p : PingId) : List Event :=
  [.pingCall false, .pingProceed p, .pingProceed p, .pingProceed p, .pingWrite p none,
    .pingProceed p]

/-- A `Ping` that parks and gives up when its context ends. Its slot stays
queued. -/
def abandonedPing (p : PingId) : List Event :=
  parkedPing p ++ [.pingCancel p, .pingContextDone p]

/-- Ten abandoned `Ping`s, then an eleventh with a live context. -/
def fillPingRequests : List Event :=
  .dial false (some 101) none :: (List.range 10).flatMap abandonedPing ++
    [.pingCall false, .pingProceed 10, .pingProceed 10]

theorem pingRequests_bounded_and_drained_only_by_scans_fill :
    ∃ s, newGorillaWebsocketConnectionAdapter.run fillPingRequests = some s ∧
      (s.pingRequests.length ≤ pingRequestsCapacity ∧
        ∀ e s', s.step e = some s' → ¬ ScanStep s e → s.pingRequests <+: s'.pingRequests) :=
  ⟨_, rfl, pingRequests_bounded_and_drained_only_by_scans ⟨fillPingRequests, rfl⟩⟩

/-- The queue full of slots of `Ping`s that have returned, none waiting, and a
`Ping` with a live context on a bound connection blocked at registration. -/
theorem pingRequests_full_of_abandoned_slots :
    ∃ s, newGorillaWebsocketConnectionAdapter.run fillPingRequests = some s ∧
      s.pingRequests.length = pingRequestsCapacity ∧
      (∀ p ∈ s.pingRequests, s.parked p = false) ∧
      s.conn = some 0 ∧ (s.pings[10]?).map (·.phase) = some (.registering 0) ∧
      (s.pings[10]?).map (·.ctxDone) = some false ∧ s.pingProceed 10 = none :=
  ⟨_, rfl, by decide, by decide, rfl, rfl, rfl, by decide⟩

/-- From a full queue, along any run, the queue stays exactly as it is, and
every `Ping` at registration stays blocked on it, until a scan takes a step:
either the run leaves the queue as it found it, or at some point of the run,
with the queue still as it was, the next step is a channel operation of a scan
(of a `Read` handler or of a `Close`). -/
theorem full_queue_kept_until_scan {evs : List Event}
    (hfull : s.pingRequests.length = pingRequestsCapacity) (h : s.run evs = some s') :
    (s'.pingRequests = s.pingRequests ∧
      ∀ p c k, s'.pings[p]? = some c → c.phase = .registering k → s'.pingProceed p = none) ∨
    ∃ pre e post t, evs = pre ++ e :: post ∧ s.run pre = some t ∧
      t.pingRequests = s.pingRequests ∧ ScanStep t e := by
  induction evs generalizing s with
  | nil =>
    cases h
    exact .inl ⟨rfl, fun p c k hc hph => by simp [pingProceed, hc, hph, hfull]⟩
  | cons e es ih =>
    obtain ⟨t, ht, h⟩ := Option.bind_eq_some.mp h
    rcases step_queue ht with hte | ⟨_, _, _, -, -, hroom, -⟩ | ⟨hsc, -⟩
    · rcases ih (by rw [hte]; exact hfull) h with ⟨hq, hblk⟩ | ⟨pre, e', post, u, rfl, hu, hq, hsc⟩
      · exact .inl ⟨hq.trans hte, hblk⟩
      · exact .inr ⟨e :: pre, e', post, u, rfl, by simp [ht, hu], hq.trans hte, hsc⟩
    · omega
    · exact .inr ⟨[], e, es, s, rfl, rfl, rfl, hsc⟩

/-- On the full queue of `fillPingRequests`: a `Read` whose connection drops
with a close error, its `adapter.conn = nil`, a new `Dial`, and a new `Ping` up
to its registration. -/
def redialOnFullQueue : List Event :=
  [.readCall false,
    .readIncoming 0 (.closeError 1006 "websocket: close 1006 (abnormal closure): unexpected EOF"),
    .readProceed 0, .dial false (some 101) none, .pingCall false, .pingProceed 11,
    .pingProceed 11]

theorem full_queue_kept_until_scan_redial :
    ∃ s s', newGorillaWebsocketConnectionAdapter.run fillPingRequests = some s ∧
      s.run redialOnFullQueue = some s' ∧ s'.conn = some 1 ∧
      ∀ t, s.run redialOnFullQueue = some t →
        ((t.pingRequests = s.pingRequests ∧
          ∀ p c k, t.pings[p]? = some c → c.phase = .registering k → t.pingProceed p = none) ∨
        ∃ pre e post u, redialOnFullQueue = pre ++ e :: post ∧ s.run pre = some u ∧
          u.pingRequests = s.pingRequests ∧ ScanStep u e) :=
  ⟨_, _, rfl, rfl, rfl, fun _ ht => full_queue_kept_until_scan rfl ht⟩

end WsAdapter
