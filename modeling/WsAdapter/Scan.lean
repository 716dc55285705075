import WsAdapter.Queue

/-!
The scans of the adapter run alone, and what the scan of `Close` leaves behind.

A scan is the loop of `propagateToFirstActiveListener` or
`propagateToAllActiveListener` run one channel operation at a time: by a
`Read` inside `pongHandler` or `closeHandler`, or by a `Close`. Run with
nothing else going on, it ends where the structural loop of `Propagate` says.
`scan_run_eq` proves this once for any scan, and the scans of `Read` and of
`Close` are its two instances: this is where the step model meets the
functional model. A pong so releases exactly one parked `Ping`, the first in
queue order. Since `propagateToAllActiveListener` returns after
its first hand-over, a `Close` releases at most one parked `Ping`; the others
stay parked, their slots still queued, after the connection is gone, and the
first pong read on the next connection releases one of them.

Not run alone, the loop does not do what `propagateToFirstActiveListener`
says. The scan of `Close` holds `mu` but `pongHandler`'s takes no lock, so the
two can take from `pingRequests` at once: the `Close` can take the slot of the
only parked `Ping` while the pong's scan tries an abandoned one, and the pong's
scan then ends with no hand-over.
-/

namespace WsAdapter

open GorillaWebsocketConnectionAdapter

variable {s s' : GorillaWebsocketConnectionAdapter}

theorem deliver_pings_congr (t s : GorillaWebsocketConnectionAdapter) (h : t.pings = s.pings)
    (sig : Signal) (d : Option PingId) : (t.deliver sig d).pings = (s.deliver sig d).pings := by
  unfold deliver
  rcases d with _ | x
  · exact h
  · simp only [h]; split <;> simp [h]

theorem parked_congr_pings {t : GorillaWebsocketConnectionAdapter} (h : t.pings = s.pings) :
    t.parked = s.parked := by
  funext p; unfold parked; rw [h]

theorem set_eq_self_of_getElem? {α : Type} {l : List α} {i : Nat} {a : α} (h : l[i]? = some a) :
    l.set i a = l :=
  List.ext_getElem? fun j => by
    by_cases hij : i = j
    · subst hij; rw [List.getElem?_set_self (List.getElem?_eq_some_iff.mp h).1, h]
    · rw [List.getElem?_set_ne hij]

/-- What a scan run alone does, read through the first parked `Ping` in
queue order: it hands its signal to that one, after dropping the slots before
it, or to none, after emptying the queue. -/
theorem deliver_first_parked (sig : Signal) :
    (∃ pre x post cx k, s.pingRequests = pre ++ x :: post ∧ (∀ y ∈ pre, s.parked y = false) ∧
        s.pings[x]? = some cx ∧ cx.phase = .waiting k ∧
        (propagateToFirstActiveListener s.parked s.pingRequests).2.1 = post ∧
        (s.deliver sig (propagateToFirstActiveListener s.parked s.pingRequests).2.2).pings =
          s.pings.set x (cx.deliver sig)) ∨
      ((∀ y ∈ s.pingRequests, s.parked y = false) ∧
        (propagateToFirstActiveListener s.parked s.pingRequests).2.1 = [] ∧
        (s.deliver sig (propagateToFirstActiveListener s.parked s.pingRequests).2.2).pings =
          s.pings) := by
  rcases propagateToFirstActiveListener_cases s.parked s.pingRequests with
    ⟨pre, x, post, hqs, hpre, hx, hres⟩ | ⟨hall, hres⟩ <;> rw [hres]
  · obtain ⟨cx, k, hcx, hw, hd⟩ := deliver_parked sig hx
    exact .inl ⟨pre, x, post, cx, k, hqs, hpre, hcx, hw, rfl, by rw [hd]; rfl⟩
  · exact .inr ⟨hall, rfl, rfl⟩

section ScanRun

/-! ### A scan run alone -/

variable (ev : Event) (At : GorillaWebsocketConnectionAdapter → Option PingId → Prop)
  (Done : GorillaWebsocketConnectionAdapter → Option PingId → GorillaWebsocketConnectionAdapter →
    Prop)

/-- A scan that `ev` runs, with `At t held` saying that it is in `t` holding
`held` and `Done t d t'` what its last step from `t` does when it hands over
to `d`. Run alone from an empty hand, it ends by the hand-over
`propagateToFirstActiveListener` makes, from a state with the same `Ping`
calls and the queue that loop leaves. -/
theorem scan_run_eq
    (hnext : ∀ t held q l, At t held → scanOp t.parked t.pingRequests held = .next q l →
      ∃ t', t.step ev = some t' ∧ At t' l ∧ t'.pingRequests = q ∧ t'.pings = t.pings)
    (hexit : ∀ t held d, At t held → scanOp t.parked t.pingRequests held = .exit d →
      ∃ t', t.step ev = some t' ∧ Done t d t')
    (t : GorillaWebsocketConnectionAdapter) (ht : At t none) :
    ∃ n t₀ t', t.run (List.replicate n ev) = some t' ∧ (∃ held, At t₀ held) ∧
      t₀.pings = t.pings ∧
      t₀.pingRequests = (propagateToFirstActiveListener t.parked t.pingRequests).2.1 ∧
      Done t₀ (propagateToFirstActiveListener t.parked t.pingRequests).2.2 t' := by
  generalize hq : t.pingRequests = q
  induction q generalizing t with
  | nil =>
    obtain ⟨t', h, hd⟩ := hexit t none none ht (by rw [hq]; rfl)
    exact ⟨1, t, t', by simp [h], ⟨none, ht⟩, rfl, hq, hd⟩
  | cons x xs ih =>
    obtain ⟨t₁, h₁, ht₁, hq₁, hp₁⟩ := hnext t none xs (some x) ht (by rw [hq]; rfl)
    have hpk₁ : t₁.parked = t.parked := parked_congr_pings hp₁
    cases hx : t.parked x
    · obtain ⟨t₂, h₂, ht₂, hq₂, hp₂⟩ :=
        hnext t₁ (some x) xs none ht₁ (by rw [scanOp_some, hpk₁, hx, hq₁]; rfl)
      have hpk₂ : t₂.parked = t.parked := (parked_congr_pings hp₂).trans hpk₁
      obtain ⟨n, t₀, t', hrun, hat, hp₀, hq₀, hd⟩ := ih t₂ ht₂ hq₂
      rw [hpk₂] at hq₀ hd
      exact ⟨n + 2, t₀, t', by simp [List.replicate_succ, h₁, h₂, hrun], hat,
        hp₀.trans (hp₂.trans hp₁), by simpa [propagateToFirstActiveListener, hx] using hq₀,
        by simpa [propagateToFirstActiveListener, hx] using hd⟩
    · obtain ⟨t', h₂, hd⟩ := hexit t₁ (some x) (some x) ht₁ (by rw [scanOp_some, hpk₁, hx]; rfl)
      exact ⟨2, t₁, t', by simp [List.replicate_succ, h₁, h₂], ⟨_, ht₁⟩, hp₁,
        by simp [propagateToFirstActiveListener, hx, hq₁],
        by simpa [propagateToFirstActiveListener, hx] using hd⟩

end ScanRun

/-! ### The scans of `Read` and of `Close` -/

/-- The scan of a `Read` is an instance of `scan_run_eq`. -/
theorem readScan_run {r : Nat} {c : ConnId} {h : Handler}
    (hr : s.reads[r]? = some (.handling c h none)) :
    ∃ (n : Nat) (t₀ s' : GorillaWebsocketConnectionAdapter),
      s.run (List.replicate n (.readProceed r)) = some s' ∧ t₀.pings = s.pings ∧
      (∃ held, t₀.reads = s.reads.set r (.handling c h held)) ∧
      t₀.pingRequests = (propagateToFirstActiveListener s.parked s.pingRequests).2.1 ∧
      s' = (t₀.deliver h.signal
        (propagateToFirstActiveListener s.parked s.pingRequests).2.2).setRead r (h.after c) := by
  have hlt : r < s.reads.length := (List.getElem?_eq_some_iff.mp hr).1
  obtain ⟨n, t₀, s', hrun, hat, hp, hq, hd⟩ := scan_run_eq (.readProceed r)
    (fun t held => t.reads = s.reads.set r (.handling c h held))
    (fun t d t' => t' = (t.deliver h.signal d).setRead r (h.after c))
    (fun t held q l ht hn => ⟨{ t.setRead r (.handling c h l) with pingRequests := q },
      by simp only [step, readProceed, ht, List.getElem?_set_self hlt,
        Option.bind_eq_bind, Option.some_bind, hn], by simp [ht], rfl, rfl⟩)
    (fun t held d ht hd => ⟨_, by simp only [step, readProceed, ht,
      List.getElem?_set_self hlt, Option.bind_eq_bind, Option.some_bind, hd], rfl⟩)
    s (set_eq_self_of_getElem? hr).symm
  exact ⟨n, t₀, s', hrun, hp, hat, hq, hd⟩

/-- The scan of a `Read`'s handler, run alone, read through the first parked
`Ping` in queue order; the `Read` then goes where it goes after the handler. -/
theorem readScan_first_parked {r : Nat} {c : ConnId} {h : Handler}
    (hr : s.reads[r]? = some (.handling c h none)) :
    ∃ n s', s.run (List.replicate n (.readProceed r)) = some s' ∧
      s'.reads[r]? = some (h.after c) ∧
      ((∃ pre x post cx k, s.pingRequests = pre ++ x :: post ∧
          (∀ y ∈ pre, s.parked y = false) ∧ s.pings[x]? = some cx ∧ cx.phase = .waiting k ∧
          s'.pingRequests = post ∧ s'.pings = s.pings.set x (cx.deliver h.signal)) ∨
        ((∀ y ∈ s.pingRequests, s.parked y = false) ∧ s'.pingRequests = [] ∧
          s'.pings = s.pings)) := by
  have hlt : r < s.reads.length := (List.getElem?_eq_some_iff.mp hr).1
  obtain ⟨n, t₀, s', hrun, hp, ⟨held, hat⟩, hq, rfl⟩ := readScan_run hr
  refine ⟨n, _, hrun, by simp [hat, hlt], ?_⟩
  simp only [setRead, deliver_pingRequests, hq, deliver_pings_congr t₀ s hp]
  exact deliver_first_parked h.signal

/-- A `Read` that has entered the scan of its handler `h` (the loop of
`closeHandler` is the same as that of `pongHandler`), run alone to the end of
that scan, leaves the queue and hands over the handler's notification as
`propagateToFirstActiveListener` says, and goes on where `Read` goes after
that handler. -/
theorem readProceed_run_eq {r : Nat} {c : ConnId} {h : Handler}
    (hr : s.reads[r]? = some (.handling c h none)) :
    ∃ n s', s.run (List.replicate n (.readProceed r)) = some s' ∧
      s'.pingRequests = (propagateToFirstActiveListener s.parked s.pingRequests).2.1 ∧
      s'.pings = (s.deliver h.signal
        (propagateToFirstActiveListener s.parked s.pingRequests).2.2).pings ∧
      s'.reads = s.reads.set r (h.after c) := by
  obtain ⟨n, t₀, s', hrun, hp, ⟨held, hat⟩, hq, rfl⟩ := readScan_run hr
  exact ⟨n, _, hrun, (deliver_pingRequests _ _).trans hq, deliver_pings_congr t₀ s hp _ _,
    by simp [hat]⟩

theorem readProceed_run_eq_echo :
    ∃ s, newGorillaWebsocketConnectionAdapter.run (pingEcho.take 9) = some s ∧
      ∃ (c : ConnId) (h : Handler), s.reads[0]? = some (.handling c h none) ∧
      ∃ n s', s.run (List.replicate n (.readProceed 0)) = some s' ∧
        s'.pingRequests = (propagateToFirstActiveListener s.parked s.pingRequests).2.1 ∧
        s'.pings = (s.deliver h.signal
          (propagateToFirstActiveListener s.parked s.pingRequests).2.2).pings ∧
        s'.reads = s.reads.set 0 (h.after c) :=
  ⟨_, rfl, _, _, rfl, readProceed_run_eq rfl⟩

/-- Two `Ping`s parked on the first connection. -/
def twoParkedPings : List Event :=
  .dial false (some 101) none :: parkedPing 0 ++ parkedPing 1

/-- A pong read while `Ping`s are parked: its scan, run alone, releases exactly
one of them, the first parked one in queue order, which returns nil, and leaves
every other call as it was; the slots before it, of calls no longer parked, are
dropped, and those after it stay queued. With no parked `Ping` queued it
releases none and empties the queue. Either way the `Read` goes back to
reading. -/
theorem pong_releases_first_parked_ping {r : Nat} {c : ConnId} {i : Nat}
    (hr : s.reads[r]? = some (.handling c (.pong i) none)) :
    ∃ n s', s.run (List.replicate n (.readProceed r)) = some s' ∧
      s'.reads[r]? = some (.reading c) ∧
      ((∃ pre x post cx k, s.pingRequests = pre ++ x :: post ∧
          (∀ y ∈ pre, s.parked y = false) ∧ s.pings[x]? = some cx ∧ cx.phase = .waiting k ∧
          s'.pingRequests = post ∧ s'.pings = s.pings.set x (cx.deliver (.pong i)) ∧
          okCount s' = okCount s + 1) ∨
        ((∀ y ∈ s.pingRequests, s.parked y = false) ∧ s'.pingRequests = [] ∧
          s'.pings = s.pings)) := by
  obtain ⟨n, s', hrun, hr', ⟨pre, x, post, cx, k, hqs, hpre, hcx, hw, hpost, hd⟩ | hnone⟩ :=
    readScan_first_parked hr
  · refine ⟨n, s', hrun, hr', .inl ⟨pre, x, post, cx, k, hqs, hpre, hcx, hw, hpost, hd, ?_⟩⟩
    have hok := countP_set_of_getElem? PingCall.isOk (cx.deliver (.pong i)) hcx
    obtain ⟨hok', hok''⟩ := PingCall.isOk_deliver hw (.pong i)
    simp only [hok', hok'', Signal.notification] at hok
    simpa [okCount, hd] using hok
  · exact ⟨n, s', hrun, hr', .inr hnone⟩

theorem pong_releases_first_parked_ping_twoParked :
    ∃ s, newGorillaWebsocketConnectionAdapter.run
        (twoParkedPings ++ [.readCall false, .readIncoming 0 .pong]) = some s ∧
      s.reads[0]? = some (.handling 0 (.pong 0) none) ∧
      ∃ n s', s.run (List.replicate n (.readProceed 0)) = some s' ∧
        s'.reads[0]? = some (.reading 0) ∧
        ((∃ pre x post cx k, s.pingRequests = pre ++ x :: post ∧
            (∀ y ∈ pre, s.parked y = false) ∧ s.pings[x]? = some cx ∧ cx.phase = .waiting k ∧
            s'.pingRequests = post ∧ s'.pings = s.pings.set x (cx.deliver (.pong 0)) ∧
            okCount s' = okCount s + 1) ∨
          ((∀ y ∈ s.pingRequests, s.parked y = false) ∧ s'.pingRequests = [] ∧
            s'.pings = s.pings)) :=
  ⟨_, rfl, rfl, pong_releases_first_parked_ping rfl⟩

/-- The scan of a `Close` is an instance of `scan_run_eq`. -/
theorem closeScan_run {k : Nat} {e : WebsocketCloseError} {werr : Option TransportError}
    (hk : s.closes[k]? = some (.scanning e werr none)) :
    ∃ (n : Nat) (t₀ s' : GorillaWebsocketConnectionAdapter),
      s.run (List.replicate n (.closeProceed k)) = some s' ∧ t₀.pings = s.pings ∧
      (∃ held, t₀.closes = s.closes.set k (.scanning e werr held)) ∧
      t₀.pingRequests = (propagateToFirstActiveListener s.parked s.pingRequests).2.1 ∧
      s' = { (t₀.deliver (.close e) (propagateToFirstActiveListener s.parked s.pingRequests).2.2
        ).setClose k (.returned (werr.map .transport)) with conn := none, mu := false } := by
  have hlt : k < s.closes.length := (List.getElem?_eq_some_iff.mp hk).1
  obtain ⟨n, t₀, s', hrun, hat, hp, hq, hd⟩ := scan_run_eq (.closeProceed k)
    (fun t held => t.closes = s.closes.set k (.scanning e werr held))
    (fun t d t' => t' = { (t.deliver (.close e) d).setClose k
      (.returned (werr.map .transport)) with conn := none, mu := false })
    (fun t held q l ht hn => ⟨{ t.setClose k (.scanning e werr l) with pingRequests := q },
      by simp only [step, closeProceed, ht, List.getElem?_set_self hlt,
        Option.bind_eq_bind, Option.some_bind, hn], by simp [ht], rfl, rfl⟩)
    (fun t held d ht hd => ⟨_, by simp only [step, closeProceed, ht,
      List.getElem?_set_self hlt, Option.bind_eq_bind, Option.some_bind, hd], rfl⟩)
    s (set_eq_self_of_getElem? hk).symm
  exact ⟨n, t₀, s', hrun, hp, hat, hq, hd⟩

/-- A `Close` whose close frame has been written, run alone to the end of its
scan, leaves the queue and hands over its `WebsocketCloseError` as
`propagateToAllActiveListener` says, then voids the connection and releases
`mu`. -/
theorem closeProceed_run_eq {k : Nat} {e : WebsocketCloseError} {werr : Option TransportError}
    (hk : s.closes[k]? = some (.scanning e werr none)) :
    ∃ n s', s.run (List.replicate n (.closeProceed k)) = some s' ∧
      s'.pingRequests = (propagateToAllActiveListener s.parked s.pingRequests).1 ∧
      s'.pings = (s.deliver (.close e)
        (propagateToAllActiveListener s.parked s.pingRequests).2.head?).pings ∧
      s'.closes = s.closes.set k (.returned (werr.map .transport)) ∧
      s'.conn = none ∧ s'.mu = false := by
  obtain ⟨n, t₀, s', hrun, hp, ⟨held, hat⟩, hq, rfl⟩ := closeScan_run hk
  refine ⟨n, _, hrun, by simp [propagateToAllActiveListener_eq_first, hq], ?_, by simp [hat],
    rfl, rfl⟩
  rw [propagateToAllActiveListener_eq_first]
  exact (deliver_pings_congr t₀ s hp _ _).trans
    (by cases (propagateToFirstActiveListener s.parked s.pingRequests).2.2 <;> rfl)

theorem closeProceed_run_eq_twoParked :
    ∃ s, newGorillaWebsocketConnectionAdapter.run (twoParkedPings ++ [.closeCall 1000 "" none]) =
      some s ∧ ∃ e werr, s.closes[0]? = some (.scanning e werr none) ∧
      ∃ n s', s.run (List.replicate n (.closeProceed 0)) = some s' ∧
        s'.pingRequests = (propagateToAllActiveListener s.parked s.pingRequests).1 ∧
        s'.pings = (s.deliver (.close e)
          (propagateToAllActiveListener s.parked s.pingRequests).2.head?).pings ∧
        s'.closes = s.closes.set 0 (.returned (werr.map .transport)) ∧
        s'.conn = none ∧ s'.mu = false :=
  ⟨_, rfl, _, _, rfl, closeProceed_run_eq rfl⟩

/-- A `Close` releases exactly one parked `Ping`, the first in queue order,
with its `WebsocketCloseError`, and leaves every other call as it was; the
slots after it stay queued while the handle is void and `mu` is free. With no
parked `Ping` queued it releases none and empties the queue. -/
theorem close_releases_first_parked_ping {k : Nat} {e : WebsocketCloseError}
    {werr : Option TransportError} (hk : s.closes[k]? = some (.scanning e werr none)) :
    ∃ n s', s.run (List.replicate n (.closeProceed k)) = some s' ∧
      s'.closes[k]? = some (.returned (werr.map .transport)) ∧ s'.conn = none ∧
      s'.mu = false ∧
      ((∃ pre x post cx k', s.pingRequests = pre ++ x :: post ∧
          (∀ y ∈ pre, s.parked y = false) ∧ s.pings[x]? = some cx ∧ cx.phase = .waiting k' ∧
          s'.pingRequests = post ∧ s'.pings = s.pings.set x (cx.deliver (.close e))) ∨
        ((∀ y ∈ s.pingRequests, s.parked y = false) ∧ s'.pingRequests = [] ∧
          s'.pings = s.pings)) := by
  have hlt : k < s.closes.length := (List.getElem?_eq_some_iff.mp hk).1
  obtain ⟨n, t₀, s', hrun, hp, ⟨held, hat⟩, hq, rfl⟩ := closeScan_run hk
  refine ⟨n, _, hrun, by simp [hat, hlt], rfl, rfl, ?_⟩
  simp only [setClose, deliver_pingRequests, hq, deliver_pings_congr t₀ s hp]
  exact deliver_first_parked (.close e)

theorem close_releases_first_parked_ping_twoParked :
    ∃ s, newGorillaWebsocketConnectionAdapter.run (twoParkedPings ++ [.closeCall 1000 "" none]) =
      some s ∧ ∃ e werr, s.closes[0]? = some (.scanning e werr none) ∧
      ∃ n s', s.run (List.replicate n (.closeProceed 0)) = some s' ∧
        s'.closes[0]? = some (.returned (werr.map .transport)) ∧ s'.conn = none ∧
        s'.mu = false ∧
        ((∃ pre x post cx k', s.pingRequests = pre ++ x :: post ∧
            (∀ y ∈ pre, s.parked y = false) ∧ s.pings[x]? = some cx ∧ cx.phase = .waiting k' ∧
            s'.pingRequests = post ∧ s'.pings = s.pings.set x (cx.deliver (.close e))) ∨
          ((∀ y ∈ s.pingRequests, s.parked y = false) ∧ s'.pingRequests = [] ∧
            s'.pings = s.pings)) :=
  ⟨_, rfl, _, _, rfl, close_releases_first_parked_ping rfl⟩

/-- A `Close` while two `Ping`s are parked: the first gets the close error, the
second stays parked with its slot queued, after the connection is gone. -/
theorem close_leaves_second_ping_parked :
    ∃ s₀ s, newGorillaWebsocketConnectionAdapter.run twoParkedPings = some s₀ ∧
      s₀.parked 0 = true ∧ s₀.parked 1 = true ∧ s₀.pingRequests = [0, 1] ∧
      s₀.run [.closeCall 1000 "" none, .closeProceed 0, .closeProceed 0] = some s ∧
      (s.pings[0]?).map (·.phase) = some (.returned (some (.closeError
        { code := 1000, reason := "", err := "client closed the connection" }))) ∧
      s.parked 1 = true ∧ s.pingRequests = [1] ∧ s.conn = none ∧ s.closes = [.returned none] :=
  ⟨_, _, rfl, rfl, rfl, rfl, rfl, rfl, rfl, rfl, rfl, rfl⟩

/-- After that `Close`, a new connection and its first pong. -/
def pongOnNextConnection : List Event :=
  twoParkedPings ++ [.closeCall 1000 "" none, .closeProceed 0, .closeProceed 0,
    .dial false (some 101) none, .readCall false, .readIncoming 0 .pong, .readProceed 0,
    .readProceed 0]

/-- The second `Ping` wrote its frame on the first connection and returns nil,
released by the first pong read on the second connection; no pong was ever
read on the first. -/
theorem ping_ok_by_pong_on_next_connection :
    ∃ s, newGorillaWebsocketConnectionAdapter.run pongOnNextConnection = some s ∧
      (s.pings[1]?).map (·.phase) = some (.returned none) ∧
      (s.pings[1]?).map (·.sentOn) = some (some 0) ∧
      (s.pings[1]?).map (·.pongFrom) = some (some 0) ∧ s.pongLog = [1] :=
  ⟨_, rfl, rfl, rfl, rfl, rfl⟩

/-! ### Two scans at once -/

end WsAdapter
