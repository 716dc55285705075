import WsAdapter.Scan
import WsAdapter.Slots

/-!
The loop that calls `Read` again and again, as the frames come in.

Each pong read runs `pongHandler`'s scan, which drops the slots of calls that
are no longer parked and releases the first parked `Ping` in queue order, then
goes back to `ReadMessage`. So a parked `Ping` whose slot is queued at position
`i` returns nil after at most `i + 1` pongs: every pong before it consumes at
least the slot at the head. A close frame ends the loop: `closeHandler`'s scan
releases at most one parked `Ping`, and `Read` returns the `CloseError` and
voids the handle.
-/

namespace WsAdapter

open GorillaWebsocketConnectionAdapter

variable {s : GorillaWebsocketConnectionAdapter}

/-- One turn of the loop on a pong: `ReadMessage` reads it, `pongHandler`
scans, and `Read` is back in `ReadMessage`. -/
theorem pong_cycle {r : Nat} {k : ConnId} (hr : s.reads[r]? = some (.reading k)) :
    ∃ n s', s.run (.readIncoming r .pong :: List.replicate n (.readProceed r)) = some s' ∧
      s'.reads[r]? = some (.reading k) ∧
      ((∃ pre x post cx k', s.pingRequests = pre ++ x :: post ∧
          (∀ y ∈ pre, s.parked y = false) ∧ s.pings[x]? = some cx ∧ cx.phase = .waiting k' ∧
          s'.pingRequests = post ∧ s'.pings = s.pings.set x (cx.deliver (.pong s.pongLog.length))) ∨
        ((∀ y ∈ s.pingRequests, s.parked y = false) ∧ s'.pingRequests = [] ∧
          s'.pings = s.pings)) := by
  have hlt : r < s.reads.length := (List.getElem?_eq_some_iff.mp hr).1
  obtain ⟨t, ht, htr, htp, htq⟩ : ∃ t, s.step (.readIncoming r .pong) = some t ∧
      t.reads[r]? = some (.handling k (.pong s.pongLog.length) none) ∧
      t.pings = s.pings ∧ t.pingRequests = s.pingRequests :=
    ⟨{ s.setRead r (.handling k (.pong s.pongLog.length) none) with
      pongLog := s.pongLog ++ [k] }, by simp [step, readIncoming, hr], by simp [hlt], rfl, rfl⟩
  obtain ⟨n, s', hrun, hr', hcases⟩ := readScan_first_parked htr
  rw [htq, parked_congr_pings htp, htp] at hcases
  exact ⟨n, s', by simp [ht, hrun], hr', hcases⟩

/-- Where the entry at `i` of `pre ++ y :: post` is neither in `pre` nor `y`,
it sits in `post`, earlier than `i`. -/
theorem getElem?_post {α : Type} {pre post : List α} {y x : α} {i : Nat}
    (hi : (pre ++ y :: post)[i]? = some x) (hpre : x ∉ pre) (hy : y ≠ x) :
    ∃ j < i, post[j]? = some x := by
  by_cases hlt : i < pre.length
  · rw [List.getElem?_append_left hlt] at hi
    exact absurd (List.getElem?_mem hi) hpre
  · rw [List.getElem?_append_right (by omega)] at hi
    obtain ⟨j, hj⟩ : ∃ j, i - pre.length = j + 1 := by
      cases hij : i - pre.length with
      | zero => rw [hij, List.getElem?_cons_zero] at hi; exact absurd (Option.some.inj hi) hy
      | succ j => exact ⟨j, rfl⟩
    rw [hj, List.getElem?_cons_succ] at hi
    exact ⟨j, by omega, hi⟩

/-- While pongs come in and nothing else runs, a parked `Ping` whose slot is
queued at position `i` returns nil within `i + 1` pongs handled by the `Read`
loop. -/
theorem parked_ping_released_within_pongs {r : Nat} {k : ConnId} {x : PingId} (i : Nat)
    (hr : s.reads[r]? = some (.reading k)) (hx : s.parked x = true)
    (hi : s.pingRequests[i]? = some x) :
    ∃ evs s', s.run evs = some s' ∧
      (∀ e ∈ evs, e = .readIncoming r .pong ∨ e = .readProceed r) ∧
      evs.count (.readIncoming r .pong) ≤ i + 1 ∧
      (s'.pings[x]?).map (·.phase) = some (.returned none) := by
  induction i using Nat.strong_induction_on generalizing s with
  | _ i ih =>
  obtain ⟨n, t, hrun, htr, hcases⟩ := pong_cycle hr
  have hev : ∀ e ∈ Event.readIncoming r .pong :: List.replicate n (.readProceed r),
      e = .readIncoming r .pong ∨ e = .readProceed r := by
    simp +contextual [List.mem_replicate]
  have hcnt : (Event.readIncoming r .pong :: List.replicate n (.readProceed r)).count
      (.readIncoming r .pong) = 1 := by
    simp [List.count_cons, List.count_replicate]
  rcases hcases with ⟨pre, y, post, cy, ky, hq, hpre, hcy, hwy, hpost, hpings⟩ | ⟨hall, -, -⟩
  · by_cases hyx : y = x
    · subst hyx
      refine ⟨_, t, hrun, hev, by omega, ?_⟩
      simp [hpings, (List.getElem?_eq_some_iff.mp hcy).1, PingCall.deliver, Signal.notification]
    · have hxpre : x ∉ pre := fun hm => by simp [hpre x hm] at hx
      obtain ⟨j, hj, hpj⟩ := getElem?_post (hq ▸ hi) hxpre hyx
      have hx' : t.parked x = true :=
        (parked_congr (show t.pings[x]? = s.pings[x]? by rw [hpings, List.getElem?_set_ne hyx])).trans hx
      obtain ⟨evs, s', hrun', hev', hcnt', hret⟩ := ih j hj htr hx' (hpost ▸ hpj)
      refine ⟨_ ++ evs, s', by rw [run_append, hrun]; exact hrun', ?_, ?_, hret⟩
      · exact fun e he => (List.mem_append.mp he).elim (hev e) (hev' e)
      · rw [List.count_append, hcnt]
        omega
  · exact absurd (hall x (List.getElem?_mem hi)) (by simp [hx])

/-- A close frame read by the loop: `closeHandler`'s scan releases the first
parked `Ping` in queue order with `closeHandler`'s `WebsocketCloseError`, and no
other; then `Read` voids the handle, whatever connection it holds, and returns
a `CloseError` made of the code and of the error's text. -/
theorem remote_close_releases_first_parked_ping {r : Nat} {k : ConnId} {code : Nat}
    {text errText : String} (hr : s.reads[r]? = some (.reading k)) :
    ∃ n s', s.run (.readIncoming r (.close code text errText) ::
        List.replicate (n + 1) (.readProceed r)) = some s' ∧
      s'.reads[r]? = some (.returned (-1) [] (some (.closeError
        { code, reason := errText, err := errText }))) ∧
      s'.conn = none ∧
      ((∃ pre x post cx k', s.pingRequests = pre ++ x :: post ∧
          (∀ y ∈ pre, s.parked y = false) ∧ s.pings[x]? = some cx ∧ cx.phase = .waiting k' ∧
          s'.pingRequests = post ∧ s'.pings = s.pings.set x (cx.deliver (closeHandler code text))) ∨
        ((∀ y ∈ s.pingRequests, s.parked y = false) ∧ s'.pingRequests = [] ∧
          s'.pings = s.pings)) := by
  have hlt : r < s.reads.length := (List.getElem?_eq_some_iff.mp hr).1
  obtain ⟨t, ht, htr, htp, htq⟩ : ∃ t, s.step (.readIncoming r (.close code text errText)) =
      some t ∧ t.reads[r]? = some (.handling k (.close code text errText) none) ∧
      t.pings = s.pings ∧ t.pingRequests = s.pingRequests :=
    ⟨s.setRead r (.handling k (.close code text errText) none),
      by simp [step, readIncoming, hr], by simp [hlt], rfl, rfl⟩
  obtain ⟨n, t', hrun, hr', hcases⟩ := readScan_first_parked htr
  rw [htq, parked_congr_pings htp, htp] at hcases
  have hlt' : r < t'.reads.length := (List.getElem?_eq_some_iff.mp hr').1
  refine ⟨n, { t'.setRead r (.returned (-1) [] (some (.closeError
    { code, reason := errText, err := errText }))) with conn := none }, ?_, by simp [hlt'], rfl,
    by simpa only [setRead, Handler.signal] using hcases⟩
  rw [List.replicate_succ', ← List.cons_append, run_append, run_cons, ht, Option.some_bind, hrun,
    Option.some_bind]
  simp [step, readProceed, hr', Handler.after]

theorem remote_close_releases_first_parked_ping_twoParked :
    ∃ s, newGorillaWebsocketConnectionAdapter.run (twoParkedPings ++ [.readCall false]) =
      some s ∧ s.reads[0]? = some (.reading 0) ∧
      ∃ n s', s.run (.readIncoming 0 (.close 1000 "" "websocket: close 1000 (normal)") ::
          List.replicate (n + 1) (.readProceed 0)) = some s' ∧
        s'.reads[0]? = some (.returned (-1) [] (some (.closeError
          { code := 1000, reason := "websocket: close 1000 (normal)",
            err := "websocket: close 1000 (normal)" }))) ∧
        s'.conn = none ∧
        ((∃ pre x post cx k', s.pingRequests = pre ++ x :: post ∧
            (∀ y ∈ pre, s.parked y = false) ∧ s.pings[x]? = some cx ∧ cx.phase = .waiting k' ∧
            s'.pingRequests = post ∧ s'.pings = s.pings.set x (cx.deliver (closeHandler 1000 ""))) ∨
          ((∀ y ∈ s.pingRequests, s.parked y = false) ∧ s'.pingRequests = [] ∧
            s'.pings = s.pings)) :=
  ⟨_, rfl, rfl, remote_close_releases_first_parked_ping rfl⟩

theorem parked_ping_released_within_pongs_twoParked :
    ∃ s, newGorillaWebsocketConnectionAdapter.run (twoParkedPings ++ [.readCall false]) =
      some s ∧ s.reads[0]? = some (.reading 0) ∧ s.parked 1 = true ∧
      s.pingRequests[1]? = some 1 ∧
      ∃ evs s', s.run evs = some s' ∧
        (∀ e ∈ evs, e = .readIncoming 0 .pong ∨ e = .readProceed 0) ∧
        evs.count (.readIncoming 0 .pong) ≤ 1 + 1 ∧
        (s'.pings[1]?).map (·.phase) = some (.returned none) :=
  ⟨_, rfl, rfl, rfl, rfl, parked_ping_released_within_pongs 1 rfl rfl rfl⟩

end WsAdapter
