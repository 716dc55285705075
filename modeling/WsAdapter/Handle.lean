import WsAdapter.Scan

/-!
The connection handle and the mutex.

A `Close` holds `mu` from its critical section to the end of its scan, so no
two `Close` calls scan at once and no other critical section runs meanwhile.
(Go also holds `mu` across the transport calls of `Dial`, `Write` and `Close`;
each is one step here, so nothing is said of how long those hold it.) The
handle changes in
three ways only: `Dial` binds a new connection where none is bound, the end of
a `Close` voids it, and a `Read` whose `ReadMessage` returned a close error
voids it, outside the mutex. That last write does not look at which connection
is bound: a `Read` blocked on a connection that a `Close` and a `Dial` have
since replaced voids the new one when the old one reports its close. Once the
handle is void, it stays so until a `Dial` succeeds, and every other method
fails meanwhile for want of a connection.
-/

namespace WsAdapter

open GorillaWebsocketConnectionAdapter

variable {s s' : GorillaWebsocketConnectionAdapter} {e : Event}

namespace ClosePhase

/-- Holding `mu`, between the close frame and the end of the scan. -/
def isScanning : ClosePhase → Bool
  | .scanning _ _ _ => true
  | .returned _ => false

end ClosePhase

@[simp] theorem deliver_mu (sig : Signal) (d : Option PingId) : (s.deliver sig d).mu = s.mu := by
  unfold deliver; split <;> (try split) <;> rfl

/-! ### The mutex -/

/-- In the model `mu` is held exactly while one `Close` runs its scan: every
other critical section is a single step. -/
def MuHeldByClose (s : GorillaWebsocketConnectionAdapter) : Prop :=
  s.closes.countP ClosePhase.isScanning = if s.mu then 1 else 0

theorem muHeldByClose_step (hs : MuHeldByClose s) (h : s.step e = some s') :
    MuHeldByClose s' := by
  cases Transition.of_step h with
  | readScanExit => simpa [MuHeldByClose] using hs
  | closeFail _ _ _ hmu _ | closeStart _ _ _ hmu _ =>
    simpa [MuHeldByClose, ClosePhase.isScanning, hmu] using hs
  | closeScan k ce werr held q l hk _ =>
    simpa [MuHeldByClose, countP_set_eq ClosePhase.isScanning (.scanning ce werr l) hk rfl]
      using hs
  | closeScanExit k ce werr held d hk _ =>
    have hset := countP_set_of_getElem? ClosePhase.isScanning
      (.returned (werr.map .transport)) hk
    have hpos : 0 < s.closes.countP ClosePhase.isScanning :=
      List.countP_pos_iff.mpr ⟨_, List.getElem?_mem hk, rfl⟩
    unfold MuHeldByClose at hs ⊢
    simp only [ClosePhase.isScanning, if_true, Bool.false_eq_true, if_false] at hset
    simp only [setClose, deliver_closes, Bool.false_eq_true, if_false]
    split_ifs at hs <;> omega
  | _ => exact hs

theorem muHeldByClose_of_reachable (hs : Reachable s) : MuHeldByClose s :=
  Reachable.induction rfl (fun _ _ _ _ ht h => muHeldByClose_step ht h) hs

/-- In every reachable state at most one `Close` is between its close-frame
write and the end of its scan, and while one is, it holds `mu`: no `Dial`,
`Write` or new `Read` with a live context, no
`GetUnderlyingWebsocketConnection`, no other `Close` and no `Ping` at its
critical section can take a step. -/
theorem close_scan_holds_mu (hs : Reachable s) :
    s.closes.countP ClosePhase.isScanning ≤ 1 ∧
    ∀ (k : Nat) (ce : WebsocketCloseError) (werr : Option TransportError)
      (held : Option PingId), s.closes[k]? = some (.scanning ce werr held) →
      s.mu = true ∧ (∀ res err, s.dial false res err = none) ∧
      (∀ err, s.write false err = none) ∧ s.getUnderlyingWebsocketConnection = none ∧
      s.readCall false = none ∧ (∀ code reason err, s.closeCall code reason err = none) ∧
      ∀ p c, s.pings[p]? = some c → c.phase = .locking → s.pingProceed p = none := by
  have hmu := muHeldByClose_of_reachable hs
  unfold MuHeldByClose at hmu
  refine ⟨by split_ifs at hmu <;> omega, fun k ce werr held hk => ?_⟩
  have hm : s.mu = true := by
    have hpos : 0 < s.closes.countP ClosePhase.isScanning :=
      List.countP_pos_iff.mpr ⟨_, List.getElem?_mem hk, rfl⟩
    rw [hmu] at hpos
    split_ifs at hpos with h
    · exact h
    · omega
  refine ⟨hm, fun res err => ?_, fun err => ?_, ?_, ?_, fun code reason err => ?_,
    fun p c hc hph => by simp [pingProceed, hc, hph, hm]⟩ <;>
    simp [dial, write, getUnderlyingWebsocketConnection, readCall, closeCall, hm]

theorem close_scan_holds_mu_twoParked :
    ∃ s, newGorillaWebsocketConnectionAdapter.run
        (twoParkedPings ++ [.closeCall 1000 "" none]) = some s ∧
      s.closes[0]? = some (.scanning
        { code := 1000, reason := "", err := "client closed the connection" } none none) ∧
      (s.closes.countP ClosePhase.isScanning ≤ 1 ∧
      ∀ (k : Nat) (ce : WebsocketCloseError) (werr : Option TransportError)
        (held : Option PingId), s.closes[k]? = some (.scanning ce werr held) →
        s.mu = true ∧ (∀ res err, s.dial false res err = none) ∧
        (∀ err, s.write false err = none) ∧ s.getUnderlyingWebsocketConnection = none ∧
        s.readCall false = none ∧ (∀ code reason err, s.closeCall code reason err = none) ∧
        ∀ p c, s.pings[p]? = some c → c.phase = .locking → s.pingProceed p = none) :=
  ⟨_, rfl, rfl, close_scan_holds_mu ⟨twoParkedPings ++ [Event.closeCall 1000 "" none], rfl⟩⟩

/-! ### The handle -/

/-- What a step does to the handle: nothing; the bind of a `Dial` where none
is bound; or a void, by the end of a `Close`'s scan or by a `Read`'s
`adapter.conn = nil`. -/
theorem step_conn (h : s.step e = some s') :
    s'.conn = s.conn ∨
    (s.conn = none ∧ s'.conn = some s.dials ∧ ∃ res, e = .dial false res none) ∨
    (s'.conn = none ∧
      ∃ k ce werr held, e = .closeProceed k ∧ s.closes[k]? = some (.scanning ce werr held)) ∨
    (s'.conn = none ∧ ∃ r c ce, e = .readProceed r ∧ s.reads[r]? = some (.unbinding c ce)) := by
  cases Transition.of_step h with
  | dialBind res hc _ => exact .inr (.inl ⟨hc, rfl, res, rfl⟩)
  | readScanExit => exact .inl (deliver_conn _ _)
  | readUnbind r k ce hr => exact .inr (.inr (.inr ⟨rfl, r, k, ce, rfl, hr⟩))
  | closeScanExit k ce werr held d hk _ =>
    exact .inr (.inr (.inl ⟨rfl, k, ce, werr, held, rfl, hk⟩))
  | _ => exact .inl rfl

/-- The handle changes only when `Dial` binds a new connection where none is
bound, when a `Close` ends its scan, and when a `Read` whose `ReadMessage`
returned a close error runs `adapter.conn = nil`; that `Read` may have read any
connection. -/
theorem conn_step (h : s.step e = some s') (hne : s'.conn ≠ s.conn) :
    (s.conn = none ∧ s'.conn = some s.dials ∧ ∃ res, e = .dial false res none) ∨
    (s'.conn = none ∧
      ∃ k ce werr held, e = .closeProceed k ∧ s.closes[k]? = some (.scanning ce werr held)) ∨
    (s'.conn = none ∧ ∃ r c ce, e = .readProceed r ∧ s.reads[r]? = some (.unbinding c ce)) :=
  (step_conn h).resolve_left hne

/-- A `Read` blocked on the first connection while a `Close` and a `Dial`
replace it; then the close frame the server sends back on the first. -/
def readAcrossRedial : List Event :=
  [.dial false (some 101) none, .readCall false, .closeCall 1000 "" none, .closeProceed 0,
    .dial false (some 101) none,
    .readIncoming 0 (.close 1000 "" "websocket: close 1000 (normal)"), .readProceed 0]

theorem conn_step_readAcrossRedial :
    ∃ s s', newGorillaWebsocketConnectionAdapter.run readAcrossRedial = some s ∧
      s.step (.readProceed 0) = some s' ∧ s'.conn ≠ s.conn ∧
      ((s.conn = none ∧ s'.conn = some s.dials ∧
          ∃ res, Event.readProceed 0 = .dial false res none) ∨
        (s'.conn = none ∧ ∃ k ce werr held, Event.readProceed 0 = .closeProceed k ∧
          s.closes[k]? = some (.scanning ce werr held)) ∨
        (s'.conn = none ∧ ∃ r c ce, Event.readProceed 0 = .readProceed r ∧
          s.reads[r]? = some (.unbinding c ce))) :=
  ⟨_, _, rfl, rfl, by decide, conn_step rfl (by decide)⟩

/-- The `Read` that captured connection 0 voids the handle while connection 1
is bound. -/
theorem read_unbinds_next_connection :
    ∃ s s', newGorillaWebsocketConnectionAdapter.run readAcrossRedial = some s ∧
      s.conn = some 1 ∧
      s.reads[0]? = some (.unbinding 0
        ⟨1000, "websocket: close 1000 (normal)", "websocket: close 1000 (normal)"⟩) ∧
      s.step (.readProceed 0) = some s' ∧ s'.conn = none :=
  ⟨_, _, rfl, rfl, rfl, rfl, rfl⟩

/-- A void handle stays void along any run with no successful `Dial`. -/
theorem conn_none_run {evs : List Event} (h : s.run evs = some s') (h0 : s.conn = none)
    (hno : ∀ res, Event.dial false res none ∉ evs) : s'.conn = none := by
  induction evs generalizing s with
  | nil => cases h; exact h0
  | cons e es ih =>
    obtain ⟨t, ht, h⟩ := Option.bind_eq_some.mp h
    refine ih h ?_ (fun res hm => hno res (List.mem_cons_of_mem e hm))
    rcases step_conn ht with hc | ⟨-, -, res, rfl⟩ | ⟨hc, -⟩ | ⟨hc, -⟩
    · rw [hc, h0]
    · exact absurd (List.mem_cons_self _ _) (hno res)
    · exact hc
    · exact hc

/-- Once the handle is void, and until a `Dial` succeeds, every `Write`, every
new `Read`, every `Close` and every `Ping` that gets past its critical section
fails for want of a connection, each with its own error. -/
theorem unbound_until_dial {evs : List Event} (h : s.run evs = some s') (h0 : s.conn = none)
    (hno : ∀ res, Event.dial false res none ∉ evs) :
    s'.conn = none ∧
    (∀ err r, s'.write false err = some r →
      r = some (.errorf "write failed because no connection is already up")) ∧
    (∀ t, s'.readCall false = some t → t.reads = s'.reads ++
      [.returned (-1) [] (some (.errorf "read failed because no connection is already up"))]) ∧
    (∀ code reason err t, s'.closeCall code reason err = some t → t.closes = s'.closes ++
      [.returned (some (.errorf "close failed because no connection is already up"))]) ∧
    (∀ p c t, s'.pings[p]? = some c → c.phase = .locking → s'.pingProceed p = some t →
      (t.pings[p]?).map (·.phase) =
        some (.returned (some (.errorf "ping failed because no connection is already up")))) := by
  have hc := conn_none_run h h0 hno
  refine ⟨hc, fun err r hw => ?_, fun t ht => ?_, fun code reason err t ht => ?_,
    fun p c t hp hph ht => ?_⟩
  · simp only [write, hc, Bool.false_eq_true, if_false] at hw
    split at hw
    · cases hw
    · exact (Option.some.inj hw).symm
  · simp only [readCall, hc, Bool.false_eq_true, if_false] at ht
    split at ht
    · cases ht
    · cases ht; rfl
  · obtain ⟨-, ⟨-, rfl⟩ | ⟨hs, -⟩⟩ := closeCall_cases ht
    · rfl
    · simp [hc] at hs
  · have hlt : p < s'.pings.length := (List.getElem?_eq_some_iff.mp hp).1
    simp only [pingProceed, hp, hph, hc, Option.bind_eq_bind, Option.some_bind] at ht
    split at ht
    · cases ht
    · cases ht; simp [hlt]

/-- A `Close`, then a `Write`, a `Read` and a `Dial` whose handshake fails. -/
theorem unbound_until_dial_closed :
    ∃ s s', newGorillaWebsocketConnectionAdapter.run
        [.dial false (some 101) none, .closeCall 1000 "" none, .closeProceed 0] = some s ∧
      s.run [.write false none, .readCall false, .dial false (some 400) (some ⟨"bad handshake"⟩)] =
        some s' ∧
      ∀ t, s.run [.write false none, .readCall false,
        .dial false (some 400) (some ⟨"bad handshake"⟩)] = some t →
      (t.conn = none ∧
      (∀ err r, t.write false err = some r →
        r = some (.errorf "write failed because no connection is already up")) ∧
      (∀ u, t.readCall false = some u → u.reads = t.reads ++
        [.returned (-1) [] (some (.errorf "read failed because no connection is already up"))]) ∧
      (∀ code reason err u, t.closeCall code reason err = some u → u.closes = t.closes ++
        [.returned (some (.errorf "close failed because no connection is already up"))]) ∧
      (∀ p c u, t.pings[p]? = some c → c.phase = .locking → t.pingProceed p = some u →
        (u.pings[p]?).map (·.phase) =
          some (.returned (some (.errorf "ping failed because no connection is already up"))))) :=
  ⟨_, _, rfl, rfl, fun _ ht => unbound_until_dial ht rfl (by simp)⟩

end WsAdapter
