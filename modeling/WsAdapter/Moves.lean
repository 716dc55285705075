import WsAdapter.Step

/-!
What one step can do, said once for every invariant after it.

A step of a `Ping` call's own goroutine changes that call only, and at most
appends its own slot to `pingRequests`: `PingMove` lists these moves. A scan
step (of a `Read` handler or of a `Close`) takes the head of the queue, drops a
listener whose `Ping` is not parked, or ends, handing its signal to a parked
`Ping`: `deliver_parked` says what that hand-over does. Every other step
touches neither the calls of `Ping` nor the queue.

`Transition` says all of this once, event by event, with the state each step
leaves written as an update of the one before: the invariants that follow name
only the transitions that write their fields.
-/

namespace WsAdapter

namespace PingPhase

/-- Blocked in the select that sends `pong` on `pingRequests`. -/
def isRegistering : PingPhase → Bool
  | .registering _ => true
  | _ => false

end PingPhase

namespace ReadPhase

/-- Running the scan of `pongHandler`. -/
def isPongScan : ReadPhase → Bool
  | .handling _ (.pong _) _ => true
  | _ => false

/-- The listener the handler's scan has received and not yet tried. -/
def held : ReadPhase → Option PingId
  | .handling _ _ l => l
  | _ => none

end ReadPhase

namespace ClosePhase

/-- The listener the scan of `Close` has received and not yet tried. -/
def held : ClosePhase → Option PingId
  | .scanning _ _ l => l
  | _ => none

end ClosePhase

/-- The listeners that scans have received from `pingRequests` and not yet
tried. -/
def GorillaWebsocketConnectionAdapter.heldSlots (s : GorillaWebsocketConnectionAdapter) :
    List PingId :=
  s.reads.filterMap ReadPhase.held ++ s.closes.filterMap ClosePhase.held

open GorillaWebsocketConnectionAdapter

variable {s s' : GorillaWebsocketConnectionAdapter} {p : PingId}

/-- The moves of the goroutine of `Ping` `p` from call `c` to call `c'`, with
the queue it leaves. -/
inductive PingMove (s : GorillaWebsocketConnectionAdapter) (p : PingId) :
    PingCall → PingCall → List PingId → Prop
  | cancel (c : PingCall) : PingMove s p c { c with ctxDone := true } s.pingRequests
  | start (c : PingCall) : c.phase = .start →
    PingMove s p c
      { c with phase := if c.ctxDone then .returned (some .contextDone) else .locking }
      s.pingRequests
  | lock (c : PingCall) : c.phase = .locking → s.mu = false →
    PingMove s p c
      { c with phase := match s.conn with
        | none => .returned (some (.errorf "ping failed because no connection is already up"))
        | some k => .registering k }
      s.pingRequests
  | register (c : PingCall) (k : ConnId) : c.phase = .registering k →
    s.pingRequests.length < pingRequestsCapacity →
    PingMove s p c { c with phase := .sending k } (s.pingRequests ++ [p])
  | written (c : PingCall) (k : ConnId) : c.phase = .sending k →
    PingMove s p c { c with phase := .sent k, sentOn := some k, sentAt := s.pongLog.length }
      s.pingRequests
  | writeFailed (c : PingCall) (k : ConnId) (e : TransportError) : c.phase = .sending k →
    PingMove s p c { c with phase := .returned (some (.pingFailed e)) } s.pingRequests
  | park (c : PingCall) (k : ConnId) : c.phase = .sent k →
    PingMove s p c
      { c with phase := if c.ctxDone then .returned (some .contextDone) else .waiting k }
      s.pingRequests
  | contextDone (c : PingCall) :
    (c.phase.isRegistering = true ∨ c.phase.isWaiting = true) → c.ctxDone = true →
    PingMove s p c { c with phase := .returned (some .contextDone) } s.pingRequests

/-- A step of the goroutine of `Ping` `p`: one `PingMove`, and nothing else. -/
def PingStep (s : GorillaWebsocketConnectionAdapter) (p : PingId)
    (s' : GorillaWebsocketConnectionAdapter) : Prop :=
  ∃ c c' q, s.pings[p]? = some c ∧ PingMove s p c c' q ∧
    s' = { s with pings := s.pings.set p c', pingRequests := q }

theorem pingCancel_step (h : s.pingCancel p = some s') : PingStep s p s' := by
  obtain ⟨c, hc, rfl⟩ := Option.map_eq_some'.mp h
  exact ⟨c, _, _, hc, .cancel c, rfl⟩

theorem pingProceed_step (h : s.pingProceed p = some s') : PingStep s p s' := by
  simp only [pingProceed, Option.bind_eq_bind, Option.bind_eq_some] at h
  obtain ⟨c, hc, h⟩ := h
  refine ⟨c, ?_⟩
  cases hph : c.phase <;> simp only [hph] at h
  · exact ⟨_, _, hc, .start c hph, (Option.some.inj h).symm⟩
  · split at h
    · cases h
    · rename_i hmu
      exact ⟨_, _, hc, .lock c hph (by simpa using hmu), (Option.some.inj h).symm⟩
  · split at h
    · exact ⟨_, _, hc, .register c _ hph ‹_›, (Option.some.inj h).symm⟩
    · cases h
  all_goals first
    | exact ⟨_, _, hc, .park c _ hph, (Option.some.inj h).symm⟩
    | cases h

theorem pingContextDone_step (h : s.pingContextDone p = some s') : PingStep s p s' := by
  simp only [pingContextDone, Option.bind_eq_bind, Option.bind_eq_some] at h
  obtain ⟨c, hc, h⟩ := h
  split at h
  · exact ⟨c, _, _, hc, .contextDone c (.inl (by simp [*, PingPhase.isRegistering])) ‹_›,
      (Option.some.inj h).symm⟩
  · exact ⟨c, _, _, hc, .contextDone c (.inr (by simp [*, PingPhase.isWaiting])) ‹_›,
      (Option.some.inj h).symm⟩
  · cases h

theorem pingWrite_step {err : Option TransportError} (h : s.pingWrite p err = some s') :
    PingStep s p s' := by
  simp only [pingWrite, Option.bind_eq_bind, Option.bind_eq_some] at h
  obtain ⟨c, hc, h⟩ := h
  cases hph : c.phase <;> cases err <;> simp only [hph] at h <;> try cases h
  · exact ⟨c, _, _, hc, .written c _ hph, rfl⟩
  · exact ⟨c, _, _, hc, .writeFailed c _ _ hph, rfl⟩

/-- The `Ping` whose goroutine an event is a step of. -/
def Event.pingOf : Event → Option PingId
  | .pingCancel p | .pingProceed p | .pingContextDone p | .pingWrite p _ => some p
  | _ => none

theorem pingStep_of_step {e : Event} (h : s.step e = some s') (he : e.pingOf = some p) :
    PingStep s p s' := by
  cases e with
  | pingCancel => cases he; exact pingCancel_step h
  | pingProceed => cases he; exact pingProceed_step h
  | pingContextDone => cases he; exact pingContextDone_step h
  | pingWrite => cases he; exact pingWrite_step h
  | _ => cases he

@[simp] theorem deliver_reads (sig : Signal) (d : Option PingId) :
    (s.deliver sig d).reads = s.reads := by
  unfold deliver; split <;> (try split) <;> rfl

@[simp] theorem deliver_pongLog (sig : Signal) (d : Option PingId) :
    (s.deliver sig d).pongLog = s.pongLog := by
  unfold deliver; split <;> (try split) <;> rfl

@[simp] theorem deliver_pingRequests (sig : Signal) (d : Option PingId) :
    (s.deliver sig d).pingRequests = s.pingRequests := by
  unfold deliver; split <;> (try split) <;> rfl

@[simp] theorem deliver_closes (sig : Signal) (d : Option PingId) :
    (s.deliver sig d).closes = s.closes := by
  unfold deliver; split <;> (try split) <;> rfl

@[simp] theorem deliver_conn (sig : Signal) (d : Option PingId) :
    (s.deliver sig d).conn = s.conn := by
  unfold deliver; split <;> (try split) <;> rfl

/-- A scan hands its signal to the listener it holds only if that `Ping` is
parked, and the hand-over moves that call alone. -/
theorem deliver_parked (sig : Signal) {x : PingId} (hx : s.parked x = true) :
    ∃ c k, s.pings[x]? = some c ∧ c.phase = .waiting k ∧
      s.deliver sig (some x) = s.setPing x (c.deliver sig) := by
  simp only [parked] at hx
  split at hx
  · rename_i c hc
    cases hph : c.phase <;> simp [hph, PingPhase.isWaiting] at hx
    exact ⟨c, _, hc, hph, by simp only [deliver, hc]⟩
  · cases hx

/-- A scan that ends either had nothing to hand over or handed its signal to a
parked `Ping`. -/
theorem deliver_of_exit (sig : Signal) {held d : Option PingId}
    (h : scanOp s.parked s.pingRequests held = .exit d) :
    s.deliver sig d = s ∨ ∃ x c k, held = some x ∧ s.pings[x]? = some c ∧
      c.phase = .waiting k ∧ s.deliver sig d = s.setPing x (c.deliver sig) := by
  rcases scanOp_eq_exit h with ⟨-, -, rfl⟩ | ⟨x, rfl, hx, rfl⟩
  · exact .inl rfl
  · obtain ⟨c, k, hc, hw, hd⟩ := deliver_parked sig hx
    exact .inr ⟨x, c, k, rfl, hc, hw, hd⟩

theorem mem_heldSlots_of_read {r k : Nat} {hd : Handler} {x : PingId}
    (h : s.reads[r]? = some (.handling k hd (some x))) : x ∈ s.heldSlots :=
  List.mem_append_left _ (List.mem_filterMap.mpr ⟨_, List.getElem?_mem h, rfl⟩)

theorem mem_heldSlots_of_close {k : Nat} {e : WebsocketCloseError}
    {werr : Option TransportError} {x : PingId}
    (h : s.closes[k]? = some (.scanning e werr (some x))) : x ∈ s.heldSlots :=
  List.mem_append_right _ (List.mem_filterMap.mpr ⟨_, List.getElem?_mem h, rfl⟩)

theorem readProceed_cases {r : Nat} (h : s.readProceed r = some s') :
    (∃ k hd held q l, s.reads[r]? = some (.handling k hd held) ∧
      scanOp s.parked s.pingRequests held = .next q l ∧
      s' = { s.setRead r (.handling k hd l) with pingRequests := q }) ∨
    (∃ k hd held d, s.reads[r]? = some (.handling k hd held) ∧
      scanOp s.parked s.pingRequests held = .exit d ∧
      s' = (s.deliver hd.signal d).setRead r (hd.after k)) ∨
    (∃ k e, s.reads[r]? = some (.unbinding k e) ∧
      s' = { s.setRead r (.returned (-1) [] (some (.closeError e))) with conn := none }) := by
  simp only [readProceed, Option.bind_eq_bind, Option.bind_eq_some] at h
  obtain ⟨ph, hph, h⟩ := h
  cases ph <;> simp only [Option.some.injEq] at h <;> try (cases h; done)
  · rename_i k hd held
    split at h
    · exact .inl ⟨k, hd, held, _, _, hph, ‹_›, h.symm⟩
    · exact .inr (.inl ⟨k, hd, held, _, hph, ‹_›, h.symm⟩)
  · exact .inr (.inr ⟨_, _, hph, h.symm⟩)

theorem closeProceed_cases {k : Nat} (h : s.closeProceed k = some s') :
    ∃ e werr held, s.closes[k]? = some (.scanning e werr held) ∧
      ((∃ q l, scanOp s.parked s.pingRequests held = .next q l ∧
          s' = { s.setClose k (.scanning e werr l) with pingRequests := q }) ∨
        (∃ d, scanOp s.parked s.pingRequests held = .exit d ∧
          s' = { (s.deliver (.close e) d).setClose k (.returned (werr.map .transport)) with
            conn := none, mu := false })) := by
  simp only [closeProceed, Option.bind_eq_bind, Option.bind_eq_some] at h
  obtain ⟨ph, hph, h⟩ := h
  cases ph <;> simp only [Option.some.injEq] at h <;> try (cases h; done)
  rename_i e werr held
  refine ⟨e, werr, held, hph, ?_⟩
  split at h
  · exact .inl ⟨_, _, ‹_›, h.symm⟩
  · exact .inr ⟨_, ‹_›, h.symm⟩

theorem dial_some {ctxDone : Bool} {res : Option Nat} {err : Option TransportError}
    {out : Option Nat × Option AdapterError} (h : s.dial ctxDone res err = some (s', out)) :
    s' = s ∨ (s.conn = none ∧ s.mu = false ∧ ctxDone = false ∧ err = none ∧
      s' = { s with conn := some s.dials, dials := s.dials + 1 }) := by
  simp only [dial] at h
  split at h
  · exact .inl (by cases h; rfl)
  · split at h
    · cases h
    · split at h <;> cases h
      · exact .inl rfl
      · exact .inl rfl
      · exact .inr ⟨‹_›, by simpa using ‹¬s.mu = true›, by simpa using ‹¬ctxDone = true›, rfl, rfl⟩

theorem readCall_some {ctxDone : Bool} (h : s.readCall ctxDone = some s') :
    ∃ ph, s' = { s with reads := s.reads ++ [ph] } ∧ ph.isPongScan = false ∧ ph.held = none := by
  simp only [readCall] at h
  split at h
  · cases h; exact ⟨_, rfl, rfl, rfl⟩
  · split at h
    · cases h
    · cases h
      cases s.conn <;> exact ⟨_, rfl, rfl, rfl⟩

theorem readIncoming_some {r : Nat} {f : Incoming} (h : s.readIncoming r f = some s') :
    ∃ k, s.reads[r]? = some (.reading k) ∧
      ((f = .pong ∧ s' = { s.setRead r (.handling k (.pong s.pongLog.length) none) with
          pongLog := s.pongLog ++ [k] }) ∨
        (∃ ph, s' = s.setRead r ph ∧ ph.isPongScan = false ∧ ph.held = none)) := by
  simp only [readIncoming, Option.bind_eq_bind, Option.bind_eq_some] at h
  obtain ⟨ph, hph, h⟩ := h
  cases ph <;> simp only [Option.some.injEq] at h <;> try (cases h; done)
  refine ⟨_, hph, ?_⟩
  cases f <;> subst h
  case pong => exact .inl ⟨rfl, rfl⟩
  all_goals exact .inr ⟨_, rfl, rfl, rfl⟩

theorem closeCall_cases {code : Nat} {reason : String} {err : Option TransportError}
    (h : s.closeCall code reason err = some s') :
    s.mu = false ∧
      ((s.conn = none ∧ s' = { s with closes := s.closes ++
          [.returned (some (.errorf "close failed because no connection is already up"))] }) ∨
        (s.conn.isSome ∧ s' = { s with mu := true, closes := s.closes ++
          [.scanning { code, reason, err := "client closed the connection" } err none] })) := by
  simp only [closeCall] at h
  split at h
  · cases h
  · cases h
    refine ⟨by simpa using ‹¬s.mu = true›, ?_⟩
    cases s.conn <;> simp

/-! ### The transitions -/

/-- What one step does, event by event: the inversion of `step`, said once.
Each rule gives the state the step leaves as an update of `s`, so a property of
some fields needs only the rules that write them. -/
inductive Transition (s : GorillaWebsocketConnectionAdapter) :
    Event → GorillaWebsocketConnectionAdapter → Prop
  /-- `Dial` returns an error: its context is done, a connection is bound, or
  the handshake failed. -/
  | dialFail (ctxDone : Bool) (res : Option Nat) (err : Option TransportError) :
    Transition s (.dial ctxDone res err) s
  | dialBind (res : Option Nat) : s.conn = none → s.mu = false →
    Transition s (.dial false res none) { s with conn := some s.dials, dials := s.dials + 1 }
  | write (ctxDone : Bool) (err : Option TransportError) : Transition s (.write ctxDone err) s
  | getUnderlyingWebsocketConnection : Transition s .getUnderlyingWebsocketConnection s
  | pingCall (ctxDone : Bool) : Transition s (.pingCall ctxDone) (s.pingCall ctxDone)
  /-- A step of the goroutine of `Ping` `p`. -/
  | ping {e : Event} {p : PingId} {c c' : PingCall} {q : List PingId} : e.pingOf = some p →
    s.pings[p]? = some c → PingMove s p c c' q →
    Transition s e { s with pings := s.pings.set p c', pingRequests := q }
  | readCall (ctxDone : Bool) (ph : ReadPhase) : ph.isPongScan = false → ph.held = none →
    Transition s (.readCall ctxDone) { s with reads := s.reads ++ [ph] }
  /-- `ReadMessage` returns, or runs into a close frame. -/
  | readMessage (r : Nat) (k : ConnId) (f : Incoming) (ph : ReadPhase) :
    s.reads[r]? = some (.reading k) → ph.isPongScan = false → ph.held = none →
    Transition s (.readIncoming r f) (s.setRead r ph)
  | readPong (r : Nat) (k : ConnId) : s.reads[r]? = some (.reading k) →
    Transition s (.readIncoming r .pong)
      { s.setRead r (.handling k (.pong s.pongLog.length) none) with
        pongLog := s.pongLog ++ [k] }
  | readScan (r : Nat) (k : ConnId) (hd : Handler) (held : Option PingId) (q : List PingId)
    (l : Option PingId) : s.reads[r]? = some (.handling k hd held) →
    scanOp s.parked s.pingRequests held = .next q l →
    Transition s (.readProceed r) { s.setRead r (.handling k hd l) with pingRequests := q }
  | readScanExit (r : Nat) (k : ConnId) (hd : Handler) (held d : Option PingId) :
    s.reads[r]? = some (.handling k hd held) → scanOp s.parked s.pingRequests held = .exit d →
    Transition s (.readProceed r) ((s.deliver hd.signal d).setRead r (hd.after k))
  | readUnbind (r : Nat) (k : ConnId) (ce : WebsocketCloseError) :
    s.reads[r]? = some (.unbinding k ce) →
    Transition s (.readProceed r)
      { s.setRead r (.returned (-1) [] (some (.closeError ce))) with conn := none }
  | closeFail (code : Nat) (reason : String) (err : Option TransportError) :
    s.mu = false → s.conn = none →
    Transition s (.closeCall code reason err) { s with closes := s.closes ++
      [.returned (some (.errorf "close failed because no connection is already up"))] }
  | closeStart (code : Nat) (reason : String) (err : Option TransportError) :
    s.mu = false → s.conn.isSome →
    Transition s (.closeCall code reason err) { s with mu := true, closes := s.closes ++
      [.scanning { code, reason, err := "client closed the connection" } err none] }
  | closeScan (k : Nat) (ce : WebsocketCloseError) (werr : Option TransportError)
    (held : Option PingId) (q : List PingId) (l : Option PingId) :
    s.closes[k]? = some (.scanning ce werr held) →
    scanOp s.parked s.pingRequests held = .next q l →
    Transition s (.closeProceed k) { s.setClose k (.scanning ce werr l) with pingRequests := q }
  | closeScanExit (k : Nat) (ce : WebsocketCloseError) (werr : Option TransportError)
    (held d : Option PingId) : s.closes[k]? = some (.scanning ce werr held) →
    scanOp s.parked s.pingRequests held = .exit d →
    Transition s (.closeProceed k) { (s.deliver (.close ce) d).setClose k
      (.returned (werr.map .transport)) with conn := none, mu := false }

variable {e : Event}

theorem Transition.of_step (h : s.step e = some s') : Transition s e s' := by
  cases e with
  | dial ctxDone res err =>
    obtain ⟨⟨t, out⟩, ht, rfl⟩ := Option.map_eq_some'.mp h
    rcases dial_some ht with rfl | ⟨hc, hmu, rfl, rfl, rfl⟩
    · exact .dialFail ctxDone res err
    · exact .dialBind res hc hmu
  | write ctxDone err =>
    obtain ⟨_, -, rfl⟩ := Option.map_eq_some'.mp h
    exact .write ctxDone err
  | getUnderlyingWebsocketConnection =>
    obtain ⟨_, -, rfl⟩ := Option.map_eq_some'.mp h
    exact .getUnderlyingWebsocketConnection
  | pingCall ctxDone => cases h; exact .pingCall ctxDone
  | pingCancel | pingProceed | pingContextDone | pingWrite =>
    obtain ⟨c, c', q, hc, hm, rfl⟩ := pingStep_of_step h rfl
    exact .ping rfl hc hm
  | readCall ctxDone =>
    obtain ⟨ph, rfl, hp, hh⟩ := readCall_some h
    exact .readCall ctxDone ph hp hh
  | readIncoming r f =>
    obtain ⟨k, hk, ⟨rfl, rfl⟩ | ⟨ph, rfl, hp, hh⟩⟩ := readIncoming_some h
    · exact .readPong r k hk
    · exact .readMessage r k f ph hk hp hh
  | readProceed r =>
    rcases readProceed_cases h with ⟨k, hd, held, q, l, hr, hn, rfl⟩ |
      ⟨k, hd, held, d, hr, hx, rfl⟩ | ⟨k, ce, hr, rfl⟩
    · exact .readScan r k hd held q l hr hn
    · exact .readScanExit r k hd held d hr hx
    · exact .readUnbind r k ce hr
  | closeCall code reason err =>
    obtain ⟨hmu, ⟨hc, rfl⟩ | ⟨hc, rfl⟩⟩ := closeCall_cases h
    · exact .closeFail code reason err hmu hc
    · exact .closeStart code reason err hmu hc
  | closeProceed k =>
    obtain ⟨ce, werr, held, hk, ⟨q, l, hn, rfl⟩ | ⟨d, hx, rfl⟩⟩ := closeProceed_cases h
    · exact .closeScan k ce werr held q l hk hn
    · exact .closeScanExit k ce werr held d hk hx

theorem deliver_pings_of_exit (sig : Signal) {held d : Option PingId}
    (h : scanOp s.parked s.pingRequests held = .exit d) :
    (s.deliver sig d).pings = s.pings ∨ ∃ x c k, held = some x ∧ s.pings[x]? = some c ∧
      c.phase = .waiting k ∧ (s.deliver sig d).pings = s.pings.set x (c.deliver sig) := by
  rcases deliver_of_exit sig h with h | ⟨x, c, k, hx, hc, hw, he⟩
  · exact .inl (by rw [h])
  · exact .inr ⟨x, c, k, hx, hc, hw, by rw [he]; rfl⟩

/-- What a step does to the calls of `Ping`: nothing, a new call, a move of
one call's own goroutine, or a scan's hand-over to the parked call whose slot
it holds. -/
theorem step_pings (h : s.step e = some s') :
    s'.pings = s.pings ∨
    (∃ b, s'.pings = s.pings ++ [{ phase := .start, ctxDone := b }]) ∨
    (∃ p c c' q, s.pings[p]? = some c ∧ PingMove s p c c' q ∧ s'.pings = s.pings.set p c') ∨
    (∃ x c k sig, x ∈ s.heldSlots ∧ s.pings[x]? = some c ∧ c.phase = .waiting k ∧
      s'.pings = s.pings.set x (c.deliver sig)) := by
  cases Transition.of_step h with
  | pingCall b => exact .inr (.inl ⟨b, rfl⟩)
  | ping _ hc hm => exact .inr (.inr (.inl ⟨_, _, _, _, hc, hm, rfl⟩))
  | readScanExit r k hd held d hr hx =>
    rcases deliver_pings_of_exit hd.signal hx with h | ⟨x, c, k, rfl, h⟩
    · exact .inl h
    · exact .inr (.inr (.inr ⟨x, c, k, _, mem_heldSlots_of_read hr, h⟩))
  | closeScanExit k ce werr held d hk hx =>
    rcases deliver_pings_of_exit (.close ce) hx with h | ⟨x, c, k, rfl, h⟩
    · exact .inl h
    · exact .inr (.inr (.inr ⟨x, c, k, _, mem_heldSlots_of_close hk, h⟩))
  | _ => exact .inl rfl

/-- What a step does to one `Ping` call: nothing, a move of its own goroutine,
or the hand-over of a scan that holds its slot while it is parked. -/
theorem step_ping_at {x : PingId} {c : PingCall} (h : s.step e = some s')
    (hc : s.pings[x]? = some c) :
    s'.pings[x]? = some c ∨
    (∃ c' q, PingMove s x c c' q ∧ s'.pings[x]? = some c') ∨
    (x ∈ s.heldSlots ∧ ∃ k sig, c.phase = .waiting k ∧ s'.pings[x]? = some (c.deliver sig)) := by
  have hlt : x < s.pings.length := (List.getElem?_eq_some_iff.mp hc).1
  rcases step_pings h with he | ⟨b, he⟩ | ⟨q, d, d', _, hd, hm, he⟩ |
    ⟨y, d, k, sig, hy, hd, hw, he⟩
  · exact .inl (by rw [he, hc])
  · exact .inl (by rw [he, List.getElem?_append_left hlt, hc])
  · by_cases hq : q = x
    · subst hq; rw [hc] at hd; cases hd
      exact .inr (.inl ⟨d', _, hm, by rw [he, List.getElem?_set_self hlt]⟩)
    · exact .inl (by rw [he, List.getElem?_set_ne hq, hc])
  · by_cases hyx : y = x
    · subst hyx; rw [hc] at hd; cases hd
      exact .inr (.inr ⟨hy, k, sig, hw, by rw [he, List.getElem?_set_self hlt]⟩)
    · exact .inl (by rw [he, List.getElem?_set_ne hyx, hc])

end WsAdapter
