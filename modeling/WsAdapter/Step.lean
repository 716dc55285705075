import WsAdapter.Propagate

/-!
The adapter's methods as steps of a transition system.

A step is one atomic action of one goroutine: a critical section under `mu`,
one channel operation, one call into the transport, or the unlocked
`adapter.conn = nil` of `Read`. `Dial`, `Write` and
`GetUnderlyingWebsocketConnection` are one critical section each and take one
step. `Ping`, `Read` and `Close` take several, and their calls are kept in the
state between steps. Go holds `mu` across `dialer.DialContext`,
`conn.WriteMessage` and the close frame's `WriteControl`, which can block for
long; each of these is inside one step here, so the model says what those calls
do to the state, not how long they keep `mu`. What the transport and the
callers do (the outcome of a handshake or a write, the next frame on a
connection, a context that ends) is a parameter of the step, so every run of
the real program is a run of this system.

A step that cannot be taken (a goroutine blocked on `mu` or on a full
`pingRequests`, a call not at the right program point) is `none`.
-/

namespace WsAdapter

namespace PingPhase

/-- Parked in the last select of `Ping`, receiving on `pong`. -/
def isWaiting : PingPhase → Bool
  | .waiting _ => true
  | _ => false

end PingPhase

namespace PingCall

/-- The non-blocking send of `sig` on this call's `pong` went through: the
call returns what it received. -/
def deliver (c : PingCall) (sig : Signal) : PingCall :=
  { c with
    phase := .returned (sig.notification.map .closeError)
    notified := c.notified + 1
    pongFrom := match sig with
      | .pong i => some i
      | .close _ => c.pongFrom }

end PingCall

/-- The notification `pongHandler` propagates for the `i`-th pong: nil. -/
def pongHandler (i : Nat) : Signal := .pong i

/-- The notification `closeHandler` propagates for a close frame. -/
def closeHandler (code : Nat) (text : String) : Signal :=
  .close { code, reason := text, err := "close message received from server" }

namespace Handler

/-- What the handler hands to the pending pings. -/
def signal : Handler → Signal
  | .pong i => pongHandler i
  | .close code text _ => closeHandler code text

/-- Where `Read` is once the handler's scan is over: back in `ReadMessage`
after a pong; after a close frame, `ReadMessage` has returned its
`*websocket.CloseError` and `Read` has built the `WebsocketCloseError`. -/
def after (c : ConnId) : Handler → ReadPhase
  | .pong _ => .reading c
  | .close code _ errText => .unbinding c { code, reason := errText, err := errText }

end Handler

namespace GorillaWebsocketConnectionAdapter

variable (s : GorillaWebsocketConnectionAdapter)

@[simp] def setPing (p : PingId) (c : PingCall) : GorillaWebsocketConnectionAdapter :=
  { s with pings := s.pings.set p c }

@[simp] def setRead (r : Nat) (ph : ReadPhase) : GorillaWebsocketConnectionAdapter :=
  { s with reads := s.reads.set r ph }

@[simp] def setClose (k : Nat) (ph : ClosePhase) : GorillaWebsocketConnectionAdapter :=
  { s with closes := s.closes.set k ph }

/-- The `Ping` call `p` is parked on its `pong`: a send on it goes through. -/
def parked (p : PingId) : Bool :=
  match s.pings[p]? with
  | some c => c.phase.isWaiting
  | none => false

/-- Hand `sig` to the `Ping` whose slot took it, if any. -/
def deliver (sig : Signal) : Option PingId → GorillaWebsocketConnectionAdapter
  | none => s
  | some p =>
    match s.pings[p]? with
    | some c => s.setPing p (c.deliver sig)
    | none => s

/-! ### Single critical sections -/

/-- `Dial`. `res` and `err` are what `dialer.DialContext` returns; the
handshake runs under `mu`, inside this one step. -/
def dial (ctxDone : Bool) (res : Option Nat) (err : Option TransportError) :
    Option (GorillaWebsocketConnectionAdapter × Option Nat × Option AdapterError) :=
  if ctxDone then some (s, none, some .contextDone)
  else if s.mu then none
  else match s.conn, err with
    | some _, _ => some (s, none, some (.errorf "a connection has already been established"))
    | none, some e => some (s, res, some (.transport e))
    | none, none => some ({ s with conn := some s.dials, dials := s.dials + 1 }, res, none)

/-- `Write`. `err` is what `conn.WriteMessage` returns; the write runs under
`mu`, inside this one step. -/
def write (ctxDone : Bool) (err : Option TransportError) : Option (Option AdapterError) :=
  if ctxDone then some (some .contextDone)
  else if s.mu then none
  else match s.conn with
    | none => some (some (.errorf "write failed because no connection is already up"))
    | some _ => some (err.map .transport)

/-- `GetUnderlyingWebsocketConnection`. -/
def getUnderlyingWebsocketConnection : Option (Option ConnId) :=
  if s.mu then none else some s.conn

/-! ### `Ping` -/

/-- A new `Ping` call, with its context already done or not. -/
def pingCall (ctxDone : Bool) : GorillaWebsocketConnectionAdapter :=
  { s with pings := s.pings ++ [{ phase := .start, ctxDone }] }

/-- The context of `Ping` `p` ends. -/
def pingCancel (p : PingId) : Option GorillaWebsocketConnectionAdapter :=
  (s.pings[p]?).map fun c => s.setPing p { c with ctxDone := true }

/-- The step of `Ping` `p` that depends on no outside choice: the first
select, the critical section reading `adapter.conn`, the send of `pong` on
`pingRequests` when there is room, and the entry into the last select. -/
def pingProceed (p : PingId) : Option GorillaWebsocketConnectionAdapter := do
  let c ← s.pings[p]?
  match c.phase with
  | .start =>
    some (s.setPing p { c with
      phase := if c.ctxDone then .returned (some .contextDone) else .locking })
  | .locking =>
    if s.mu then none
    else some (s.setPing p { c with
      phase := match s.conn with
        | none => .returned (some (.errorf "ping failed because no connection is already up"))
        | some k => .registering k })
  | .registering k =>
    if s.pingRequests.length < pingRequestsCapacity then
      some { s.setPing p { c with phase := .sending k } with
        pingRequests := s.pingRequests ++ [p] }
    else none
  | .sent k =>
    some (s.setPing p { c with
      phase := if c.ctxDone then .returned (some .contextDone) else .waiting k })
  | _ => none

/-- The `ctx.Done()` case of the select `Ping` `p` is blocked in. -/
def pingContextDone (p : PingId) : Option GorillaWebsocketConnectionAdapter := do
  let c ← s.pings[p]?
  match c.phase, c.ctxDone with
  | .registering _, true | .waiting _, true =>
    some (s.setPing p { c with phase := .returned (some .contextDone) })
  | _, _ => none

/-- `conn.WriteControl(websocket.PingMessage, ...)` of `Ping` `p` returns
`err`. -/
def pingWrite (p : PingId) (err : Option TransportError) :
    Option GorillaWebsocketConnectionAdapter := do
  let c ← s.pings[p]?
  match c.phase, err with
  | .sending k, none =>
    some (s.setPing p { c with phase := .sent k, sentOn := some k, sentAt := s.pongLog.length })
  | .sending _, some e => some (s.setPing p { c with phase := .returned (some (.pingFailed e)) })
  | _, _ => none

/-! ### `Read` -/

/-- A new `Read` call: the check of `ctx`, then the critical section reading
`adapter.conn`. -/
def readCall (ctxDone : Bool) : Option GorillaWebsocketConnectionAdapter :=
  if ctxDone then some { s with reads := s.reads ++ [.returned (-1) [] (some .contextDone)] }
  else if s.mu then none
  else some { s with
    reads := s.reads ++ [match s.conn with
      | none => .returned (-1) [] (some (.errorf "read failed because no connection is already up"))
      | some k => .reading k] }

/-- `ReadMessage` of `Read` `r` runs into `f`. -/
def readIncoming (r : Nat) (f : Incoming) : Option GorillaWebsocketConnectionAdapter := do
  let .reading k ← s.reads[r]? | none
  some <| match f with
    | .message t b => s.setRead r (.returned t b none)
    | .pong => { s.setRead r (.handling k (.pong s.pongLog.length) none) with
        pongLog := s.pongLog ++ [k] }
    | .close code text errText => s.setRead r (.handling k (.close code text errText) none)
    | .closeError code errText =>
      s.setRead r (.unbinding k { code, reason := errText, err := errText })
    | .failure e => s.setRead r (.returned (-1) [] (some (.transport e)))

/-- The next step of `Read` `r`: a channel operation of its handler's scan, or
the unlocked `adapter.conn = nil` after a close error. -/
def readProceed (r : Nat) : Option GorillaWebsocketConnectionAdapter := do
  let ph ← s.reads[r]?
  match ph with
  | .handling k h held =>
    some <| match scanOp s.parked s.pingRequests held with
      | .next q l => { s.setRead r (.handling k h l) with pingRequests := q }
      | .exit d => (s.deliver h.signal d).setRead r (h.after k)
  | .unbinding _ e =>
    some { s.setRead r (.returned (-1) [] (some (.closeError e))) with conn := none }
  | _ => none

/-! ### `Close` -/

/-- A new `Close` call: it takes `mu`, checks `adapter.conn` and writes the
close frame, whose `WriteControl` returns `err`, all in this one step; it keeps
`mu` for its scan. -/
def closeCall (code : Nat) (reason : String) (err : Option TransportError) :
    Option GorillaWebsocketConnectionAdapter :=
  if s.mu then none
  else some <| match s.conn with
    | none => { s with
        closes := s.closes ++
          [.returned (some (.errorf "close failed because no connection is already up"))] }
    | some _ => { s with
        mu := true
        closes := s.closes ++
          [.scanning { code, reason, err := "client closed the connection" } err none] }

/-- The next step of `Close` `k`: a channel operation of its scan; the last one
also voids the connection and releases `mu`. -/
def closeProceed (k : Nat) : Option GorillaWebsocketConnectionAdapter := do
  let .scanning e werr held ← s.closes[k]? | none
  some <| match scanOp s.parked s.pingRequests held with
    | .next q l => { s.setClose k (.scanning e werr l) with pingRequests := q }
    | .exit d => { (s.deliver (.close e) d).setClose k (.returned (werr.map .transport)) with
        conn := none, mu := false }

end GorillaWebsocketConnectionAdapter

/-! ### Runs -/

/-- One atomic action of a goroutine, with the outside choices it depends on. -/
inductive Event
  | dial (ctxDone : Bool) (res : Option Nat) (err : Option TransportError)
  | write (ctxDone : Bool) (err : Option TransportError)
  | getUnderlyingWebsocketConnection
  | pingCall (ctxDone : Bool)
  | pingCancel (p : PingId)
  | pingProceed (p : PingId)
  | pingContextDone (p : PingId)
  | pingWrite (p : PingId) (err : Option TransportError)
  | readCall (ctxDone : Bool)
  | readIncoming (r : Nat) (f : Incoming)
  | readProceed (r : Nat)
  | closeCall (code : Nat) (reason : String) (err : Option TransportError)
  | closeProceed (k : Nat)
  deriving DecidableEq, Repr

namespace GorillaWebsocketConnectionAdapter

variable (s : GorillaWebsocketConnectionAdapter)

def step : Event → Option GorillaWebsocketConnectionAdapter
  | .dial ctxDone res err => (s.dial ctxDone res err).map (·.1)
  | .write ctxDone err => (s.write ctxDone err).map fun _ => s
  | .getUnderlyingWebsocketConnection => s.getUnderlyingWebsocketConnection.map fun _ => s
  | .pingCall ctxDone => some (s.pingCall ctxDone)
  | .pingCancel p => s.pingCancel p
  | .pingProceed p => s.pingProceed p
  | .pingContextDone p => s.pingContextDone p
  | .pingWrite p err => s.pingWrite p err
  | .readCall ctxDone => s.readCall ctxDone
  | .readIncoming r f => s.readIncoming r f
  | .readProceed r => s.readProceed r
  | .closeCall code reason err => s.closeCall code reason err
  | .closeProceed k => s.closeProceed k

def run : GorillaWebsocketConnectionAdapter → List Event → Option GorillaWebsocketConnectionAdapter
  | t, [] => some t
  | t, e :: es => (t.step e).bind fun t' => run t' es

end GorillaWebsocketConnectionAdapter

open GorillaWebsocketConnectionAdapter

/-- A state some run of the adapter reaches from `NewGorillaWebsocketConnectionAdapter`. -/
def Reachable (s : GorillaWebsocketConnectionAdapter) : Prop :=
  ∃ evs, newGorillaWebsocketConnectionAdapter.run evs = some s

namespace GorillaWebsocketConnectionAdapter

variable {s s' : GorillaWebsocketConnectionAdapter}

@[simp] theorem run_nil : s.run [] = some s := rfl

@[simp] theorem run_cons (e : Event) (es : List Event) :
    s.run (e :: es) = (s.step e).bind fun t => t.run es := rfl

theorem run_append (es fs : List Event) :
    s.run (es ++ fs) = (s.run es).bind fun t => t.run fs := by
  induction es generalizing s with
  | nil => rfl
  | cons e es ih => cases h : s.step e <;> simp [h, ih]

end GorillaWebsocketConnectionAdapter

namespace Reachable

variable {s s' : GorillaWebsocketConnectionAdapter}

theorem init : Reachable newGorillaWebsocketConnectionAdapter := ⟨[], rfl⟩

theorem step {e : Event} (hs : Reachable s) (h : s.step e = some s') : Reachable s' := by
  obtain ⟨evs, hevs⟩ := hs
  exact ⟨evs ++ [e], by simp [run_append, hevs, h]⟩

/-- A property that holds initially and that every step of a reachable state
keeps holds of every reachable state. -/
@[elab_as_elim] theorem induction {P : GorillaWebsocketConnectionAdapter → Prop}
    (init : P newGorillaWebsocketConnectionAdapter)
    (step : ∀ s e s', Reachable s → P s → s.step e = some s' → P s')
    (hs : Reachable s) : P s := by
  obtain ⟨evs, hevs⟩ := hs
  suffices h : ∀ es t, Reachable t → P t → ∀ t', t.run es = some t' → P t' from
    h evs _ Reachable.init init s hevs
  intro es
  induction es with
  | nil => intro t _ ht t' h; cases h; exact ht
  | cons e es ih =>
    intro t hr ht t' h
    obtain ⟨u, hu, h⟩ := Option.bind_eq_some.mp h
    exact ih u (hr.step hu) (step t e u hr ht hu) t' h

end Reachable

end WsAdapter
