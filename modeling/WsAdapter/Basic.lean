import Mathlib.Data.List.Basic

/-!
The data of a `GorillaWebsocketConnectionAdapter` and of the method calls in
flight on it.

The adapter is shared by goroutines: a read loop calling `Read`, and any number
of callers of `Dial`, `Write`, `Ping` and `Close`. Its state is the connection
handle, the mutex and the buffered channel `pingRequests` of reply slots; each
`Ping`, `Read` and `Close` call that is under way has a program point of its own.
A call is numbered by its position in the list of calls of its kind, and the
reply slot `pong` that a `Ping` makes is named by that `Ping`'s number.

A few fields are ghost: they record what happened (which connection a ping
frame went out on, which pongs were handled) so that properties of whole runs
can be stated; no step reads them to decide what to do.
-/

namespace WsAdapter

/-- A `*websocket.Conn`, by identity: every successful `Dial` makes a new one. -/
abbrev ConnId := Nat

/-- A `Ping` call, and the unbuffered reply slot `pong` it makes. -/
abbrev PingId := Nat

/-- Capacity of `pingRequests`: `make(chan chan error, 10)`. -/
def pingRequestsCapacity : Nat := 10

/-- An error of the transport (gorilla/websocket), known by its text. -/
structure TransportError where
  text : String
  deriving DecidableEq, Repr

/-- `wsconnadapter.WebsocketCloseError`; `err` is the text of the wrapped `Err`. -/
structure WebsocketCloseError where
  code : Nat
  reason : String
  err : String
  deriving DecidableEq, Repr

/-- The `error` values the adapter's methods return, other than nil. -/
inductive AdapterError
  | contextDone
  | errorf (text : String)
  | pingFailed (err : TransportError)
  | closeError (e : WebsocketCloseError)
  | transport (err : TransportError)
  deriving DecidableEq, Repr

/-! ### Ping calls -/

/-- Program point of a `Ping` call. `registering c` is blocked in the select
that sends `pong` on `pingRequests`, `sending c` is inside `WriteControl`, and
`sent c` has written its frame but is not yet parked in the last select; only
`waiting c` is parked on `pong`, so only it can take a non-blocking send. -/
inductive PingPhase
  | start
  | locking
  | registering (c : ConnId)
  | sending (c : ConnId)
  | sent (c : ConnId)
  | waiting (c : ConnId)
  | returned (err : Option AdapterError)
  deriving DecidableEq, Repr

/-- A `Ping` call: its program point and its context, with ghost fields for the
notifications its slot received, the connection and time (pongs handled so far)
at which its frame went out, and the pong whose scan handed it nil. -/
structure PingCall where
  phase : PingPhase
  ctxDone : Bool
  notified : Nat := 0
  sentOn : Option ConnId := none
  sentAt : Nat := 0
  pongFrom : Option Nat := none
  deriving DecidableEq, Repr

/-- What a scan hands to a parked `Ping`: nil for the `i`-th pong handled by
`pongHandler`, or the `WebsocketCloseError` of a close. -/
inductive Signal
  | pong (i : Nat)
  | close (e : WebsocketCloseError)
  deriving DecidableEq, Repr

/-- The `error` value sent on the reply slot. -/
def Signal.notification : Signal → Option WebsocketCloseError
  | .pong _ => none
  | .close e => some e

/-! ### Read calls -/

/-- What `conn.ReadMessage()` runs into on a bound connection. A close frame
makes gorilla call the close handler and then return a `*websocket.CloseError`;
`closeError` is such an error with no close frame before it (an abnormal
closure, e.g. an unexpected EOF). -/
inductive Incoming
  | message (msgType : Int) (payload : List UInt8)
  | pong
  | close (code : Nat) (text : String) (errText : String)
  | closeError (code : Nat) (errText : String)
  | failure (err : TransportError)
  deriving DecidableEq, Repr

/-- The handler gorilla is running inside `ReadMessage`: `pongHandler` for the
`i`-th pong handled, or `closeHandler` for a close frame, with the text of the
`*websocket.CloseError` that `ReadMessage` returns after it. -/
inductive Handler
  | pong (i : Nat)
  | close (code : Nat) (text : String) (errText : String)
  deriving DecidableEq, Repr

/-- Program point of a `Read` call. `handling c h held` runs the scan of
handler `h`, with the listener `held` received from `pingRequests` and not yet
tried; `unbinding c e` has had `ReadMessage` return a close error and is about
to run `adapter.conn = nil`, outside the mutex. -/
inductive ReadPhase
  | reading (c : ConnId)
  | handling (c : ConnId) (h : Handler) (held : Option PingId)
  | unbinding (c : ConnId) (e : WebsocketCloseError)
  | returned (msgType : Int) (payload : List UInt8) (err : Option AdapterError)
  deriving DecidableEq, Repr

/-! ### Close calls -/

/-- Program point of a `Close` call. `scanning e werr held` holds the mutex,
has written the close frame with result `werr`, and runs the scan that hands
`e` to the pending pings. -/
inductive ClosePhase
  | scanning (e : WebsocketCloseError) (werr : Option TransportError) (held : Option PingId)
  | returned (err : Option AdapterError)
  deriving DecidableEq, Repr

/-! ### The adapter -/

/-- `GorillaWebsocketConnectionAdapter` and the calls in flight on it. `mu`
is held across the steps of a `Close`'s scan; every other critical section,
transport call included, is a single step. `dials` and `pongLog` are ghost:
the number of connections opened so far, and the connection each pong handled
by `pongHandler` was read on. -/
structure GorillaWebsocketConnectionAdapter where
  conn : Option ConnId
  mu : Bool
  pingRequests : List PingId
  pings : List PingCall
  reads : List ReadPhase
  closes : List ClosePhase
  dials : Nat
  pongLog : List ConnId
  deriving DecidableEq, Repr

/-- `NewGorillaWebsocketConnectionAdapter`: no connection, an empty
`pingRequests`, no call under way. -/
def newGorillaWebsocketConnectionAdapter : GorillaWebsocketConnectionAdapter where
  conn := none
  mu := false
  pingRequests := []
  pings := []
  reads := []
  closes := []
  dials := 0
  pongLog := []

end WsAdapter
