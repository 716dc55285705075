import Mathlib.Algebra.Group.Nat.Basic
import WsAdapter.Basic

/-!
The example client of the repository, `ExampleClientImpl`, and its two
`int64` counters, over any order in which the engine calls its callbacks.

`OnMessage` counts the messages it processes; an `OnOpen` whose first `Write`
goes through resets both counters. On a restart, `OnOpen` sets `restartCount`
to `processedMsgCount + 1` and exits once that reaches 3: so what the restart
limit counts is the messages processed since the last successful `OnOpen`,
not the restarts. However many restarts fail in a row, the client exits at
one of them only if two messages came in since it last opened, and then at the
first one.
-/

namespace WsAdapter

/-- The counters of `ExampleClientImpl`, Go `int64`s. -/
structure ExampleClientImpl where
  processedMsgCount : BitVec 64
  restartCount : BitVec 64
  deriving DecidableEq, Repr

/-- `NewExampleClientImpl`. -/
def newExampleClientImpl : ExampleClientImpl := ⟨0, 0⟩

/-- The error `OnOpen` returns: `fmt.Errorf("failed to start demo client: %w", err)`. -/
inductive ClientError
  | startFailed (err : AdapterError)
  deriving DecidableEq, Repr

/-- What a callback asks of the engine: `exit()`, `restart()`, and the error
it returns. -/
structure CallbackResult where
  exit : Bool := false
  restart : Bool := false
  err : Option ClientError := none
  deriving DecidableEq, Repr

/-- A call of the engine into the client; `writeErr` is what the callback's
`conn.Write` returns. -/
inductive Callback
  | onOpen (restarting : Bool) (writeErr : Option AdapterError)
  | onMessage (writeErr : Option AdapterError)
  | onReadError
  | onClose
  | onCloseError
  | onRestartError (retryCount : BitVec 64)
  deriving DecidableEq, Repr

namespace ExampleClientImpl

variable (c : ExampleClientImpl)

/-- `OnOpen`. -/
def onOpen (restarting : Bool) (writeErr : Option AdapterError) :
    ExampleClientImpl × CallbackResult :=
  let c := if restarting then { c with restartCount := c.processedMsgCount + 1 } else c
  let exit := restarting && (3 : BitVec 64).sle c.restartCount
  match writeErr with
  | some err => (c, { exit, err := some (.startFailed err) })
  | none => ({ c with restartCount := 0, processedMsgCount := 0 }, { exit })

/-- `OnMessage`. -/
def onMessage (writeErr : Option AdapterError) : ExampleClientImpl × CallbackResult :=
  ({ c with processedMsgCount := c.processedMsgCount + 1 }, { restart := writeErr.isSome })

/-- `OnRestartError`: exit after five retries. -/
def onRestartError (retryCount : BitVec 64) : CallbackResult :=
  { exit := (5 : BitVec 64).sle retryCount }

/-- One callback; `OnReadError`, `OnClose` and `OnCloseError` only log. -/
def step : Callback → ExampleClientImpl × CallbackResult
  | .onOpen restarting writeErr => c.onOpen restarting writeErr
  | .onMessage writeErr => c.onMessage writeErr
  | .onReadError | .onClose | .onCloseError => (c, {})
  | .onRestartError retryCount => (c, onRestartError retryCount)

def run : ExampleClientImpl → List Callback → ExampleClientImpl
  | c, [] => c
  | c, cb :: cbs => run (c.step cb).1 cbs

theorem run_append_singleton (cbs : List Callback) (cb : Callback) :
    c.run (cbs ++ [cb]) = ((c.run cbs).step cb).1 := by
  induction cbs generalizing c with
  | nil => rfl
  | cons cb' cbs ih => exact ih _

end ExampleClientImpl

namespace Callback

/-- An `OnOpen` whose `Write` went through. -/
def opened : Callback → Bool
  | .onOpen _ none => true
  | _ => false

def isMessage : Callback → Bool
  | .onMessage _ => true
  | _ => false

end Callback

/-- The messages processed since the last `OnOpen` whose `Write` went through,
or since the client was made. -/
def messagesSinceOpen (cbs : List Callback) : Nat :=
  (cbs.reverse.takeWhile fun cb => !cb.opened).countP Callback.isMessage

theorem messagesSinceOpen_append_singleton (cbs : List Callback) (cb : Callback) :
    messagesSinceOpen (cbs ++ [cb]) =
      if cb.opened then 0 else messagesSinceOpen cbs + if cb.isMessage then 1 else 0 := by
  cases h : cb.opened <;>
    simp [messagesSinceOpen, List.takeWhile_cons, h, List.countP_cons, Nat.add_comm]

/-- In every run, `processedMsgCount` holds the messages processed since the
last successful `OnOpen`, as an `int64`. -/
theorem processedMsgCount_run (cbs : List Callback) :
    (newExampleClientImpl.run cbs).processedMsgCount =
      BitVec.ofNat 64 (messagesSinceOpen cbs) := by
  induction cbs using List.reverseRecOn with
  | nil => rfl
  | append_singleton cbs cb ih =>
    rw [ExampleClientImpl.run_append_singleton, messagesSinceOpen_append_singleton]
    cases cb with
    | onOpen restarting writeErr =>
      cases writeErr <;> cases restarting <;>
        simp [ExampleClientImpl.step, ExampleClientImpl.onOpen, Callback.opened,
          Callback.isMessage, ih]
    | onMessage =>
      simp [ExampleClientImpl.step, ExampleClientImpl.onMessage, Callback.opened,
        Callback.isMessage, ih, BitVec.ofNat_add]
    | _ => simp [ExampleClientImpl.step, Callback.opened, Callback.isMessage, ih]

/-- After any history of callbacks, a restarting `OnOpen` calls `exit()`
exactly when `processedMsgCount + 1 >= 3` as an `int64`, `processedMsgCount`
being the messages processed since the last successful `OnOpen`: below
`2^63 - 1` of them, exactly when at least two came in. The restarts before it,
failed or not, play no part. -/
theorem restart_exit_iff_two_messages_since_open (cbs : List Callback)
    (writeErr : Option AdapterError) :
    ((newExampleClientImpl.run cbs).onOpen true writeErr).2.exit =
        (3 : BitVec 64).sle (BitVec.ofNat 64 (messagesSinceOpen cbs + 1)) ∧
      (messagesSinceOpen cbs + 1 < 2 ^ 63 →
        (((newExampleClientImpl.run cbs).onOpen true writeErr).2.exit = true ↔
          2 ≤ messagesSinceOpen cbs)) := by
  have hexit : ((newExampleClientImpl.run cbs).onOpen true writeErr).2.exit =
      (3 : BitVec 64).sle (BitVec.ofNat 64 (messagesSinceOpen cbs + 1)) := by
    cases writeErr <;> simp [ExampleClientImpl.onOpen, processedMsgCount_run, BitVec.ofNat_add]
  refine ⟨hexit, fun hlt => ?_⟩
  have h3 : (3 : BitVec 64).toNat = 3 := rfl
  simp only [hexit, BitVec.sle, decide_eq_true_eq, BitVec.toInt_eq_toNat_cond,
    BitVec.toNat_ofNat, h3]
  split_ifs <;> omega

/-- Four restarts in a row whose `Write` fails, with no message before: none
exits. -/
example : ((newExampleClientImpl.run (List.replicate 4 (.onOpen true (some .contextDone)))).onOpen
    true (some .contextDone)).2.exit = false := by
  decide

/-- Two messages, then the first restart exits. -/
example : ((newExampleClientImpl.run [.onOpen false none, .onMessage none, .onMessage none]).onOpen
    true (some .contextDone)).2.exit = true := by
  decide

end WsAdapter
