import WsAdapter.Basic

/-!
The loop of `propagateToFirstActiveListener`, run with nothing else going on.

The loop alternates two channel operations: a receive from `listeners` (whose
`default` case ends the loop on an empty channel) and a non-blocking send on the
listener received, which goes through only if that listener is active, i.e.
its `Ping` is parked on it. `scanOp` is one such operation; the step model runs
the scans of the adapter one `scanOp` at a time. Run alone, the loop is the
structural recursion `propagateToFirstActiveListener`, and the two agree.

`propagateToAllActiveListener` has the same loop: its delivery case `return`s
as well. `notifyAllActive` is the scan the spec describes for the close paths,
which delivers to every active listener; the last theorems say where the two
part.
-/

namespace WsAdapter

variable {α : Type}

/-- The loop between two channel operations: the listeners still queued and
the listener received and not yet tried, or the end of the loop and the
listener that took the notification. -/
inductive ScanResult (α : Type)
  | next (listeners : List α) (listener : Option α)
  | exit (delivered : Option α)
  deriving DecidableEq, Repr

/-- One channel operation of the loop. -/
def scanOp (active : α → Bool) : List α → Option α → ScanResult α
  | [], none => .exit none
  | l :: ls, none => .next ls (some l)
  | ls, some l => if active l then .exit (some l) else .next ls none

/-- `propagateToFirstActiveListener` run alone: its result, the listeners left
in `listeners`, and the listener that took the notification. -/
def propagateToFirstActiveListener (active : α → Bool) : List α → Bool × List α × Option α
  | [] => (false, [], none)
  | l :: ls =>
    if active l then (true, ls, some l) else propagateToFirstActiveListener active ls

/-- `propagateToAllActiveListener` run alone: the listeners left in
`listeners` and those that took the notification. -/
def propagateToAllActiveListener (active : α → Bool) : List α → List α × List α
  | [] => ([], [])
  | l :: ls => if active l then (ls, [l]) else propagateToAllActiveListener active ls

/-- The spec's `notifyAllActive`: the same scan and discard rule, delivering to
every active listener without stopping, so `listeners` ends empty. -/
def notifyAllActive (active : α → Bool) (listeners : List α) : List α × List α :=
  ([], listeners.filter active)

/-- `scanOp` repeated at most `fuel` times, from the listeners and the
listener in hand, up to the end of the loop. -/
def scanLoop (active : α → Bool) : Nat → List α → Option α → Option (List α × Option α)
  | 0, _, _ => none
  | fuel + 1, ls, l =>
    match scanOp active ls l with
    | .next ls' l' => scanLoop active fuel ls' l'
    | .exit d => some (ls, d)

@[simp] theorem scanOp_nil_none (active : α → Bool) :
    scanOp active [] none = .exit none := rfl

@[simp] theorem scanOp_cons_none (active : α → Bool) (l : α) (ls : List α) :
    scanOp active (l :: ls) none = .next ls (some l) := rfl

theorem scanOp_some (active : α → Bool) (ls : List α) (l : α) :
    scanOp active ls (some l) = if active l then .exit (some l) else .next ls none := by
  cases ls <;> rfl

/-- A channel operation that does not end the loop either received the head
of the queue or tried a listener that was not active and dropped it. -/
theorem scanOp_eq_next {active : α → Bool} {ls q : List α} {held l : Option α}
    (h : scanOp active ls held = .next q l) :
    (held = none ∧ ∃ x, ls = x :: q ∧ l = some x) ∨
      (∃ x, held = some x ∧ active x = false ∧ q = ls ∧ l = none) := by
  rcases held with _ | x
  · cases ls with
    | nil => cases h
    | cons y ys => cases h; exact .inl ⟨rfl, y, rfl, rfl⟩
  · rw [scanOp_some] at h
    cases hx : active x <;> simp [hx] at h
    exact .inr ⟨x, rfl, hx, h.1.symm, h.2.symm⟩

/-- The loop ends on an empty queue with nothing in hand, or by a send to an
active listener. -/
theorem scanOp_eq_exit {active : α → Bool} {ls : List α} {held d : Option α}
    (h : scanOp active ls held = .exit d) :
    (held = none ∧ ls = [] ∧ d = none) ∨ (∃ x, held = some x ∧ active x = true ∧ d = some x) := by
  rcases held with _ | x
  · cases ls with
    | nil => cases h; exact .inl ⟨rfl, rfl, rfl⟩
    | cons y ys => cases h
  · rw [scanOp_some] at h
    cases hx : active x <;> simp [hx] at h
    exact .inr ⟨x, rfl, hx, h.symm⟩

/-- Two channel operations of the loop on a queued listener: receive it, then
try it. -/
theorem scanLoop_cons (active : α → Bool) (n : Nat) (l : α) (ls : List α) :
    scanLoop active (n + 2) (l :: ls) none =
      if active l then some (ls, some l) else scanLoop active n ls none := by
  cases hl : active l <;> simp [scanLoop, scanOp_some, hl]

/-- The loop run alone, one channel operation at a time, ends where
`propagateToFirstActiveListener` says, after at most two operations per
listener and the final receive. -/
theorem scanLoop_eq (active : α → Bool) (ls : List α) :
    scanLoop active (2 * ls.length + 1) ls none =
      some ((propagateToFirstActiveListener active ls).2.1,
        (propagateToFirstActiveListener active ls).2.2) := by
  induction ls with
  | nil => rfl
  | cons l ls ih =>
    rw [show 2 * (l :: ls).length + 1 = (2 * ls.length + 1) + 2 by simp; omega,
      scanLoop_cons]
    cases hl : active l <;> simp [propagateToFirstActiveListener, hl, ih]

/-- Run alone, the loop either finds a first active listener, after a prefix
of inactive ones, and leaves the rest queued, or finds none and empties the
queue. -/
theorem propagateToFirstActiveListener_cases (active : α → Bool) (q : List α) :
    (∃ pre l post, q = pre ++ l :: post ∧ (∀ x ∈ pre, active x = false) ∧
        active l = true ∧ propagateToFirstActiveListener active q = (true, post, some l)) ∨
      ((∀ x ∈ q, active x = false) ∧
        propagateToFirstActiveListener active q = (false, [], none)) := by
  induction q with
  | nil => exact .inr ⟨by simp, rfl⟩
  | cons l ls ih =>
    cases hl : active l
    · rcases ih with ⟨pre, m, post, rfl, hpre, hm, hres⟩ | ⟨hall, hres⟩
      · refine .inl ⟨l :: pre, m, post, rfl, ?_, hm, ?_⟩
        · simpa [hl] using hpre
        · simp [propagateToFirstActiveListener, hl, hres]
      · refine .inr ⟨?_, ?_⟩
        · simpa [hl] using hall
        · simp [propagateToFirstActiveListener, hl, hres]
    · exact .inl ⟨[], l, ls, rfl, by simp, hl, by simp [propagateToFirstActiveListener, hl]⟩

/-- `propagateToAllActiveListener` does what `propagateToFirstActiveListener`
does: it hands the notification to the first active listener only. -/
theorem propagateToAllActiveListener_eq_first (active : α → Bool) (q : List α) :
    propagateToAllActiveListener active q =
      ((propagateToFirstActiveListener active q).2.1,
        (propagateToFirstActiveListener active q).2.2.toList) := by
  induction q with
  | nil => rfl
  | cons l ls ih =>
    cases hl : active l <;>
      simp [propagateToAllActiveListener, propagateToFirstActiveListener, hl, ih]

/-- The listeners `propagateToAllActiveListener` notifies are those the spec's
`notifyAllActive` notifies exactly when at most one listener is active. -/
theorem propagateToAllActiveListener_eq_notifyAllActive_iff (active : α → Bool)
    (q : List α) :
    (propagateToAllActiveListener active q).2 = (notifyAllActive active q).2 ↔
      (q.filter active).length ≤ 1 := by
  rw [propagateToAllActiveListener_eq_first]
  rcases propagateToFirstActiveListener_cases active q with
    ⟨pre, l, post, rfl, hpre, hl, hres⟩ | ⟨hall, hres⟩
  · have hpre' : pre.filter active = [] := List.filter_eq_nil_iff.mpr (by simpa using hpre)
    simp [notifyAllActive, hres, hpre', hl, List.filter_append, List.filter_cons]
  · have hq : q.filter active = [] := List.filter_eq_nil_iff.mpr (by simpa using hall)
    simp [notifyAllActive, hres, hq]

end WsAdapter
