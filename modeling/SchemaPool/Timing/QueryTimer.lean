import SchemaPool.Text.Search
import SchemaPool.Timing.Monitor

/-! # Timing every statement of a connection

A driver can tell when it starts and when it finishes a statement.  The timer
remembers the statements that have been started and matches each finish with the
oldest of them that has the same text.

While somebody else times a whole unit of work the timer's scope is held, and
statements started then are matched but not reported. -/

namespace SchemaPool

open SchemaPool.Sql (Query)

/-- A statement that has been started and not yet finished.  Times are in
nanoseconds. -/
structure PendingStatement where
  text : String
  started : Nat
  -- Whether the timer itself is to report it.
  timed : Bool
deriving DecidableEq, Repr

/-- The statements under way on one connection, oldest first, and the number of
holders of the scope. -/
structure QueryTimer where
  monitor : Monitor
  holders : Nat
  pending : List PendingStatement
deriving DecidableEq, Repr

/-- The mark before the list of values that a driver appends to a statement. -/
def bindMark : String := " -- binds: "

def stripBinds (s : String) : String :=
  match Text.cut? bindMark.toList s.toList with
  | some (statement, _) => String.ofList statement
  | none => s

namespace QueryTimer

/-- The most statements that are remembered; beyond it the oldest is forgotten. -/
def capacity : Nat := 64

def new (w : Monitor) : QueryTimer := ⟨w, 0, []⟩

/-- Whether somebody else times a unit of work right now. -/
def isHeld (t : QueryTimer) : Bool := 0 < t.holders

def enter (t : QueryTimer) : QueryTimer := { t with holders := t.holders + 1 }

def leave (t : QueryTimer) : QueryTimer := { t with holders := t.holders - 1 }

def start (t : QueryTimer) (now : Nat) (text : String) : QueryTimer :=
  let kept := if capacity ≤ t.pending.length then t.pending.drop 1 else t.pending
  { t with pending := kept ++ [⟨stripBinds text, now, !t.isHeld⟩] }

/-- The statement that a finish belongs to: the oldest with that text, or the
oldest of all when no text agrees; with the statements that remain. -/
def take? (text : String) (pending : List PendingStatement) :
    Option (PendingStatement × List PendingStatement) :=
  let position := (pending.findIdx? (·.text == text)).getD 0
  match pending[position]? with
  | some p => some (p, pending.eraseIdx position)
  | none => none

def finish (t : QueryTimer) (now : Nat) (text : String) (error : Option String) :
    QueryTimer × Option Report :=
  match take? (stripBinds text) t.pending with
  | none => (t, none)
  | some (p, rest) =>
    let outcome :=
      match error with
      | some e => Outcome.failed e
      | none => Outcome.completed none
    ({ t with pending := rest },
      if p.timed then
        t.monitor.judge (.ofText p.text) (.ofNanos (now - p.started)) outcome
      else none)

/-! ## What the operations keep -/

@[simp] theorem isHeld_enter (t : QueryTimer) : t.enter.isHeld = true := by
  simp [isHeld, enter]

@[simp] theorem leave_enter (t : QueryTimer) : t.enter.leave = t := rfl

@[simp] theorem monitor_start (t : QueryTimer) (now : Nat) (text : String) :
    (t.start now text).monitor = t.monitor := rfl

@[simp] theorem holders_start (t : QueryTimer) (now : Nat) (text : String) :
    (t.start now text).holders = t.holders := rfl

theorem monitor_finish (t : QueryTimer) (now : Nat) (text : String) (error : Option String) :
    (t.finish now text error).1.monitor = t.monitor := by
  unfold finish
  split <;> rfl

theorem holders_finish (t : QueryTimer) (now : Nat) (text : String) (error : Option String) :
    (t.finish now text error).1.holders = t.holders := by
  unfold finish
  split <;> rfl

def view (t : QueryTimer) : String :=
  (Text.FieldView.mk "QueryTimer"
    [("threshold", t.monitor.threshold.view), ("pending", toString t.pending.length)]
    false).render

end QueryTimer

end SchemaPool
