import SchemaPool.Timing.QueryTimer

/-! # Connections that are timed

A connection starts out bare.  The first enabled monitor stays in effect for good:
if the driver takes a timer, every statement is timed; if it does not, only the
labelled units of work are.  A unit that is timed as a whole holds the scope of
the driver's timer, so nothing in it is reported twice. -/

namespace SchemaPool

open SchemaPool.Sql (Query)

/-- How a connection's work is timed. -/
inductive Timing where
  | bare
  -- Only labelled units are timed.
  | units (monitor : Monitor)
  -- The driver times every statement too.
  | driver (monitor : Monitor)
deriving DecidableEq, Repr

namespace Timing

def monitor? : Timing → Option Monitor
  | bare => none
  | units w => some w
  | driver w => some w

def isTimed (t : Timing) : Bool := t.monitor?.isSome

def byDriver : Timing → Bool
  | driver _ => true
  | _ => false

end Timing

/-- The timing side of a connection: whether its driver takes a timer, the timer
that it was given, and how its work is timed. -/
structure TimedConnection where
  hook : Bool
  timer : Option QueryTimer
  timing : Timing
deriving DecidableEq, Repr

/-- A labelled unit of work that is under way. -/
structure OpenUnit where
  -- Who times it, and since when.
  watch : Option (Monitor × Nat)
  -- Whether it holds the scope of the driver's timer.
  holdsScope : Bool
deriving DecidableEq, Repr

namespace TimedConnection

def new (hook : Bool) : TimedConnection := ⟨hook, none, .bare⟩

/-- Puts the connection under a monitor, unless the monitor is disabled or the
connection is under one already; tells whether it did. -/
def instrument (c : TimedConnection) (w : Monitor) : TimedConnection × Bool :=
  if !w.isEnabled || c.timing.isTimed then (c, false)
  else if c.hook then ({ c with timer := some (.new w), timing := .driver w }, true)
  else ({ c with timing := .units w }, true)

def startStatement (c : TimedConnection) (now : Nat) (text : String) : TimedConnection :=
  { c with timer := c.timer.map (·.start now text) }

def finishStatement (c : TimedConnection) (now : Nat) (text : String) (error : Option String) :
    TimedConnection × Option Report :=
  match c.timer with
  | none => (c, none)
  | some t =>
    let (t', report) := t.finish now text error
    ({ c with timer := some t' }, report)

def openUnit (c : TimedConnection) (now : Nat) : TimedConnection × OpenUnit :=
  match c.timing with
  | .bare => (c, ⟨none, false⟩)
  | .units w => (c, ⟨some (w, now), false⟩)
  | .driver w => ({ c with timer := c.timer.map (·.enter) }, ⟨some (w, now), true⟩)

def releaseScope (c : TimedConnection) (u : OpenUnit) : TimedConnection :=
  if u.holdsScope then { c with timer := c.timer.map (·.leave) } else c

def closeUnit (c : TimedConnection) (u : OpenUnit) (now : Nat) (query : Query)
    (outcome : Outcome) : TimedConnection × Option Report :=
  (c.releaseScope u,
    match u.watch with
    | none => none
    | some (w, since) => w.judge query (.ofNanos (now - since)) outcome)

/-- The number of statements under way, where the driver counts them. -/
def pending? (c : TimedConnection) : Option Nat := c.timer.map (·.pending.length)

/-- The connection with its timing forgotten; a timer that the driver was given
stays with the driver. -/
def rewrap (c : TimedConnection) : TimedConnection := { c with timing := .bare }

/-! ## The first monitor stays -/

theorem instrument_of_timed {c : TimedConnection} (w : Monitor) (h : c.timing.isTimed = true) :
    c.instrument w = (c, false) := by
  simp [instrument, h]

theorem instrument_of_disabled (c : TimedConnection) {w : Monitor} (h : w.isEnabled = false) :
    c.instrument w = (c, false) := by
  simp [instrument, h]

/-- The first enabled monitor takes effect, and the driver is offered a timer. -/
theorem instrument_of_bare {c : TimedConnection} {w : Monitor} (hw : w.isEnabled = true)
    (hc : c.timing = .bare) :
    c.instrument w =
      if c.hook then ({ c with timer := some (.new w), timing := .driver w }, true)
      else ({ c with timing := .units w }, true) := by
  simp [instrument, hw, hc, Timing.isTimed, Timing.monitor?]

@[simp] theorem timing_startStatement (c : TimedConnection) (now : Nat) (text : String) :
    (c.startStatement now text).timing = c.timing := rfl

theorem timing_finishStatement (c : TimedConnection) (now : Nat) (text : String)
    (error : Option String) : (c.finishStatement now text error).1.timing = c.timing := by
  rw [finishStatement]
  split <;> rfl

@[simp] theorem timing_openUnit (c : TimedConnection) (now : Nat) :
    (c.openUnit now).1.timing = c.timing := by
  rw [openUnit]
  split <;> rfl

@[simp] theorem timing_releaseScope (c : TimedConnection) (u : OpenUnit) :
    (c.releaseScope u).timing = c.timing := by
  rw [releaseScope]
  split <;> rfl

def view (c : TimedConnection) : String :=
  (Text.FieldView.mk "Instrumented"
    [("instrumented", toString c.timing.isTimed), ("driver_timed", toString c.timing.byDriver)]
    false).render

end TimedConnection

end SchemaPool
