import SchemaPool.Schema.Name
import SchemaPool.Timing.Connection

/-! # Preparing a session

Every new connection is put under the session's monitor and told in which schema
to look tables up.  Neither can fail the connection: a refused statement is
counted and written to the log. -/

namespace SchemaPool

/-- What is done with every new connection, and how often it was refused. -/
structure SessionSetup where
  schema : SchemaName
  statement : String
  monitor : Monitor
  failures : Nat

namespace SessionSetup

def prepare (schema : SchemaName) (monitor : Monitor) : Except Failure SessionSetup :=
  schema.searchPathStatement.map fun statement => ⟨schema, statement, monitor, 0⟩

/-- Puts a connection under the monitor, with the log entry if that changed
anything. -/
def instrument (s : SessionSetup) (c : TimedConnection) : TimedConnection × List LogEntry :=
  let (c', changed) := c.instrument s.monitor
  (c',
    if changed then
      [⟨.trace, .connection, "Connection instrumented",
        [("hook", .text "post_create"), ("threshold", .text s.monitor.threshold.display),
          ("driver_timed", .flag c'.timing.byDriver)]⟩]
    else [])

def conclude (s : SessionSetup) (result : Except QueryError Unit) : SessionSetup × LogEntry :=
  match result with
  | .ok () =>
    (s, ⟨.debug, .connection, "Session search path configured",
      [("hook", .text "post_create"), ("schema", .text s.schema.text)]⟩)
  | .error e =>
    ({ s with failures := s.failures + 1 },
      ⟨.warn, .connection, "Failed to configure session search path",
        [("hook", .text "post_create"), ("schema", .text s.schema.text),
          ("failures", .number (s.failures + 1)), ("error", .text e.message)]⟩)

theorem conclude_eq (s : SessionSetup) (result : Except QueryError Unit) :
    (s.conclude result).1 =
      { s with failures := s.failures + if result.isOk then 0 else 1 } := by
  cases result <;> rfl

@[simp] theorem statement_conclude (s : SessionSetup) (result : Except QueryError Unit) :
    (s.conclude result).1.statement = s.statement := by
  rw [conclude_eq]

/-- How a connection is timed once its session has been prepared. -/
def timing (s : SessionSetup) : Timing :=
  if s.monitor.isEnabled then .driver s.monitor else .bare

theorem timing_eq_driver_iff (s : SessionSetup) :
    s.timing = .driver s.monitor ↔ s.monitor.threshold.millis ≠ 0 := by
  have positive : s.monitor.isEnabled = true ↔ s.monitor.threshold.millis ≠ 0 := by
    simp only [Monitor.isEnabled, Threshold.isEnabled, decide_eq_true_iff, ne_eq,
      UInt64.lt_iff_toNat_lt, ← UInt64.toNat_inj, UInt64.toNat_zero]
    exact Nat.pos_iff_ne_zero
  rw [timing, ← positive]
  split <;> simp_all

theorem timing_instrument_new (s : SessionSetup) :
    (s.instrument (.new true)).1.timing = s.timing := by
  cases enabled : s.monitor.isEnabled with
  | true =>
    rw [instrument, TimedConnection.instrument_of_bare (c := .new true) enabled rfl, timing,
      if_pos enabled]
    rfl
  | false =>
    rw [instrument, TimedConnection.instrument_of_disabled _ enabled, timing, enabled]
    rfl

/-- A connection whose session has been prepared stays as it is when it is put under the
session's monitor again. -/
theorem instrument_of_timing_eq {s : SessionSetup} {c : TimedConnection}
    (prepared : c.timing = s.timing) : c.instrument s.monitor = (c, false) := by
  cases enabled : s.monitor.isEnabled with
  | true =>
    apply TimedConnection.instrument_of_timed
    rw [prepared, timing, if_pos enabled]
    rfl
  | false => exact TimedConnection.instrument_of_disabled c enabled

end SessionSetup

end SchemaPool
