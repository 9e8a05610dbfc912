import SchemaPool.Sql.Query
import SchemaPool.Timing.SlowQuery
import SchemaPool.Timing.Threshold

/-! # Deciding which queries are reported

A monitor has a threshold and a reporter.  It looks at a finished query's time
first; the label and the outcome are worked out only for a query that is
reported. -/

namespace SchemaPool

open SchemaPool.Sql (Query)

/-- Decides which queries are slow and who hears of them. -/
structure Monitor where
  threshold : Threshold
  reporter : Reporter
deriving DecidableEq, Repr

namespace Monitor

def disabled : Monitor := ⟨.disabled, .log⟩

def isEnabled (w : Monitor) : Bool := w.threshold.isEnabled

/-- The whole milliseconds of a length of time, or the greatest number of 64 bits
if there are more. -/
def reportedMillis (d : Duration) : UInt64 := UInt64.ofNat (min d.toMillis Text.maxWord)

/-- The report on a finished query, if it was slow.  The outcome is asked for only
then, and asking may have effects. -/
def record {m : Type → Type} [Monad m] (w : Monitor) (query : Query) (elapsed : Duration)
    (outcome : m Outcome) : m (Option Report) :=
  if w.threshold.isExceededBy elapsed then do
    let result ← outcome
    pure (some ⟨w.reporter, ⟨reportedMillis elapsed, query.label, result⟩⟩)
  else pure none

def judge (w : Monitor) (query : Query) (elapsed : Duration) (outcome : Outcome) :
    Option Report :=
  Id.run (w.record query elapsed (pure outcome))

/-- The report on a finished query, and whether the outcome was asked for. -/
def judgeAsking (w : Monitor) (query : Query) (elapsed : Duration) (outcome : Outcome) :
    Option Report × Bool :=
  (w.record (m := StateM Bool) query elapsed (do set true; pure outcome)).run false

def outcomeOf : Except String Produced → Outcome
  | .ok produced => .completed produced.rowCount
  | .error error => .failed error

def view (w : Monitor) : String :=
  (Text.FieldView.mk "SlowQueryInstrumentor" [("threshold", w.threshold.view)] false).render

end Monitor

end SchemaPool
