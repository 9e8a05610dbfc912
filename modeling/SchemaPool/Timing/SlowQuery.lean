import SchemaPool.Log.Basic
import SchemaPool.Sql.Label
import SchemaPool.Text.Display

/-! # Reports of slow queries -/

namespace SchemaPool

/-- How a query ended. -/
inductive Outcome where
  -- It succeeded; some results have no meaningful number of rows.
  | completed (rows : Option Nat)
  | failed (error : String)
deriving DecidableEq, Repr

/-- A query that was slow. -/
structure SlowQuery where
  millis : UInt64
  label : Sql.Label
  outcome : Outcome
deriving DecidableEq, Repr

def SlowQuery.entry (q : SlowQuery) : LogEntry where
  level := .warn
  target := .queries
  message := "Slow query"
  fields :=
    [("duration_ms", .number q.millis.toNat), ("query", .text q.label.text),
      match q.outcome with
      | .completed rows => ("row_count", .text (Text.optional (rows.map toString)))
      | .failed error => ("err", .text error)]

/-- Who hears of slow queries. -/
inductive Reporter where
  -- They go to the log.
  | log
  -- They are collected under a number.
  | collector (id : Nat)
deriving DecidableEq, Repr

/-- A slow query on its way to the reporter. -/
structure Report where
  reporter : Reporter
  event : SlowQuery
deriving DecidableEq, Repr

/-- What an operation results in, as far as rows can be counted. -/
inductive Produced where
  -- A number of affected rows.
  | count (n : Nat)
  -- A list of rows.
  | rows (n : Nat)
  -- A row that may be missing.
  | row (present : Bool)
  -- Nothing that has rows.
  | nothing
deriving DecidableEq, Repr

def Produced.rowCount : Produced → Option Nat
  | count n => some n
  | rows n => some n
  | row present => some (if present then 1 else 0)
  | nothing => none

end SchemaPool
