import SchemaPool.Timing.SlowQuery

/-! # What happens as time goes by

The clock, and the reports and log entries made so far, in order.  Every report is
kept; one whose reporter is the log also becomes a log entry. -/

namespace SchemaPool

/-- The time in nanoseconds and what has been reported and logged. -/
structure Timeline where
  now : Nat
  reports : List Report
  entries : List LogEntry
deriving DecidableEq, Repr

def Report.entry? (r : Report) : Option LogEntry :=
  match r.reporter with
  | .log => some r.event.entry
  | .collector _ => none

namespace Timeline

def start : Timeline := ⟨0, [], []⟩

def pass (t : Timeline) (nanos : Nat) : Timeline := { t with now := t.now + nanos }

def note (t : Timeline) (entries : List LogEntry) : Timeline :=
  { t with entries := t.entries ++ entries }

def deliver (t : Timeline) (report : Option Report) : Timeline :=
  { t with
    reports := t.reports ++ report.toList
    entries := t.entries ++ (report.bind Report.entry?).toList }

def collected (t : Timeline) (id : Nat) : List SlowQuery :=
  (t.reports.filter (·.reporter = .collector id)).map (·.event)

def drained (t : Timeline) : Timeline := { t with reports := [], entries := [] }

@[simp] theorem now_pass (t : Timeline) (n : Nat) : (t.pass n).now = t.now + n := rfl

@[simp] theorem reports_pass (t : Timeline) (n : Nat) : (t.pass n).reports = t.reports := rfl

@[simp] theorem now_deliver (t : Timeline) (r : Option Report) : (t.deliver r).now = t.now := rfl

@[simp] theorem reports_deliver (t : Timeline) (r : Option Report) :
    (t.deliver r).reports = t.reports ++ r.toList := rfl

@[simp] theorem reports_note (t : Timeline) (es : List LogEntry) :
    (t.note es).reports = t.reports := rfl

end Timeline

end SchemaPool
