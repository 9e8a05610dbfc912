import SchemaPool.Proofs.Timing.Decision
import SchemaPool.Session.StandIn

/-! # What is reported of a timed connection

Three parties decide whether something is reported: the connection, which opens and
closes labelled units, the scope that these units hold, and the driver's timer with its
statements under way.  Between two operations they always stand the same: nobody holds
the scope and no statement is under way (`TimedConnection.watched`).

So every operation can be judged by itself.  A labelled unit is reported when it is slow
as a whole; a statement outside all units is reported when it is slow and the driver takes
a timer; nothing else is reported (`Solo.reports_run_watched`). -/

namespace SchemaPool

open SchemaPool.Sql (Label Query)

/-! ## The verdict on one thing -/

namespace Monitor

/-- What there is to report of something that took so many nanoseconds. -/
def verdict (w : Monitor) (nanos : Nat) (label : Label) (outcome : Outcome) : Option Report :=
  if 0 < w.threshold.millis.toNat ∧ w.threshold.millis.toNat * 1000000 ≤ nanos then
    some ⟨w.reporter, ⟨.ofNat (min (nanos / 1000000) Text.maxWord), label, outcome⟩⟩
  else none

/-- Judging a length of time part by part comes to the verdict on its nanoseconds. -/
theorem judge_ofNanos (w : Monitor) (query : Query) (nanos : Nat) (outcome : Outcome) :
    w.judge query (.ofNanos nanos) outcome = w.verdict nanos query.label outcome := by
  have slow : w.threshold.isExceededBy (.ofNanos nanos) = true ↔
      0 < w.threshold.millis.toNat ∧ w.threshold.millis.toNat * 1000000 ≤ nanos := by
    rw [Threshold.isExceededBy_iff, Duration.toNanos_ofNanos]
  have millis : reportedMillis (.ofNanos nanos) = .ofNat (min (nanos / 1000000) Text.maxWord) := by
    rw [reportedMillis, Duration.toMillis_eq, Duration.toNanos_ofNanos]
  simp only [judge_eq, verdict, slow, millis]

end Monitor

/-- How a statement ended, as far as the driver tells. -/
def Outcome.ofError : Option String → Outcome
  | some error => .failed error
  | none => .completed none

namespace QueryTimer

variable {t : QueryTimer}

/-- A statement that starts and finishes while no other is under way leaves the timer as
it was.  It is judged by itself unless somebody held the scope when it started. -/
theorem finish_start_of_idle (idle : t.pending = []) (now later : Nat) (text : String)
    (error : Option String) :
    (t.start now text).finish later text error =
      (t, if t.isHeld then none
        else t.monitor.verdict (later - now) (.ofText (stripBinds text)) (.ofError error)) := by
  cases t with
  | mk monitor holders pending =>
    subst idle
    by_cases held : 0 < holders
    · cases error <;> simp [start, finish, take?, capacity, isHeld, held]
    · cases error <;>
        simp [start, finish, take?, capacity, isHeld, held, Monitor.judge_ofNanos,
          Query.label, Query.ofText, Query.label.ofTextLabel, Outcome.ofError]

end QueryTimer

/-! ## A connection between two operations -/

namespace TimedConnection

/-- The connection that the monitor has had in view since it took effect, between two
operations: nobody holds the scope and no statement is under way. -/
def watched (hook : Bool) (w : Monitor) : TimedConnection :=
  if hook then ⟨true, some (.new w), .driver w⟩ else ⟨false, none, .units w⟩

/-- The same connection while a labelled unit is under way. -/
def engaged (hook : Bool) (w : Monitor) : TimedConnection :=
  if hook then ⟨true, some (QueryTimer.new w).enter, .driver w⟩ else ⟨false, none, .units w⟩

/-- The first enabled monitor has the connection in view from then on. -/
theorem instrument_eq_watched {c : TimedConnection} {w : Monitor} (bare : c.timing = .bare)
    (driver : c.hook = false → c.timer = none) (enabled : w.isEnabled = true) :
    (c.instrument w).1 = watched c.hook w := by
  rw [instrument_of_bare enabled bare]
  obtain ⟨hook, timer, timing⟩ := c
  cases hook with
  | true => rfl
  | false =>
    have absent : timer = none := driver rfl
    subst absent
    rfl

theorem instrument_watched (hook : Bool) (w v : Monitor) :
    (watched hook w).instrument v = (watched hook w, false) := by
  apply instrument_of_timed
  cases hook <;> rfl

theorem finish_start_watched (hook : Bool) (w : Monitor) (now later : Nat) (text : String)
    (error : Option String) :
    ((watched hook w).startStatement now text).finishStatement later text error =
      (watched hook w,
        if hook then w.verdict (later - now) (.ofText (stripBinds text)) (.ofError error)
        else none) := by
  cases hook with
  | false => rfl
  | true =>
    have judged := QueryTimer.finish_start_of_idle (t := .new w) rfl now later text error
    simp only [watched, startStatement, finishStatement, Option.map_some, if_true, judged]
    rfl

/-- A statement inside a labelled unit is never reported on its own. -/
theorem finish_start_engaged (hook : Bool) (w : Monitor) (now later : Nat) (text : String)
    (error : Option String) :
    ((engaged hook w).startStatement now text).finishStatement later text error =
      (engaged hook w, none) := by
  cases hook with
  | false => rfl
  | true =>
    have judged := QueryTimer.finish_start_of_idle (t := (QueryTimer.new w).enter) rfl now later
      text error
    simp only [engaged, startStatement, finishStatement, Option.map_some, if_true, judged,
      QueryTimer.isHeld_enter]

theorem openUnit_watched (hook : Bool) (w : Monitor) (now : Nat) :
    (watched hook w).openUnit now = (engaged hook w, ⟨some (w, now), hook⟩) := by
  cases hook <;> rfl

theorem closeUnit_engaged (hook : Bool) (w : Monitor) (now later : Nat) (query : Query)
    (outcome : Outcome) :
    (engaged hook w).closeUnit ⟨some (w, now), hook⟩ later query outcome =
      (watched hook w, w.verdict (later - now) query.label outcome) := by
  rw [← Monitor.judge_ofNanos]
  cases hook <;> rfl

end TimedConnection

/-! ## What each operation does -/

/-- The statements that a unit sends: all up to the first that fails. -/
def ScriptedStatement.sent : List ScriptedStatement → List ScriptedStatement
  | [] => []
  | x :: xs =>
    match x.error with
    | none => x :: sent xs
    | some _ => [x]

/-- The error that ends a unit which gives up at the first statement that fails. -/
def ScriptedStatement.failure? : List ScriptedStatement → Option String
  | [] => none
  | x :: xs => x.error.or (failure? xs)

/-- How a unit ends that does not abandon its work. -/
def UnitScript.result (script : UnitScript) : Except String Produced :=
  match ScriptedStatement.failure? script.body with
  | some error => .error error
  | none => script.ending

/-- What a unit does that does not abandon its work. -/
def UnitScript.steps (script : UnitScript) : List UnitStep :=
  (ScriptedStatement.sent script.body).map .statement

def UnitStep.nanos : UnitStep → Nat
  | .pass nanos => nanos
  | .statement x => x.nanos

def UnitStep.total : List UnitStep → Nat
  | [] => 0
  | step :: steps => step.nanos + total steps

namespace StandIn

theorem statements_eq_work (s : StandIn) (t : Timeline) (xs : List ScriptedStatement) :
    s.statements t xs =
      ((s.work t ((ScriptedStatement.sent xs).map .statement)).1,
        (s.work t ((ScriptedStatement.sent xs).map .statement)).2,
        match ScriptedStatement.failure? xs with
        | some error => .error error
        | none => .ok ()) := by
  induction xs generalizing s t with
  | nil => rfl
  | cons x xs ih =>
    obtain ⟨text, nanos, error⟩ := x
    cases error with
    | none =>
      simp only [statements, statement, ScriptedStatement.sent, ScriptedStatement.failure?,
        List.map_cons, work, Option.none_or]
      exact ih _ _
    | some error => rfl

theorem run_eq_unit (s : StandIn) (t : Timeline) {script : UnitScript}
    (kept : script.abandonedAt = none) :
    s.run t script =
      ((s.unit t script.query script.steps script.result).1,
        (s.unit t script.query script.steps script.result).2, .ended script.result) := by
  simp only [run, kept, statements_eq_work, unit, UnitScript.steps, UnitScript.result]
  cases ScriptedStatement.failure? script.body <;> rfl

end StandIn

def Monitor.onStatement (w : Monitor) (hook : Bool) (x : ScriptedStatement) : List Report :=
  if hook then
    (w.verdict x.nanos (.ofText (stripBinds x.text)) (.ofError x.error)).toList
  else []

def Monitor.onUnit (w : Monitor) (query : Query) (steps : List UnitStep)
    (result : Except String Produced) : List Report :=
  (w.verdict (UnitStep.total steps) query.label (outcomeOf result)).toList

namespace StandIn

variable (hook : Bool) (w : Monitor) (sent : List String) (t : Timeline)

theorem statement_watched (x : ScriptedStatement) :
    (statement ⟨.watched hook w, sent⟩ t x).1 = ⟨.watched hook w, sent ++ [x.text]⟩ ∧
    (statement ⟨.watched hook w, sent⟩ t x).2.1.reports = t.reports ++ w.onStatement hook x := by
  have judged := TimedConnection.finish_start_watched hook w t.now (t.now + x.nanos) x.text x.error
  refine ⟨?_, ?_⟩
  · simp only [statement, StandIn.start, StandIn.finish, Timeline.now_pass, judged]
  · simp only [statement, StandIn.start, StandIn.finish, Timeline.now_pass, judged,
      Timeline.reports_deliver, Nat.add_sub_cancel_left, Monitor.onStatement]
    cases hook <;> simp

/-- Nothing that happens inside a unit is reported, and its steps take their time. -/
theorem work_engaged (steps : List UnitStep) :
    ∃ sent', (work ⟨.engaged hook w, sent⟩ t steps).1 = ⟨.engaged hook w, sent'⟩ ∧
      (work ⟨.engaged hook w, sent⟩ t steps).2.reports = t.reports ∧
      (work ⟨.engaged hook w, sent⟩ t steps).2.now = t.now + UnitStep.total steps := by
  induction steps generalizing sent t with
  | nil => exact ⟨sent, rfl, rfl, rfl⟩
  | cons step steps ih =>
    cases step with
    | pass nanos =>
      obtain ⟨sent', same, reports, now⟩ := ih sent (t.pass nanos)
      refine ⟨sent', same, reports, ?_⟩
      simp only [work, now, Timeline.now_pass, UnitStep.total, UnitStep.nanos]
      omega
    | statement x =>
      -- The scope is held, so the driver's timer finishes the statement without a report.
      have silent := TimedConnection.finish_start_engaged hook w t.now (t.now + x.nanos) x.text
        x.error
      have here : (statement ⟨.engaged hook w, sent⟩ t x).1 =
          ⟨.engaged hook w, sent ++ [x.text]⟩ := by
        simp only [statement, StandIn.start, StandIn.finish, Timeline.now_pass, silent]
      have after : (statement ⟨.engaged hook w, sent⟩ t x).2.1 =
          (t.pass x.nanos).deliver none := by
        simp only [statement, StandIn.start, StandIn.finish, Timeline.now_pass, silent]
      obtain ⟨sent', same, reports, now⟩ :=
        ih (sent ++ [x.text]) ((t.pass x.nanos).deliver none)
      refine ⟨sent', by simpa only [work, here, after] using same, ?_, ?_⟩
      · simp only [work, here, after, reports, Timeline.reports_deliver, Timeline.reports_pass,
          Option.toList_none, List.append_nil]
      · simp only [work, here, after, now, Timeline.now_deliver, Timeline.now_pass,
          UnitStep.total, UnitStep.nanos]
        omega

/-- A labelled unit is reported if it is slow as a whole, and leaves the connection as it
was. -/
theorem unit_watched (query : Query) (steps : List UnitStep) (result : Except String Produced) :
    (unit ⟨.watched hook w, sent⟩ t query steps result).1.connection = .watched hook w ∧
    (unit ⟨.watched hook w, sent⟩ t query steps result).2.reports =
      t.reports ++ w.onUnit query steps result := by
  obtain ⟨sent', same, reports, now⟩ := work_engaged hook w sent t steps
  have opened := TimedConnection.openUnit_watched hook w t.now
  have closed := TimedConnection.closeUnit_engaged hook w t.now (t.now + UnitStep.total steps)
    query (Monitor.outcomeOf result)
  simp only [unit, opened, same, now, closed, Timeline.reports_deliver, reports,
    Nat.add_sub_cancel_left, Monitor.onUnit, and_self]

end StandIn

/-! ## A whole run -/

namespace StandInStep

/-- Whether a step leaves nothing open: every statement that it starts it sees finished, and
the connection stays wrapped. -/
def isWhole : StandInStep → Bool
  | .start _ => false
  | .finish _ _ => false
  | .run script => script.abandonedAt.isNone
  | .rewrap => false
  | _ => true

/-- What is reported of a step on a connection that the monitor has in view, where
`statement` is the statement of the session's setup. -/
def reports (hook : Bool) (w : Monitor) (statement : String) : StandInStep → List Report
  | .raw x => w.onStatement hook x
  | .apply nanos error => w.onStatement hook ⟨statement, nanos, error.map QueryError.message⟩
  | .run script => w.onUnit script.query script.steps script.result
  | .unit query steps result => w.onUnit query steps result
  | _ => []

end StandInStep

namespace Solo

/-- One step reports what there is to report of it and leaves the connection as it was. -/
theorem step_watched {s : Solo} {hook : Bool} {w : Monitor} {x : StandInStep}
    (watched : s.standIn.connection = .watched hook w) (whole : x.isWhole = true) :
    (s.step x).1.standIn.connection = .watched hook w ∧
    (s.step x).1.setup.statement = s.setup.statement ∧
    (s.step x).1.timeline.reports =
      s.timeline.reports ++ x.reports hook w s.setup.statement := by
  obtain ⟨setup, ⟨connection, sent⟩, t⟩ := s
  have same : connection = .watched hook w := watched
  subst same
  cases x with
  | pass nanos => exact ⟨rfl, rfl, (List.append_nil _).symm⟩
  | instrument v =>
    have still := TimedConnection.instrument_watched hook w v
    simp only [step, still, StandInStep.reports, List.append_nil, and_self]
  | apply nanos error =>
    -- The setup's own monitor comes too late, and its statement is one outside all units.
    have still := TimedConnection.instrument_watched hook w setup.monitor
    obtain ⟨same, reports⟩ := StandIn.statement_watched hook w sent (t.note [])
      ⟨setup.statement, nanos, error.map QueryError.message⟩
    refine ⟨?_, setup.statement_conclude _, ?_⟩
    · simp only [step, StandIn.apply, SessionSetup.instrument, still, Bool.false_eq_true, if_false,
        same]
    · simp only [step, StandIn.apply, SessionSetup.instrument, still, Bool.false_eq_true, if_false,
        Timeline.reports_note, reports, StandInStep.reports]
  | raw x =>
    obtain ⟨same, reports⟩ := StandIn.statement_watched hook w sent t x
    exact ⟨congrArg StandIn.connection same, rfl, reports⟩
  | start text => simp [StandInStep.isWhole] at whole
  | finish text error => simp [StandInStep.isWhole] at whole
  | run script =>
    -- A unit that gives up at the first failure is one of those that may go on.
    have kept : script.abandonedAt = none := by simpa [StandInStep.isWhole] using whole
    obtain ⟨same, reports⟩ :=
      StandIn.unit_watched hook w sent t script.query script.steps script.result
    refine ⟨?_, rfl, ?_⟩
    · simp only [step, StandIn.run_eq_unit _ _ kept, same]
    · simp only [step, StandIn.run_eq_unit _ _ kept, reports, StandInStep.reports]
  | unit query steps result =>
    obtain ⟨same, reports⟩ := StandIn.unit_watched hook w sent t query steps result
    exact ⟨same, rfl, reports⟩
  | rewrap => simp [StandInStep.isWhole] at whole

theorem run_watched {s : Solo} {hook : Bool} {w : Monitor} {steps : List StandInStep}
    (watched : s.standIn.connection = .watched hook w)
    (whole : ∀ x ∈ steps, x.isWhole = true) :
    (s.run steps).1.timeline.reports =
      s.timeline.reports ++ steps.flatMap (StandInStep.reports hook w s.setup.statement) := by
  induction steps generalizing s with
  | nil => exact (List.append_nil _).symm
  | cons x xs ih =>
    obtain ⟨still, statement, reports⟩ := step_watched watched (whole x List.mem_cons_self)
    have rest := ih still (fun y member => whole y (List.mem_cons_of_mem x member))
    rw [run, rest, reports, statement, List.flatMap_cons, List.append_assoc]

/-- Once an enabled monitor has taken effect on a bare connection, a run of whole operations
reports exactly this, in order: one slow query for each labelled unit that took at least the
threshold as a whole, and, on a driver that takes a timer, one for each statement outside all
units that took at least the threshold.  What happens inside a unit is never reported on its
own, and no other monitor reports anything. -/
theorem reports_run_of_instrumented (s : Solo) (w : Monitor) (steps : List StandInStep)
    (bare : s.standIn.connection.timing = .bare)
    (driver : s.standIn.connection.hook = false → s.standIn.connection.timer = none)
    (enabled : w.isEnabled = true) (whole : ∀ x ∈ steps, x.isWhole = true) :
    ((s.step (.instrument w)).1.run steps).1.timeline.reports =
      s.timeline.reports ++
        steps.flatMap (StandInStep.reports s.standIn.connection.hook w s.setup.statement) :=
  run_watched (TimedConnection.instrument_eq_watched bare driver enabled) whole

/-- A unit of 60 milliseconds that goes on after a failed statement, a failed raw statement
with values, a statement that is quick enough, and a slow session statement after another
monitor was turned down. -/
theorem reports_run_of_mixed_use :
    ((Solo.step
        ⟨⟨.standard, "SET search_path TO \"public\"", .disabled, 0⟩, .new true, .start⟩
        (.instrument ⟨⟨50⟩, .collector 0⟩)).1.run
      [.unit (.named "listOrders")
          [.statement ⟨"SELECT * FROM orders", 40000000, some "deadlock"⟩, .pass 20000000] (.ok (.rows 3)),
        .raw ⟨"DELETE FROM carts WHERE id = $1 -- binds: [7]", 50000000, some "gone"⟩,
        .raw ⟨"SELECT 1", 49999, none⟩,
        .instrument ⟨⟨1⟩, .collector 1⟩,
        .apply 70000000 none]).1.timeline.reports =
      [⟨.collector 0, ⟨60, ⟨"listOrders"⟩, .completed (some 3)⟩⟩,
        ⟨.collector 0, ⟨50, ⟨"DELETE carts"⟩, .failed "gone"⟩⟩,
        ⟨.collector 0, ⟨70, ⟨"SET"⟩, .completed none⟩⟩] := by
  rw [reports_run_of_instrumented _ _ _ rfl (fun absurd => by cases absurd) (by decide) (by decide)]
  decide +kernel

end Solo

end SchemaPool
