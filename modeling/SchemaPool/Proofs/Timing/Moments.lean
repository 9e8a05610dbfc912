import SchemaPool.Proofs.Timing.Reporting

/-! # Work on a connection, moment by moment

Whatever is done on a timed connection comes down to a few things that happen at one moment each:
statements start and finish, labelled units begin and end, and monitors are put on.  What a
connection reports is a matter of these moments alone (`BusyConnection.run`).

A scripted step takes a while, and its moments can be read off the script
(`StandInStep.moments`).  Taken one after another they leave the connection as the step does and
report what it reports (`Solo.step_moments`), so that steps on different connections may be
taken apart and put together again in any order. -/

namespace SchemaPool

open SchemaPool.Sql (Query)

/-! ## Moments -/

/-- One thing that happens to a connection at one moment. -/
inductive ConnectionStep where
  | instrument (monitor : Monitor)
  | start (text : String)
  | finish (text : String) (error : Option String)
  -- A labelled unit begins.
  | begin (query : Query)
  -- The newest labelled unit ends.
  | conclude (outcome : Outcome)
  -- The newest labelled unit is dropped before it ends.
  | abandon
  -- The connection is wrapped anew, which nobody can do while a unit works on it.
  | rewrap
deriving DecidableEq, Repr

structure Moment where
  now : Nat
  step : ConnectionStep
deriving DecidableEq, Repr

/-- A connection with the labelled units that are under way on it, the newest first. -/
structure BusyConnection where
  connection : TimedConnection
  units : List (OpenUnit × Query)
deriving DecidableEq, Repr

namespace BusyConnection

def new (hook : Bool) : BusyConnection := ⟨.new hook, []⟩

def step (b : BusyConnection) (now : Nat) : ConnectionStep → BusyConnection × Option Report
  | .instrument w => ({ b with connection := (b.connection.instrument w).1 }, none)
  | .start text => ({ b with connection := b.connection.startStatement now text }, none)
  | .finish text error =>
    let (connection, report) := b.connection.finishStatement now text error
    ({ b with connection }, report)
  | .begin query =>
    let (connection, u) := b.connection.openUnit now
    (⟨connection, (u, query) :: b.units⟩, none)
  | .conclude outcome =>
    match b.units with
    | [] => (b, none)
    | (u, query) :: units =>
      let (connection, report) := b.connection.closeUnit u now query outcome
      (⟨connection, units⟩, report)
  | .abandon =>
    match b.units with
    | [] => (b, none)
    | (u, _) :: units => (⟨b.connection.releaseScope u, units⟩, none)
  | .rewrap =>
    match b.units with
    | [] => ({ b with connection := b.connection.rewrap }, none)
    | _ :: _ => (b, none)

/-- What becomes of a connection, and what is reported of it, in order. -/
def run (b : BusyConnection) : List Moment → BusyConnection × List Report
  | [] => (b, [])
  | m :: ms =>
    let (b, report) := b.step m.now m.step
    let (b, reports) := b.run ms
    (b, report.toList ++ reports)

@[simp] theorem run_nil (b : BusyConnection) : b.run [] = (b, []) := rfl

theorem run_cons (b : BusyConnection) (m : Moment) (ms : List Moment) :
    b.run (m :: ms) = (((b.step m.now m.step).1.run ms).1,
      (b.step m.now m.step).2.toList ++ ((b.step m.now m.step).1.run ms).2) := rfl

theorem run_append (b : BusyConnection) (ms ns : List Moment) :
    b.run (ms ++ ns) = (((b.run ms).1.run ns).1, (b.run ms).2 ++ ((b.run ms).1.run ns).2) := by
  induction ms generalizing b with
  | nil => rfl
  | cons m ms ih => rw [List.cons_append, run_cons, run_cons, ih, List.append_assoc]

end BusyConnection

/-! ## The moments of a script -/

namespace Moment

def ofStatement (now : Nat) (x : ScriptedStatement) : List Moment :=
  [⟨now, .start x.text⟩, ⟨now + x.nanos, .finish x.text x.error⟩]

def ofWork (now : Nat) : List UnitStep → List Moment
  | [] => []
  | .pass nanos :: xs => ofWork (now + nanos) xs
  | .statement x :: xs => ofStatement now x ++ ofWork (now + x.nanos) xs

/-- The moments of a labelled unit, which comes to its end by some last steps. -/
def ofUnit (now : Nat) (query : Query) (steps : List UnitStep) (last : List ConnectionStep) :
    List Moment :=
  ⟨now, .begin query⟩ :: ofWork now steps ++ last.map (⟨now + UnitStep.total steps, ·⟩)

end Moment

/-- The last steps of a unit: one whose statements have all succeeded may still be dropped. -/
def UnitScript.last (script : UnitScript) : List ConnectionStep :=
  match ScriptedStatement.failure? script.body, script.abandonedAt with
  | none, some text => [.start text, .abandon]
  | _, _ => [.conclude (Monitor.outcomeOf script.result)]

open Moment (ofStatement ofWork ofUnit)

namespace StandInStep

/-- The moments of a step that begins now. -/
def moments (setup : SessionSetup) (now : Nat) : StandInStep → List Moment
  | .pass _ => []
  | .instrument w => [⟨now, .instrument w⟩]
  | .apply nanos error =>
    ⟨now, .instrument setup.monitor⟩ ::
      ofStatement now ⟨setup.statement, nanos, error.map QueryError.message⟩
  | .raw x => ofStatement now x
  | .start text => [⟨now, .start text⟩]
  | .finish text error => [⟨now, .finish text error⟩]
  | .run script => ofUnit now script.query script.steps script.last
  | .unit query steps result => ofUnit now query steps [.conclude (Monitor.outcomeOf result)]
  | .rewrap => [⟨now, .rewrap⟩]

/-- The nanoseconds that a step takes. -/
def nanos : StandInStep → Nat
  | .pass nanos => nanos
  | .apply nanos _ => nanos
  | .raw x => x.nanos
  | .run script => UnitStep.total script.steps
  | .unit _ steps _ => UnitStep.total steps
  | _ => 0

end StandInStep

/-! ## Steps and their moments -/

/-- The moments lead from a connection and a time line to others, so much later. -/
structure Leads (b : BusyConnection) (t : Timeline) (ms : List Moment) (nanos : Nat)
    (b' : BusyConnection) (t' : Timeline) : Prop where
  state : (b.run ms).1 = b'
  reports : t'.reports = t.reports ++ (b.run ms).2
  now : t'.now = t.now + nanos

namespace Leads

variable {b b' b'' : BusyConnection} {t t' t'' : Timeline} {ms ns : List Moment} {m n : Nat}

theorem trans (first : Leads b t ms m b' t') (second : Leads b' t' ns n b'' t'') :
    Leads b t (ms ++ ns) (m + n) b'' t'' where
  state := by rw [BusyConnection.run_append, first.state, second.state]
  reports := by
    rw [BusyConnection.run_append, first.state, second.reports, first.reports, List.append_assoc]
  now := by rw [second.now, first.now, Nat.add_assoc]

/-- Time goes by, and nothing is reported. -/
theorem wait (b : BusyConnection) (reports : t'.reports = t.reports) (now : t'.now = t.now + n) :
    Leads b t [] n b t' :=
  ⟨rfl, reports.trans (List.append_nil _).symm, now⟩

/-- One step, whose report is delivered. -/
theorem one (b : BusyConnection) (t : Timeline) (x : ConnectionStep) :
    Leads b t [⟨t.now, x⟩] 0 (b.step t.now x).1 (t.deliver (b.step t.now x).2) :=
  ⟨rfl, by rw [BusyConnection.run_cons, BusyConnection.run_nil, List.append_nil]; rfl, rfl⟩

/-- What becomes of the log makes no difference. -/
theorem congr_right (leads : Leads b t ms m b' t') (reports : t''.reports = t'.reports)
    (now : t''.now = t'.now) : Leads b t ms m b' t'' :=
  ⟨leads.state, reports.trans leads.reports, now.trans leads.now⟩

theorem quiet {x : ConnectionStep} (b : BusyConnection) (t : Timeline)
    (none : (b.step t.now x).2 = none) : Leads b t [⟨t.now, x⟩] 0 (b.step t.now x).1 t :=
  (one b t x).congr_right (by rw [none]; exact (List.append_nil _).symm) rfl

end Leads

namespace StandIn

variable (s : StandIn) (t : Timeline) (us : List (OpenUnit × Query))

theorem statement_leads (x : ScriptedStatement) :
    Leads ⟨s.connection, us⟩ t (ofStatement t.now x) x.nanos
      ⟨(s.statement t x).1.connection, us⟩ (s.statement t x).2.1 :=
  ⟨rfl, by simp [ofStatement, BusyConnection.run, BusyConnection.step, statement, start,
    finish], rfl⟩

theorem work_leads (steps : List UnitStep) :
    Leads ⟨s.connection, us⟩ t (ofWork t.now steps) (UnitStep.total steps)
      ⟨(s.work t steps).1.connection, us⟩ (s.work t steps).2 := by
  induction steps generalizing s t with
  | nil => exact .wait _ rfl rfl
  | cons step steps ih =>
    cases step with
    | pass nanos =>
      have waited : Leads ⟨s.connection, us⟩ t [] nanos ⟨s.connection, us⟩ (t.pass nanos) :=
        .wait _ rfl rfl
      exact waited.trans (ih s (t.pass nanos))
    | statement x =>
      exact (s.statement_leads t us x).trans (ih (s.statement t x).1 (s.statement t x).2.1)

/-- The connection of a unit that has begun, and the unit. -/
theorem begin_work_leads (query : Query) (steps : List UnitStep) :
    let opened := s.connection.openUnit t.now
    let worked := work { s with connection := opened.1 } t steps
    Leads ⟨s.connection, us⟩ t (⟨t.now, .begin query⟩ :: ofWork t.now steps)
      (UnitStep.total steps) ⟨worked.1.connection, (opened.2, query) :: us⟩ worked.2 := by
  have begun : Leads ⟨s.connection, us⟩ t [⟨t.now, .begin query⟩] 0 _ t := .quiet _ _ rfl
  have worked := begun.trans (work_leads { s with connection := (s.connection.openUnit t.now).1 } t
    (((s.connection.openUnit t.now).2, query) :: us) steps)
  rwa [Nat.zero_add] at worked

/-- The last moments of a unit are those at which its work is done. -/
theorem ofUnit_eq (query : Query) (steps : List UnitStep) (last : List ConnectionStep) :
    let worked := work { s with connection := (s.connection.openUnit t.now).1 } t steps
    ofUnit t.now query steps last =
      (⟨t.now, .begin query⟩ :: ofWork t.now steps) ++ last.map (⟨worked.2.now, ·⟩) := by
  have worked := s.begin_work_leads t [] query steps
  intro after
  rw [worked.now, ofUnit]

theorem unit_leads (query : Query) (steps : List UnitStep) (result : Except String Produced) :
    Leads ⟨s.connection, us⟩ t
      (ofUnit t.now query steps [.conclude (Monitor.outcomeOf result)]) (UnitStep.total steps)
      ⟨(s.unit t query steps result).1.connection, us⟩ (s.unit t query steps result).2 := by
  have worked := s.begin_work_leads t us query steps
  have ended := worked.trans (Leads.one _ _ (.conclude (Monitor.outcomeOf result)))
  rw [s.ofUnit_eq t]
  exact ended

/-- A unit that is dropped leaves its last statement unfinished. -/
theorem run_leads (script : UnitScript) :
    Leads ⟨s.connection, us⟩ t (ofUnit t.now script.query script.steps script.last)
      (UnitStep.total script.steps) ⟨(s.run t script).1.connection, us⟩ (s.run t script).2.1 := by
  have kept (last : script.last = [.conclude (Monitor.outcomeOf script.result)])
      (same : s.run t script = ((s.unit t script.query script.steps script.result).1,
        (s.unit t script.query script.steps script.result).2, .ended script.result)) :
      Leads ⟨s.connection, us⟩ t (ofUnit t.now script.query script.steps script.last)
        (UnitStep.total script.steps) ⟨(s.run t script).1.connection, us⟩ (s.run t script).2.1 := by
    rw [last, same]
    exact s.unit_leads t us script.query script.steps script.result
  cases dropped : script.abandonedAt with
  | none =>
    refine kept ?_ (s.run_eq_unit t dropped)
    rw [UnitScript.last, dropped]
    cases ScriptedStatement.failure? script.body <;> rfl
  | some text =>
    cases failed : ScriptedStatement.failure? script.body with
    | some error =>
      refine kept ?_ ?_
      · rw [UnitScript.last, failed]
      · simp only [run, statements_eq_work, unit, UnitScript.steps, UnitScript.result, failed]
        rfl
    | none =>
      have worked := s.begin_work_leads t us script.query script.steps
      have ended := (worked.trans (Leads.quiet (x := .start text) _ _ rfl)).trans
        (Leads.quiet (x := .abandon) _ _ rfl)
      have last : script.last = [.start text, .abandon] := by rw [UnitScript.last, failed, dropped]
      rw [last, s.ofUnit_eq t]
      simp only [run, statements_eq_work, failed, dropped]
      rw [List.append_assoc] at ended
      exact ended

theorem apply_leads (setup : SessionSetup) (nanos : Nat) (error : Option QueryError) :
    Leads ⟨s.connection, us⟩ t
      (⟨t.now, .instrument setup.monitor⟩ ::
        ofStatement t.now ⟨setup.statement, nanos, error.map QueryError.message⟩) nanos
      ⟨(s.apply t setup nanos error).1.connection, us⟩ (s.apply t setup nanos error).2.1 := by
  have begun : Leads ⟨s.connection, us⟩ t [⟨t.now, .instrument setup.monitor⟩] 0
      ⟨(setup.instrument s.connection).1, us⟩ (t.note (setup.instrument s.connection).2) :=
    (Leads.quiet _ _ rfl).congr_right rfl rfl
  have sent := begun.trans (statement_leads
    { s with connection := (setup.instrument s.connection).1 }
    (t.note (setup.instrument s.connection).2) us
    ⟨setup.statement, nanos, error.map QueryError.message⟩)
  rw [Nat.zero_add] at sent
  exact sent.congr_right rfl rfl

end StandIn

/-- A step comes to what its moments come to, and no unit is under way before it or after. -/
theorem Solo.step_moments (s : Solo) (x : StandInStep) :
    Leads ⟨s.standIn.connection, []⟩ s.timeline (x.moments s.setup s.timeline.now) x.nanos
      ⟨(s.step x).1.standIn.connection, []⟩ (s.step x).1.timeline := by
  cases x with
  | pass nanos => exact .wait _ rfl rfl
  | instrument w => exact .quiet _ _ rfl
  | apply nanos error => exact s.standIn.apply_leads s.timeline [] s.setup nanos error
  | raw x => exact s.standIn.statement_leads s.timeline [] x
  | start text => exact .quiet _ _ rfl
  | finish text error => exact .one _ _ (.finish text error)
  | run script => exact s.standIn.run_leads s.timeline [] script
  | unit query steps result => exact s.standIn.unit_leads s.timeline [] query steps result
  | rewrap => exact .quiet _ _ rfl

end SchemaPool
