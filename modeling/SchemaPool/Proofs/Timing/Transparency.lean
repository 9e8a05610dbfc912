import SchemaPool.Session.StandIn

/-! # What timing leaves alone

A connection that is timed is sent the same statements at the same times as a bare one, and every
answer is the same.  Two connections are compared that are sent the same work: they may stand
under different monitors or under none, and of their time lines only the clocks must agree
(`Solo.Alike`).  Every step keeps them alike, and putting one of them under a monitor does too,
so it makes no difference where in a run that is done (`Solo.Alike.run`).  What they are compared
with in the end is a connection that nobody ever times (`Solo.run_work_bare`). -/

namespace SchemaPool

/-! ## Work on two connections -/

namespace StandIn

/-- So far the same statements have been sent on both connections, and it is as late for both. -/
structure Alike (s : StandIn) (t : Timeline) (s' : StandIn) (t' : Timeline) : Prop where
  sent : s.sent = s'.sent
  now : t.now = t'.now

namespace Alike

variable {s s' : StandIn} {t t' : Timeline}

theorem start (alike : Alike s t s' t') (text : String) (now now' : Nat) :
    Alike (s.start now text) t (s'.start now' text) t' := by
  refine ⟨?_, alike.now⟩
  show s.sent ++ [text] = s'.sent ++ [text]
  rw [alike.sent]

theorem statement (alike : Alike s t s' t') (x : ScriptedStatement) :
    Alike (s.statement t x).1 (s.statement t x).2.1 (s'.statement t' x).1 (s'.statement t' x).2.1 ∧
      (s.statement t x).2.2 = (s'.statement t' x).2.2 := by
  refine ⟨⟨?_, ?_⟩, rfl⟩
  · show s.sent ++ [x.text] = s'.sent ++ [x.text]
    rw [alike.sent]
  · show t.now + x.nanos = t'.now + x.nanos
    rw [alike.now]

theorem statements (alike : Alike s t s' t') (xs : List ScriptedStatement) :
    Alike (s.statements t xs).1 (s.statements t xs).2.1 (s'.statements t' xs).1
        (s'.statements t' xs).2.1 ∧
      (s.statements t xs).2.2 = (s'.statements t' xs).2.2 := by
  induction xs generalizing s s' t t' with
  | nil => exact ⟨alike, rfl⟩
  | cons x xs ih =>
    obtain ⟨after, same⟩ := alike.statement x
    rw [StandIn.statements, StandIn.statements]
    revert after same
    rcases s.statement t x with ⟨s₁, t₁, result⟩
    rcases s'.statement t' x with ⟨s₂, t₂, result'⟩
    rintro after ⟨⟩
    cases result with
    | ok => exact ih after
    | error e => exact ⟨after, rfl⟩

theorem work (alike : Alike s t s' t') (xs : List UnitStep) :
    Alike (s.work t xs).1 (s.work t xs).2 (s'.work t' xs).1 (s'.work t' xs).2 := by
  induction xs generalizing s s' t t' with
  | nil => exact alike
  | cons x xs ih =>
    cases x with
    | pass nanos =>
      refine ih ⟨alike.sent, ?_⟩
      show t.now + nanos = t'.now + nanos
      rw [alike.now]
    | statement x => exact ih (alike.statement x).1

theorem run (alike : Alike s t s' t') (script : UnitScript) :
    Alike (s.run t script).1 (s.run t script).2.1 (s'.run t' script).1 (s'.run t' script).2.1 ∧
      (s.run t script).2.2 = (s'.run t' script).2.2 := by
  rw [StandIn.run, StandIn.run]
  rcases s.connection.openUnit t.now with ⟨connection, u⟩
  rcases s'.connection.openUnit t'.now with ⟨connection', u'⟩
  have begun : Alike { s with connection } t { s' with connection := connection' } t' :=
    ⟨alike.sent, alike.now⟩
  obtain ⟨after, same⟩ := begun.statements script.body
  dsimp only
  revert after same
  rcases StandIn.statements _ t script.body with ⟨s₁, t₁, worked⟩
  rcases StandIn.statements _ t' script.body with ⟨s₂, t₂, worked'⟩
  rintro after ⟨⟩
  cases worked with
  | error e => exact ⟨⟨after.sent, after.now⟩, rfl⟩
  | ok =>
    cases script.abandonedAt with
    | none => exact ⟨⟨after.sent, after.now⟩, rfl⟩
    | some text =>
      have left := after.start text t₁.now t₂.now
      exact ⟨⟨left.sent, left.now⟩, rfl⟩

theorem unit (alike : Alike s t s' t') (query : Sql.Query) (steps : List UnitStep)
    (result : Except String Produced) :
    Alike (s.unit t query steps result).1 (s.unit t query steps result).2
      (s'.unit t' query steps result).1 (s'.unit t' query steps result).2 := by
  rw [StandIn.unit, StandIn.unit]
  rcases s.connection.openUnit t.now with ⟨connection, u⟩
  rcases s'.connection.openUnit t'.now with ⟨connection', u'⟩
  have begun : Alike { s with connection } t { s' with connection := connection' } t' :=
    ⟨alike.sent, alike.now⟩
  have after := begun.work steps
  exact ⟨after.sent, after.now⟩

end Alike

end StandIn

/-- The same setup, but for its monitor. -/
def SessionSetup.Alike (s s' : SessionSetup) : Prop := ∃ monitor, s' = { s with monitor }

theorem SessionSetup.Alike.conclude {s s' : SessionSetup} (alike : s.Alike s')
    (result : Except QueryError Unit) : (s.conclude result).1.Alike (s'.conclude result).1 := by
  obtain ⟨monitor, rfl⟩ := alike
  rw [conclude_eq, conclude_eq]
  exact ⟨monitor, rfl⟩

namespace StandIn.Alike

variable {s s' : StandIn} {t t' : Timeline} {setup setup' : SessionSetup}

theorem apply (alike : Alike s t s' t') (same : setup.Alike setup') (nanos : Nat)
    (error : Option QueryError) :
    let r := s.apply t setup nanos error
    let r' := s'.apply t' setup' nanos error
    Alike r.1 r.2.1 r'.1 r'.2.1 ∧ r.2.2.1.Alike r'.2.2.1 ∧ r.2.2.2 = r'.2.2.2 := by
  have concluded := same.conclude
  obtain ⟨monitor, rfl⟩ := same
  unfold StandIn.apply
  rcases setup.instrument s.connection with ⟨connection, entries⟩
  rcases SessionSetup.instrument { setup with monitor } s'.connection with ⟨connection', entries'⟩
  have begun : Alike { s with connection } (t.note entries)
      { s' with connection := connection' } (t'.note entries') := ⟨alike.sent, alike.now⟩
  obtain ⟨after, -⟩ := begun.statement ⟨setup.statement, nanos, error.map QueryError.message⟩
  exact ⟨⟨after.sent, after.now⟩, concluded _, rfl⟩

end StandIn.Alike

/-! ## A connection that stays bare -/

namespace StandIn

/-- Nobody has ever put the connection under a monitor, and nothing has been reported but these. -/
structure IsBare (hook : Bool) (reports : List Report) (s : StandIn) (t : Timeline) : Prop where
  connection : s.connection = .new hook
  reports : t.reports = reports

namespace IsBare

variable {hook : Bool} {reports : List Report} {s : StandIn} {t : Timeline}

theorem statement (bare : IsBare hook reports s t) (x : ScriptedStatement) :
    IsBare hook reports (s.statement t x).1 (s.statement t x).2.1 := by
  obtain ⟨connection, sent⟩ := s
  obtain ⟨rfl, rfl⟩ := bare
  exact ⟨rfl, List.append_nil _⟩

theorem statements (bare : IsBare hook reports s t) (xs : List ScriptedStatement) :
    IsBare hook reports (s.statements t xs).1 (s.statements t xs).2.1 := by
  induction xs generalizing s t with
  | nil => exact bare
  | cons x xs ih =>
    have after := bare.statement x
    rw [StandIn.statements]
    revert after
    rcases s.statement t x with ⟨s₁, t₁, result⟩
    intro after
    cases result with
    | ok => exact ih after
    | error e => exact after

theorem work (bare : IsBare hook reports s t) (xs : List UnitStep) :
    IsBare hook reports (s.work t xs).1 (s.work t xs).2 := by
  induction xs generalizing s t with
  | nil => exact bare
  | cons x xs ih =>
    cases x with
    | pass nanos => exact ih ⟨bare.connection, bare.reports⟩
    | statement x => exact ih (bare.statement x)

theorem openUnit (bare : IsBare hook reports s t) :
    s.connection.openUnit t.now = (s.connection, ⟨none, false⟩) := by
  rw [bare.connection]
  rfl

theorem run (bare : IsBare hook reports s t) (script : UnitScript) :
    IsBare hook reports (s.run t script).1 (s.run t script).2.1 := by
  have after := bare.statements script.body
  rw [StandIn.run, bare.openUnit]
  dsimp only
  revert after
  rcases StandIn.statements s t script.body with ⟨s₁, t₁, worked⟩
  intro after
  have closed : (t₁.deliver none).reports = reports := (List.append_nil _).trans after.reports
  cases worked with
  | error e => exact ⟨after.connection, closed⟩
  | ok =>
    cases script.abandonedAt with
    | none => exact ⟨after.connection, closed⟩
    | some text =>
      refine ⟨?_, after.reports⟩
      show s₁.connection.startStatement t₁.now text = .new hook
      rw [after.connection]
      rfl

theorem unit (bare : IsBare hook reports s t) (query : Sql.Query) (steps : List UnitStep)
    (result : Except String Produced) :
    IsBare hook reports (s.unit t query steps result).1 (s.unit t query steps result).2 := by
  have after := bare.work steps
  rw [StandIn.unit, bare.openUnit]
  exact ⟨after.connection, (List.append_nil _).trans after.reports⟩

theorem apply (bare : IsBare hook reports s t) {setup : SessionSetup}
    (disabled : setup.monitor.isEnabled = false) (nanos : Nat) (error : Option QueryError) :
    IsBare hook reports (s.apply t setup nanos error).1 (s.apply t setup nanos error).2.1 := by
  have same : setup.instrument s.connection = (s.connection, []) := by
    rw [SessionSetup.instrument, TimedConnection.instrument_of_disabled _ disabled]
    rfl
  have noted : IsBare hook reports s (t.note []) := ⟨bare.connection, bare.reports⟩
  have after := noted.statement ⟨setup.statement, nanos, error.map QueryError.message⟩
  unfold StandIn.apply
  rw [same]
  exact ⟨after.connection, after.reports⟩

end IsBare

end StandIn

/-! ## Runs on two connections -/

/-- The step does nothing but put the connection under a monitor. -/
def StandInStep.isInstrument : StandInStep → Bool
  | .instrument _ => true
  | _ => false

namespace Solo

/-- So far nobody could tell the connections apart, except by what is reported and logged. -/
structure Alike (s s' : Solo) : Prop where
  setup : s.setup.Alike s'.setup
  standIn : StandIn.Alike s.standIn s.timeline s'.standIn s'.timeline

/-- The steps that are left when the connection is never put under a monitor. -/
def work (steps : List StandInStep) : List StandInStep := steps.filter fun x => !x.isInstrument

/-- What these steps are answered. -/
def replies (steps : List StandInStep) (answers : List StandInAnswer) : List StandInAnswer :=
  ((steps.zip answers).filter fun x => !x.1.isInstrument).map Prod.snd

theorem work_cons (x : StandInStep) (steps : List StandInStep) :
    work (x :: steps) = if x.isInstrument then work steps else x :: work steps := by
  cases plain : x.isInstrument <;> simp [work, plain]

variable {s s' : Solo}

theorem Alike.instrument (alike : s.Alike s') (w : Monitor) :
    (s.step (.instrument w)).1.Alike s' :=
  ⟨alike.setup, alike.standIn.sent, alike.standIn.now⟩

theorem Alike.step (alike : s.Alike s') {x : StandInStep} (plain : x.isInstrument = false) :
    (s.step x).1.Alike (s'.step x).1 ∧ (s.step x).2 = (s'.step x).2 := by
  obtain ⟨setup, standIn⟩ := alike
  cases x with
  | instrument w => cases plain
  | pass nanos =>
    refine ⟨⟨setup, standIn.sent, ?_⟩, rfl⟩
    show s.timeline.now + nanos = s'.timeline.now + nanos
    rw [standIn.now]
  | apply nanos error =>
    obtain ⟨after, setup, same⟩ := standIn.apply setup nanos error
    exact ⟨⟨setup, after⟩, congrArg StandInAnswer.flag same⟩
  | raw x =>
    obtain ⟨after, same⟩ := standIn.statement x
    exact ⟨⟨setup, after⟩, congrArg StandInAnswer.statement same⟩
  | start text => exact ⟨⟨setup, standIn.start text _ _⟩, rfl⟩
  | finish text error => exact ⟨⟨setup, standIn.sent, standIn.now⟩, rfl⟩
  | run script =>
    obtain ⟨after, same⟩ := standIn.run script
    exact ⟨⟨setup, after⟩, congrArg StandInAnswer.unit same⟩
  | unit query steps result => exact ⟨⟨setup, standIn.unit query steps result⟩, rfl⟩
  | rewrap => exact ⟨⟨setup, standIn.sent, standIn.now⟩, rfl⟩

/-- A run keeps the connections alike and answers the same, wherever one of them is put under a
monitor. -/
theorem Alike.run (alike : s.Alike s') (steps : List StandInStep) :
    (s.run steps).1.Alike (s'.run (work steps)).1 ∧
      replies steps (s.run steps).2 = (s'.run (work steps)).2 := by
  induction steps generalizing s s' with
  | nil => exact ⟨alike, rfl⟩
  | cons x steps ih =>
    cases plain : x.isInstrument with
    | true =>
      cases x with
      | instrument w =>
        obtain ⟨after, same⟩ := ih (alike.instrument w)
        exact ⟨after, same⟩
      | _ => cases plain
    | false =>
      obtain ⟨kept, reply⟩ := alike.step plain
      obtain ⟨after, same⟩ := ih kept
      have heard : replies (x :: steps) (s.run (x :: steps)).2 =
          (s.step x).2 :: replies steps ((s.step x).1.run steps).2 := by
        simp [replies, Solo.run, plain]
      rw [work_cons, plain, heard, same, reply]
      exact ⟨after, rfl⟩

theorem step_bare {hook : Bool} {reports : List Report} {x : StandInStep}
    (plain : x.isInstrument = false) (disabled : s.setup.monitor.isEnabled = false)
    (bare : s.standIn.IsBare hook reports s.timeline) :
    (s.step x).1.standIn.IsBare hook reports (s.step x).1.timeline ∧
      (s.step x).1.setup.monitor.isEnabled = false := by
  cases x with
  | instrument w => cases plain
  | pass nanos => exact ⟨⟨bare.connection, bare.reports⟩, disabled⟩
  | apply nanos error =>
    refine ⟨bare.apply disabled nanos error, ?_⟩
    show (s.setup.conclude _).1.monitor.isEnabled = false
    rw [SessionSetup.conclude_eq]
    exact disabled
  | raw x => exact ⟨bare.statement x, disabled⟩
  | start text =>
    refine ⟨⟨?_, bare.reports⟩, disabled⟩
    show s.standIn.connection.startStatement s.timeline.now text = .new hook
    rw [bare.connection]
    rfl
  | finish text error =>
    have finished : s.standIn.connection.finishStatement s.timeline.now text error =
        (.new hook, none) := by
      rw [bare.connection]
      rfl
    refine ⟨?_, disabled⟩
    show StandIn.IsBare _ _ (s.standIn.finish s.timeline text error).1
      (s.standIn.finish s.timeline text error).2
    rw [StandIn.finish, finished]
    exact ⟨rfl, (List.append_nil _).trans bare.reports⟩
  | run script => exact ⟨bare.run script, disabled⟩
  | unit query steps result => exact ⟨bare.unit query steps result, disabled⟩
  | rewrap =>
    refine ⟨⟨?_, bare.reports⟩, disabled⟩
    show s.standIn.connection.rewrap = .new hook
    rw [bare.connection]
    rfl

/-- A connection that nobody puts under a monitor stays bare, and nothing is reported of it. -/
theorem run_work_bare {hook : Bool} {reports : List Report} (steps : List StandInStep)
    (disabled : s.setup.monitor.isEnabled = false)
    (bare : s.standIn.IsBare hook reports s.timeline) :
    (s.run (work steps)).1.standIn.IsBare hook reports (s.run (work steps)).1.timeline := by
  induction steps generalizing s with
  | nil => exact bare
  | cons x steps ih =>
    rw [work_cons]
    cases plain : x.isInstrument with
    | true => exact ih disabled bare
    | false =>
      obtain ⟨after, still⟩ := step_bare plain disabled bare
      exact ih still after

end Solo

end SchemaPool
