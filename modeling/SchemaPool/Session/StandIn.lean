import SchemaPool.Session.Setup
import SchemaPool.Timing.Timeline

/-! # Scripts on stand-in connections

Connections whose statements take as long, and end as badly, as a script says.
Everything that can happen to a timed connection happens here step by step, on
any number of connections at once. -/

namespace SchemaPool

open SchemaPool.Sql (Query)

/-- A statement with the time it takes and the error it ends with. -/
structure ScriptedStatement where
  text : String
  nanos : Nat
  error : Option String
deriving DecidableEq, Repr

/-- A timed connection and the statements that it has been sent. -/
structure StandIn where
  connection : TimedConnection
  sent : List String
deriving DecidableEq, Repr

/-- One thing that a unit of work does. -/
inductive UnitStep where
  -- Nanoseconds pass.
  | pass (nanos : Nat)
  | statement (statement : ScriptedStatement)
deriving DecidableEq, Repr

/-- A labelled unit of work that gives up at the first statement that fails. -/
structure UnitScript where
  query : Query
  body : List ScriptedStatement
  -- How the unit ends when its statements have succeeded.
  ending : Except String Produced
  -- A statement that the unit starts after its body and never sees finished.
  abandonedAt : Option String

/-- The result of a labelled unit. -/
inductive UnitResult where
  | ended (result : Except String Produced)
  | abandoned

/-- One step on one connection. -/
inductive StandInStep where
  | pass (nanos : Nat)
  | instrument (monitor : Monitor)
  | apply (nanos : Nat) (error : Option QueryError)
  | raw (statement : ScriptedStatement)
  | start (text : String)
  | finish (text : String) (error : Option String)
  | run (script : UnitScript)
  -- A labelled unit that does what it likes about statements that fail.
  | unit (query : Query) (steps : List UnitStep) (result : Except String Produced)
  | rewrap

/-- What a step answers. -/
inductive StandInAnswer where
  | nothing
  | flag (value : Bool)
  | statement (result : Except String Unit)
  | unit (result : UnitResult)

/-- One connection with the session's setup and the time line. -/
structure Solo where
  setup : SessionSetup
  standIn : StandIn
  timeline : Timeline

/-- Connections with the session's setup and the time line that they share. -/
structure Ensemble where
  setup : SessionSetup
  standIns : List StandIn
  timeline : Timeline

namespace StandIn

def new (hook : Bool) : StandIn := ⟨.new hook, []⟩

def start (s : StandIn) (now : Nat) (text : String) : StandIn :=
  ⟨s.connection.startStatement now text, s.sent ++ [text]⟩

def finish (s : StandIn) (t : Timeline) (text : String) (error : Option String) :
    StandIn × Timeline :=
  let (connection, report) := s.connection.finishStatement t.now text error
  ({ s with connection }, t.deliver report)

def statement (s : StandIn) (t : Timeline) (x : ScriptedStatement) :
    StandIn × Timeline × Except String Unit :=
  let (s, t) := (s.start t.now x.text).finish (t.pass x.nanos) x.text x.error
  (s, t, match x.error with | some e => .error e | none => .ok ())

/-- Statements up to the first that fails. -/
def statements (s : StandIn) (t : Timeline) :
    List ScriptedStatement → StandIn × Timeline × Except String Unit
  | [] => (s, t, .ok ())
  | x :: xs =>
    match s.statement t x with
    | (s, t, .ok ()) => s.statements t xs
    | failed => failed

def run (s : StandIn) (t : Timeline) (script : UnitScript) : StandIn × Timeline × UnitResult :=
  let (connection, u) := s.connection.openUnit t.now
  let (s, t, worked) := { s with connection }.statements t script.body
  match worked, script.abandonedAt with
  | .ok (), some text =>
    let s := s.start t.now text
    ({ s with connection := s.connection.releaseScope u }, t, .abandoned)
  | worked, _ =>
    let result := worked.bind fun _ => script.ending
    let (connection, report) :=
      s.connection.closeUnit u t.now script.query (Monitor.outcomeOf result)
    ({ s with connection }, t.deliver report, .ended result)

def work (s : StandIn) (t : Timeline) : List UnitStep → StandIn × Timeline
  | [] => (s, t)
  | .pass nanos :: xs => s.work (t.pass nanos) xs
  | .statement x :: xs =>
    let (s, t, _) := s.statement t x
    s.work t xs

/-- A labelled unit of work that ends with the given result, whatever happens to its
statements. -/
def unit (s : StandIn) (t : Timeline) (query : Query) (steps : List UnitStep)
    (result : Except String Produced) : StandIn × Timeline :=
  let (connection, u) := s.connection.openUnit t.now
  let (s, t) := { s with connection }.work t steps
  let (connection, report) := s.connection.closeUnit u t.now query (Monitor.outcomeOf result)
  ({ s with connection }, t.deliver report)

def apply (s : StandIn) (t : Timeline) (setup : SessionSetup) (nanos : Nat)
    (error : Option QueryError) : StandIn × Timeline × SessionSetup × Bool :=
  let (connection, entries) := setup.instrument s.connection
  let (s, t, _) :=
    { s with connection }.statement (t.note entries)
      ⟨setup.statement, nanos, error.map QueryError.message⟩
  let (setup, entry) :=
    setup.conclude (match error with | some e => .error e | none => .ok ())
  (s, t.note [entry], setup, error.isNone)

end StandIn

namespace Solo

def step (s : Solo) : StandInStep → Solo × StandInAnswer
  | .pass nanos => ({ s with timeline := s.timeline.pass nanos }, .nothing)
  | .instrument w =>
    let (connection, changed) := s.standIn.connection.instrument w
    ({ s with standIn := { s.standIn with connection } }, .flag changed)
  | .apply nanos error =>
    let (standIn, timeline, setup, done) := s.standIn.apply s.timeline s.setup nanos error
    (⟨setup, standIn, timeline⟩, .flag done)
  | .raw statement =>
    let (standIn, timeline, result) := s.standIn.statement s.timeline statement
    ({ s with standIn, timeline }, .statement result)
  | .start text => ({ s with standIn := s.standIn.start s.timeline.now text }, .nothing)
  | .finish text error =>
    let (standIn, timeline) := s.standIn.finish s.timeline text error
    ({ s with standIn, timeline }, .nothing)
  | .run script =>
    let (standIn, timeline, result) := s.standIn.run s.timeline script
    ({ s with standIn, timeline }, .unit result)
  | .unit query steps result =>
    let (standIn, timeline) := s.standIn.unit s.timeline query steps result
    ({ s with standIn, timeline }, .unit (.ended result))
  | .rewrap =>
    ({ s with standIn := { s.standIn with connection := s.standIn.connection.rewrap } }, .nothing)

def run (s : Solo) : List StandInStep → Solo × List StandInAnswer
  | [] => (s, [])
  | x :: xs =>
    let (s, answer) := s.step x
    let (s, answers) := s.run xs
    (s, answer :: answers)

end Solo

namespace Ensemble

def step (e : Ensemble) (index : Nat) (x : StandInStep) : Ensemble × StandInAnswer :=
  match e.standIns[index]? with
  | none => (e, .nothing)
  | some standIn =>
    let (s, answer) := Solo.step ⟨e.setup, standIn, e.timeline⟩ x
    (⟨s.setup, e.standIns.set index s.standIn, s.timeline⟩, answer)

/-- The ensemble with what has been answered taken away: reports, log entries and
the statements sent on one connection. -/
def drained (e : Ensemble) (index : Nat) : Ensemble :=
  { e with
    timeline := e.timeline.drained
    standIns := e.standIns.modify index fun s => { s with sent := [] } }

end Ensemble

end SchemaPool
