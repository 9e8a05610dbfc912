import SchemaPool.Timing.QueryTimer
import SchemaPool.Timing.Timeline

/-! # Traces of a timer

A trace is a list of things that happen to one timer: statements start and
finish, time passes, and holders enter and leave the scope in any order. -/

namespace SchemaPool

/-- One thing that happens to a timer. -/
inductive TimerStep where
  | start (text : String)
  | finish (text : String) (error : Option String)
  -- Nanoseconds pass.
  | pass (nanos : Nat)
  | enter
  -- The newest holder leaves, if there is one.
  | leaveLast
  -- The oldest holder leaves, if there is one.
  | leaveFirst
  -- The holder at a place in the order of arrival leaves, if there is one.
  | leaveAt (place : Nat)
deriving DecidableEq, Repr

/-- A timer with its scope's holders, known by the order of their arrival, and the
time line. -/
structure TimerTrace where
  timer : QueryTimer
  guards : List Nat
  arrivals : Nat
  timeline : Timeline
deriving DecidableEq, Repr

namespace TimerTrace

def begin (w : Monitor) : TimerTrace := ⟨.new w, [], 0, .start⟩

/-- The holder at a place, if there is one, leaves. -/
def dropGuard (s : TimerTrace) (place : Nat) : TimerTrace :=
  if place < s.guards.length then
    { s with timer := s.timer.leave, guards := s.guards.eraseIdx place }
  else s

def step (s : TimerTrace) : TimerStep → TimerTrace
  | .start text => { s with timer := s.timer.start s.timeline.now text }
  | .finish text error =>
    let (timer, report) := s.timer.finish s.timeline.now text error
    { s with timer, timeline := s.timeline.deliver report }
  | .pass nanos => { s with timeline := s.timeline.pass nanos }
  | .enter =>
    { s with
      timer := s.timer.enter
      guards := s.guards ++ [s.arrivals]
      arrivals := s.arrivals + 1 }
  | .leaveLast => s.dropGuard (s.guards.length - 1)
  | .leaveFirst => s.dropGuard 0
  | .leaveAt place => s.dropGuard place

def run (s : TimerTrace) (steps : List TimerStep) : TimerTrace := steps.foldl step s

end TimerTrace

end SchemaPool
