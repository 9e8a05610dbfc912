import SchemaPool.Proofs.Timing.Heeding

/-! # The first monitor stays

A connection may be put under a monitor again and again, by calls of its own and by sessions
that are prepared on it, whether their statements succeed or not.  Until a monitor comes that is
enabled the connection is as good as new; the first that is enabled takes effect for good
(`Solo.first_enabled_monitor_stays`).

All that is done with a connection comes down to its moments, and a call to putting the monitor on
before anything else (`ConnectionUse.moments_of_call`), so that this is a matter of what each
moment keeps. -/

namespace SchemaPool

/-! ## The calls -/

/-- What a call offers the driver, whether the driver takes it or not. -/
def TimedConnection.offer? (c : TimedConnection) (w : Monitor) : Option QueryTimer :=
  if w.isEnabled && !c.timing.isTimed then some (.new w) else none

/-- A call does nothing unless it offers a timer; then the connection is timed by the driver if
the driver takes the timer, and by labelled units if it does not. -/
theorem TimedConnection.instrument_eq_offer (c : TimedConnection) (w : Monitor) :
    c.instrument w =
      match c.offer? w with
      | none => (c, false)
      | some timer =>
        if c.hook then ({ c with timer := some timer, timing := .driver w }, true)
        else ({ c with timing := .units w }, true) := by
  rw [instrument, offer?]
  cases w.isEnabled <;> cases c.timing.isTimed <;> rfl

/-- A call that is to put the connection under a monitor: what it offers the driver, and whether
it says that it changed anything. -/
structure MonitorCall where
  monitor : Monitor
  offer : Option QueryTimer
  changed : Bool
deriving DecidableEq, Repr

/-- Nothing is offered and nothing has changed. -/
def MonitorCall.Quiet (call : MonitorCall) : Prop := call.offer = none ∧ call.changed = false

def TimedConnection.call (c : TimedConnection) (w : Monitor) : MonitorCall :=
  ⟨w, c.offer? w, (c.instrument w).2⟩

theorem TimedConnection.quiet_of_disabled (c : TimedConnection) {w : Monitor}
    (disabled : w.isEnabled = false) : (c.call w).Quiet := by
  refine ⟨?_, congrArg Prod.snd (instrument_of_disabled c disabled)⟩
  rw [call, offer?, disabled]
  rfl

theorem TimedConnection.quiet_of_timed {c : TimedConnection} (w : Monitor)
    (timed : c.timing.isTimed = true) : (c.call w).Quiet := by
  refine ⟨?_, congrArg Prod.snd (instrument_of_timed w timed)⟩
  rw [call, offer?, timed, Bool.not_true, Bool.and_false]
  rfl

theorem TimedConnection.call_of_bare {c : TimedConnection} {w : Monitor} (bare : c.timing = .bare)
    (enabled : w.isEnabled = true) : c.call w = ⟨w, some (.new w), true⟩ := by
  have offered : c.offer? w = some (.new w) := by
    rw [offer?, enabled, bare]
    rfl
  rw [call, instrument_eq_offer, offered]
  cases c.hook <;> rfl

/-- A step that is done with a connection, and the session's setup that it may apply. -/
structure ConnectionUse where
  setup : SessionSetup
  step : StandInStep

namespace ConnectionUse

/-- The monitor that a use is to put the connection under. -/
def monitor? (u : ConnectionUse) : Option Monitor :=
  match u.step with
  | .instrument w => some w
  | .apply _ _ => some u.setup.monitor
  | _ => none

/-- Whether it is a call whose monitor is enabled. -/
def enables (u : ConnectionUse) : Bool := u.monitor?.any Monitor.isEnabled

/-- Whether the connection stays wrapped. -/
def isWrapped (u : ConnectionUse) : Bool :=
  match u.step with
  | .rewrap => false
  | _ => true

def moments (u : ConnectionUse) (now : Nat) : List Moment := u.step.moments u.setup now

end ConnectionUse

namespace Solo

def use (s : Solo) (u : ConnectionUse) : Solo := (step { s with setup := u.setup } u.step).1

def after (s : Solo) (uses : List ConnectionUse) : Solo := uses.foldl use s

/-- The calls that are made in the course of some uses, in order. -/
def calls (s : Solo) : List ConnectionUse → List MonitorCall
  | [] => []
  | u :: uses => (u.monitor?.map s.standIn.connection.call).toList ++ (s.use u).calls uses

/-- The moments of some uses, in order. -/
def moments (s : Solo) : List ConnectionUse → List Moment
  | [] => []
  | u :: uses => u.moments s.timeline.now ++ (s.use u).moments uses

theorem after_append (s : Solo) (first second : List ConnectionUse) :
    s.after (first ++ second) = (s.after first).after second := List.foldl_append

theorem calls_append (s : Solo) (first second : List ConnectionUse) :
    s.calls (first ++ second) = s.calls first ++ (s.after first).calls second := by
  induction first generalizing s with
  | nil => rfl
  | cons u uses ih => rw [List.cons_append, calls, calls, ih, List.append_assoc]; rfl

theorem moments_append (s : Solo) (first second : List ConnectionUse) :
    s.moments (first ++ second) = s.moments first ++ (s.after first).moments second := by
  induction first generalizing s with
  | nil => rfl
  | cons u uses ih => rw [List.cons_append, moments, moments, ih, List.append_assoc]; rfl

end Solo

/-! ## The moments of a use -/

namespace ConnectionUse

variable {u : ConnectionUse}

/-- A call begins by putting the monitor on. -/
theorem moments_of_call {w : Monitor} (call : u.monitor? = some w) (now : Nat) :
    ∃ rest, u.moments now = ⟨now, .instrument w⟩ :: rest ∧ ∀ m ∈ rest, m.isWork = true := by
  obtain ⟨setup, step⟩ := u
  cases step with
  | instrument v =>
    obtain rfl := Option.some.inj call
    exact ⟨[], rfl, nofun⟩
  | apply nanos error =>
    obtain rfl := Option.some.inj call
    exact ⟨_, rfl, Moment.isWork_ofStatement _ _⟩
  | pass _ | raw _ | start _ | finish _ _ | run _ | unit _ _ _ | rewrap => cases call

/-- What is no call does not put any monitor on. -/
theorem moments_of_no_call (none : u.monitor? = none) (wrapped : u.isWrapped = true) (now : Nat) :
    ∀ m ∈ u.moments now, m.isWork = true := by
  obtain ⟨setup, step⟩ := u
  cases step with
  | pass nanos => nofun
  | instrument v => cases none
  | apply nanos error => cases none
  | raw x => exact Moment.isWork_ofStatement now x
  | start text => simp [moments, StandInStep.moments, Moment.isWork]
  | finish text error => simp [moments, StandInStep.moments, Moment.isWork]
  | run script =>
    refine Moment.isWork_ofUnit now _ _ fun x member => ?_
    rw [UnitScript.last] at member
    split at member <;> simp at member
    · rcases member with rfl | rfl <;> rfl
    · rw [member]
      rfl
  | unit query steps result =>
    refine Moment.isWork_ofUnit now _ _ fun x member => ?_
    rw [List.mem_singleton.1 member]
    rfl
  | rewrap => cases wrapped

theorem step_ne_rewrap (wrapped : u.isWrapped = true) (now : Nat) :
    ∀ m ∈ u.moments now, m.step ≠ .rewrap := by
  cases call : u.monitor? with
  | none => exact fun m member => Moment.step_ne_rewrap (moments_of_no_call call wrapped now m member)
  | some w =>
    obtain ⟨rest, moments, work⟩ := moments_of_call call now
    rw [moments]
    exact List.forall_mem_cons.2 ⟨nofun, fun m member => Moment.step_ne_rewrap (work m member)⟩

theorem disabled_of_enables_eq_false (off : u.enables = false) (wrapped : u.isWrapped = true)
    (now : Nat) : ∀ m ∈ u.moments now, ∀ v, m.step = .instrument v → v.isEnabled = false := by
  cases call : u.monitor? with
  | none =>
    intro m member v instrument
    exact absurd instrument
      (Moment.step_ne_instrument (moments_of_no_call call wrapped now m member) v)
  | some w =>
    obtain ⟨rest, moments, work⟩ := moments_of_call call now
    rw [moments]
    refine List.forall_mem_cons.2 ⟨?_, fun m member v instrument =>
      absurd instrument (Moment.step_ne_instrument (work m member) v)⟩
    rintro v ⟨⟩
    simpa [enables, call] using off

end ConnectionUse

/-! ## What a use does to the connection -/

namespace Solo

open BusyConnection (Untimed Heeds)

variable {s : Solo} {hook : Bool} {w : Monitor} {u : ConnectionUse} {uses : List ConnectionUse}

/-- The connection between two uses. -/
def idle (s : Solo) : BusyConnection := ⟨s.standIn.connection, []⟩

theorem use_leads (s : Solo) (u : ConnectionUse) :
    Leads s.idle s.timeline (u.moments s.timeline.now) u.step.nanos (s.use u).idle
      (s.use u).timeline :=
  step_moments { s with setup := u.setup } u.step

theorem untimed_use (untimed : Untimed hook s.idle) (off : u.enables = false)
    (wrapped : u.isWrapped = true) :
    Untimed hook (s.use u).idle ∧ (s.use u).timeline.reports = s.timeline.reports := by
  have leads := s.use_leads u
  obtain ⟨still, nothing⟩ := untimed.run (u.disabled_of_enables_eq_false off wrapped s.timeline.now)
  rw [leads.state] at still
  exact ⟨still, by rw [leads.reports, nothing, List.append_nil]⟩

/-- The first call with an enabled monitor, whatever becomes of the statement that it sends. -/
theorem heeds_use_of_untimed (untimed : Untimed hook s.idle) (call : u.monitor? = some w)
    (enabled : w.isEnabled = true) :
    Heeds hook w (s.use u).idle ∧
      ∃ later, (s.use u).timeline.reports = s.timeline.reports ++ later ∧
        ∀ r ∈ later, w.Makes r := by
  have leads := s.use_leads u
  obtain ⟨rest, moments, work⟩ := u.moments_of_call call s.timeline.now
  obtain ⟨begun, nothing⟩ := untimed.instrument s.timeline.now enabled
  obtain ⟨heeds, made⟩ := begun.run fun m member => Moment.step_ne_rewrap (work m member)
  have state := leads.state
  have reports := leads.reports
  rw [moments, BusyConnection.run_cons] at state reports
  rw [nothing] at reports
  exact ⟨state ▸ heeds, _, reports, made⟩

theorem heeds_use (heeds : Heeds hook w s.idle) (wrapped : u.isWrapped = true) :
    Heeds hook w (s.use u).idle ∧
      ∃ later, (s.use u).timeline.reports = s.timeline.reports ++ later ∧
        ∀ r ∈ later, w.Makes r := by
  have leads := s.use_leads u
  obtain ⟨still, made⟩ := heeds.run (u.step_ne_rewrap wrapped s.timeline.now)
  rw [leads.state] at still
  exact ⟨still, _, leads.reports, made⟩

/-! ## All uses of a connection -/

theorem untimed_after (untimed : Untimed hook s.idle) (off : ∀ u ∈ uses, u.enables = false)
    (wrapped : ∀ u ∈ uses, u.isWrapped = true) :
    Untimed hook (s.after uses).idle ∧ (s.after uses).timeline.reports = s.timeline.reports ∧
      ∀ call ∈ s.calls uses, call.Quiet := by
  induction uses generalizing s with
  | nil => exact ⟨untimed, rfl, nofun⟩
  | cons u uses ih =>
    obtain ⟨first, others⟩ := List.forall_mem_cons.1 off
    obtain ⟨here, later⟩ := List.forall_mem_cons.1 wrapped
    obtain ⟨still, same⟩ := untimed_use untimed first here
    obtain ⟨last, reports, quiet⟩ := ih still others later
    refine ⟨last, reports.trans same, List.forall_mem_append.2 ⟨fun call member => ?_, quiet⟩⟩
    obtain ⟨w, called, rfl⟩ := Option.map_eq_some_iff.1 (Option.mem_toList.1 member)
    exact TimedConnection.quiet_of_disabled _ (by simpa [ConnectionUse.enables, called] using first)

theorem heeds_after (heeds : Heeds hook w s.idle) (wrapped : ∀ u ∈ uses, u.isWrapped = true) :
    Heeds hook w (s.after uses).idle ∧
      (∃ later, (s.after uses).timeline.reports = s.timeline.reports ++ later ∧
        ∀ r ∈ later, w.Makes r) ∧
      ∀ call ∈ s.calls uses, call.Quiet := by
  induction uses generalizing s with
  | nil => exact ⟨heeds, ⟨[], (List.append_nil _).symm, nofun⟩, nofun⟩
  | cons u uses ih =>
    obtain ⟨here, others⟩ := List.forall_mem_cons.1 wrapped
    obtain ⟨still, now, reports, made⟩ := heeds_use heeds here
    obtain ⟨last, ⟨later, reports', made'⟩, quiet⟩ := ih still others
    refine ⟨last, ⟨now ++ later, ?_, List.forall_mem_append.2 ⟨made, made'⟩⟩,
      List.forall_mem_append.2 ⟨fun call member => ?_, quiet⟩⟩
    · rw [← List.append_assoc, ← reports]
      exact reports'
    · obtain ⟨v, called, rfl⟩ := Option.map_eq_some_iff.1 (Option.mem_toList.1 member)
      have timed : s.standIn.connection.timing.isTimed = true := by
        rw [show s.standIn.connection.timing = _ from heeds.timing]
        cases hook <;> rfl
      exact TimedConnection.quiet_of_timed v timed

theorem run_moments (s : Solo) (uses : List ConnectionUse) :
    (s.idle.run (s.moments uses)).1 = (s.after uses).idle := by
  induction uses generalizing s with
  | nil => rfl
  | cons u uses ih => rw [moments, BusyConnection.run_append, (s.use_leads u).state, ih]; rfl

theorem moments_ne_rewrap (s : Solo) (wrapped : ∀ u ∈ uses, u.isWrapped = true) :
    ∀ m ∈ s.moments uses, m.step ≠ .rewrap := by
  induction uses generalizing s with
  | nil => nofun
  | cons u uses ih =>
    obtain ⟨here, others⟩ := List.forall_mem_cons.1 wrapped
    exact List.forall_mem_append.2 ⟨u.step_ne_rewrap here s.timeline.now, ih (s.use u) others⟩

end Solo

/-! ## The first enabled monitor -/

namespace Solo

open BusyConnection (Untimed Heeds)

/-- A new connection stays as it is, and reports nothing, for as long as it is called with no
monitor that is enabled.  The first call with one that is takes effect: it is the only call that
offers the driver a timer and says that it has changed anything.  From then on, whatever is done,
the connection is timed by the driver if the driver took the timer and by labelled units if it
did not; its monitor is the one of that call, and so is that of the timer; every report goes to
that monitor's reporter and reaches its threshold; and the driver's timer looks at the one scope
that the connection's units enter. -/
theorem first_enabled_monitor_stays (s : Solo) (hook : Bool) (uses : List ConnectionUse)
    (new : s.standIn.connection = .new hook) (wrapped : ∀ u ∈ uses, u.isWrapped = true) :
    ((∀ u ∈ uses, u.enables = false) →
      (s.after uses).standIn.connection = .new hook ∧
      (s.after uses).timeline.reports = s.timeline.reports ∧
      ∀ call ∈ s.calls uses, call.Quiet) ∧
    ∀ before u later w, uses = before ++ u :: later → (∀ v ∈ before, v.enables = false) →
      u.monitor? = some w → w.isEnabled = true →
      (∃ calls, s.calls uses = s.calls before ++ ⟨w, some (.new w), true⟩ :: calls ∧
        ∀ call ∈ s.calls before ++ calls, call.Quiet) ∧
      (s.after uses).standIn.connection.timing = (if hook then .driver w else .units w) ∧
      (s.after uses).standIn.connection.timer.map (·.monitor) = (if hook then some w else none) ∧
      (∃ reports, (s.after uses).timeline.reports = s.timeline.reports ++ reports ∧
        ∀ r ∈ reports, w.Makes r) ∧
      ∀ m : Memory,
        let first := (SharedConnection.new hook).run m (s.moments (before ++ [u]))
        let last := (SharedConnection.new hook).run m (s.moments uses)
        last.2.view last.1 = (s.after uses).idle ∧
          (hook = true → ∃ scope, first.2.Paired w scope ∧ last.2.Paired w scope) := by
  have untimed : Untimed hook s.idle := ⟨new, nofun⟩
  refine ⟨fun off => ?_, fun before u later w split off call enabled => ?_⟩
  · obtain ⟨still, reports, quiet⟩ := untimed_after untimed off wrapped
    exact ⟨still.connection, reports, quiet⟩
  · subst split
    obtain ⟨wrappedBefore, wrappedLater⟩ := List.forall_mem_append.1 wrapped
    obtain ⟨wrappedHere, wrappedAfter⟩ := List.forall_mem_cons.1 wrappedLater
    obtain ⟨still, reports, quiet⟩ := untimed_after untimed off wrappedBefore
    obtain ⟨begun, now, reports', made⟩ := heeds_use_of_untimed still call enabled
    obtain ⟨heeds, ⟨rest, reports'', made'⟩, quiet'⟩ := heeds_after begun wrappedAfter
    have whole : s.after (before ++ u :: later) = ((s.after before).use u).after later :=
      s.after_append before (u :: later)
    rw [whole]
    refine ⟨⟨((s.after before).use u).calls later, ?_, List.forall_mem_append.2 ⟨quiet, quiet'⟩⟩,
      heeds.timing, heeds.timer, ⟨now ++ rest, ?_, List.forall_mem_append.2 ⟨made, made'⟩⟩, ?_⟩
    · have bare : (s.after before).standIn.connection.timing = .bare := by
        rw [show (s.after before).standIn.connection = .new hook from still.connection]
        rfl
      rw [calls_append, calls, call, Option.map_some, TimedConnection.call_of_bare bare enabled]
      rfl
    · rw [reports'', reports', reports, List.append_assoc]
    · intro m first last
      have tied := SharedConnection.tied_new m hook
      have seen : (SharedConnection.new hook).view m = s.idle := by
        rw [idle, new]
        rfl
      obtain ⟨-, view⟩ := tied.run (s.moments (before ++ u :: later))
      rw [seen, run_moments, whole] at view
      refine ⟨view, fun accepts => ?_⟩
      obtain ⟨tied', view'⟩ := tied.run (s.moments (before ++ [u]))
      rw [seen, run_moments, after_append] at view'
      obtain ⟨scope, paired⟩ := tied'.paired (w := w) (by
        rw [view']
        exact begun.timing.trans (by rw [accepts, if_pos rfl]))
      refine ⟨scope, paired, ?_⟩
      have onward : last = first.2.run first.1 (((s.after before).use u).moments later) := by
        have moments : s.moments (before ++ u :: later) =
            s.moments (before ++ [u]) ++ ((s.after before).use u).moments later := by
          simp only [moments_append, moments, List.append_nil, List.append_assoc]
        show (SharedConnection.new hook).run m (s.moments (before ++ u :: later)) = _
        rw [moments, SharedConnection.run_append]
      rw [onward]
      exact paired.run _ (moments_ne_rewrap _ wrappedAfter)

/-- A session under a threshold of 50 milliseconds. -/
def briskSetup : SessionSetup :=
  ⟨.standard, "SET search_path TO \"public\"", ⟨⟨50⟩, .collector 0⟩, 0⟩

/-- A disabled monitor, a slow statement, a session whose statement is refused, another monitor,
and the same session again. -/
def succession : List ConnectionUse :=
  [⟨briskSetup, .instrument .disabled⟩, ⟨briskSetup, .raw ⟨"SELECT 1", 60000000, none⟩⟩,
    ⟨briskSetup, .apply 70000000 (some .connectionLost)⟩,
    ⟨briskSetup, .instrument ⟨⟨1⟩, .collector 1⟩⟩, ⟨briskSetup, .raw ⟨"SELECT 2", 20000000, none⟩⟩,
    ⟨briskSetup, .apply 60000000 none⟩]

theorem first_enabled_monitor_stays_of_succession :
    (∀ u ∈ succession, u.isWrapped = true) ∧
      (after ⟨briskSetup, .new true, .start⟩ succession).standIn.connection.timing =
        .driver ⟨⟨50⟩, .collector 0⟩ := by
  have wrapped : ∀ u ∈ succession, u.isWrapped = true := by decide +kernel
  obtain ⟨-, timing, -⟩ := (first_enabled_monitor_stays ⟨briskSetup, .new true, .start⟩ true
    succession rfl wrapped).2 (succession.take 2) _ (succession.drop 3) ⟨⟨50⟩, .collector 0⟩ rfl
    (by decide +kernel) rfl (by decide)
  exact ⟨wrapped, timing⟩

end Solo

end SchemaPool
