import Mathlib.Data.List.InsertIdx
import SchemaPool.Proofs.Timing.Decision
import SchemaPool.Proofs.Timing.Isolation
import SchemaPool.Timing.Trace

/-! # A threshold only filters

The same script is run twice, under two thresholds that both enable reporting.  Nothing that
happens on the way depends on which of them it is: the same statements are matched with each
other, the same scopes are held and the same connections are timed.  So the reports under the
higher threshold are those under the lower one that reach the higher one, in the same order
(`Bench.thresholds_only_filter`). -/

namespace SchemaPool

open SchemaPool.Sql (Query)

/-! ## The same thing under another threshold -/

def Monitor.under (w : Monitor) (t : Threshold) : Monitor := { w with threshold := t }

def QueryTimer.under (q : QueryTimer) (t : Threshold) : QueryTimer :=
  { q with monitor := q.monitor.under t }

def Timing.under (timing : Timing) (t : Threshold) : Timing :=
  match timing with
  | bare => bare
  | units w => units (w.under t)
  | driver w => driver (w.under t)

def TimedConnection.under (c : TimedConnection) (t : Threshold) : TimedConnection :=
  ⟨c.hook, c.timer.map (·.under t), c.timing.under t⟩

def OpenUnit.under (u : OpenUnit) (t : Threshold) : OpenUnit :=
  { u with watch := u.watch.map fun (w, since) => (w.under t, since) }

def BusyConnection.under (b : BusyConnection) (t : Threshold) : BusyConnection :=
  ⟨b.connection.under t, b.units.map fun (u, query) => (u.under t, query)⟩

def ConnectionStep.under (x : ConnectionStep) (t : Threshold) : ConnectionStep :=
  match x with
  | .instrument w => .instrument (w.under t)
  | other => other

def Moment.under (m : Moment) (t : Threshold) : Moment := ⟨m.now, m.step.under t⟩

def SessionSetup.under (s : SessionSetup) (t : Threshold) : SessionSetup :=
  { s with monitor := s.monitor.under t }

def StandInStep.under (x : StandInStep) (t : Threshold) : StandInStep :=
  match x with
  | .instrument w => .instrument (w.under t)
  | other => other

@[simp] theorem Monitor.isEnabled_under (w : Monitor) (t : Threshold) :
    (w.under t).isEnabled = t.isEnabled := rfl

@[simp] theorem Monitor.under_under (w : Monitor) (t u : Threshold) :
    (w.under t).under u = w.under u := rfl

@[simp] theorem QueryTimer.pending_under (q : QueryTimer) (t : Threshold) :
    (q.under t).pending = q.pending := rfl

@[simp] theorem QueryTimer.monitor_under (q : QueryTimer) (t : Threshold) :
    (q.under t).monitor = q.monitor.under t := rfl

@[simp] theorem QueryTimer.under_under (q : QueryTimer) (t u : Threshold) :
    (q.under t).under u = q.under u := rfl

@[simp] theorem QueryTimer.under_comp_under (t u : Threshold) :
    (fun q : QueryTimer => q.under u) ∘ (fun q : QueryTimer => q.under t) =
      fun q => q.under u := rfl

@[simp] theorem Timing.isTimed_under (timing : Timing) (t : Threshold) :
    (timing.under t).isTimed = timing.isTimed := by
  cases timing <;> rfl

@[simp] theorem Timing.under_under (timing : Timing) (t u : Threshold) :
    (timing.under t).under u = timing.under u := by
  cases timing <;> rfl

@[simp] theorem TimedConnection.timing_under (c : TimedConnection) (t : Threshold) :
    (c.under t).timing = c.timing.under t := rfl

@[simp] theorem TimedConnection.under_under (c : TimedConnection) (t u : Threshold) :
    (c.under t).under u = c.under u := by
  simp [under]

@[simp] theorem OpenUnit.under_under (unit : OpenUnit) (t u : Threshold) :
    (unit.under t).under u = unit.under u := by
  cases watch : unit.watch <;> simp [under, watch]

@[simp] theorem BusyConnection.connection_under (b : BusyConnection) (t : Threshold) :
    (b.under t).connection = b.connection.under t := rfl

@[simp] theorem SessionSetup.under_under (s : SessionSetup) (t u : Threshold) :
    (s.under t).under u = s.under u := rfl

@[simp] theorem Moment.now_under (m : Moment) (t : Threshold) : (m.under t).now = m.now := rfl

@[simp] theorem Moment.step_under (m : Moment) (t : Threshold) :
    (m.under t).step = m.step.under t := rfl

@[simp] theorem BusyConnection.under_under (b : BusyConnection) (t u : Threshold) :
    (b.under t).under u = b.under u := by
  simp [under]

/-- The reported time is at least the threshold. -/
def Report.reaches (r : Report) (t : Threshold) : Bool := t.millis ≤ r.event.millis

/-! ## One verdict -/

/-- Which reports under one threshold are made under another one too; nothing else depends on
which of the two it is. -/
structure Threshold.Filters (t u : Threshold) (keep : Report → Bool) : Prop where
  enabled : u.isEnabled = t.isEnabled
  judged (w : Monitor) (query : Query) (elapsed : Duration) (outcome : Outcome) :
    (w.under u).judge query elapsed outcome =
      ((w.under t).judge query elapsed outcome).filter keep

namespace Threshold

theorem filters_self (t : Threshold) : t.Filters t fun _ => true where
  enabled := rfl
  judged w query elapsed outcome := by
    cases (w.under t).judge query elapsed outcome <;> rfl

/-- What is reported under a higher threshold is what is reported under the lower one, if it
reaches the higher one. -/
theorem filters_of_le {t u : Threshold} (positive : 0 < t.millis) (higher : t.millis ≤ u.millis) :
    t.Filters u (·.reaches u) := by
  have enabled : t.isEnabled = true := by rwa [isEnabled, decide_eq_true_iff]
  have enabled' : u.isEnabled = true := by
    rw [isEnabled, decide_eq_true_iff]
    exact UInt64.lt_of_lt_of_le positive higher
  refine ⟨enabled'.trans enabled.symm, fun w query elapsed outcome => ?_⟩
  have lower := Monitor.le_reportedMillis_iff enabled elapsed
  have upper := Monitor.le_reportedMillis_iff enabled' elapsed
  rw [Monitor.judge_eq, Monitor.judge_eq]
  simp only [Monitor.under, ← lower, ← upper]
  by_cases slow : t.millis ≤ Monitor.reportedMillis elapsed
  · rw [if_pos slow, Option.filter_some]
    simp only [Report.reaches, decide_eq_true_iff]
  · rw [if_neg slow, if_neg fun reaches => slow (UInt64.le_trans higher reaches)]
    rfl

/-- No monitor with the threshold zero reports anything. -/
theorem filters_disabled : disabled.Filters disabled fun _ => false where
  enabled := rfl
  judged w query elapsed outcome := by
    rw [Monitor.judge_eq]
    simp [Monitor.under]

end Threshold

section

variable {t u : Threshold} {keep : Report → Bool}

/-! ## One timer -/

theorem QueryTimer.finish_under (filters : t.Filters u keep) (q : QueryTimer) (now : Nat)
    (text : String) (error : Option String) :
    (q.under u).finish now text error =
      (((q.under t).finish now text error).1.under u,
        ((q.under t).finish now text error).2.filter keep) := by
  simp only [finish, pending_under, monitor_under]
  cases take? (stripBinds text) q.pending with
  | none => simp
  | some taken =>
    obtain ⟨p, rest⟩ := taken
    cases timed : p.timed with
    | false =>
      simp only [timed]
      rfl
    | true =>
      simp only [timed, if_true, filters.judged]
      rfl

/-! ## One connection -/

namespace TimedConnection

variable (c : TimedConnection) (now : Nat)

theorem instrument_under (alike : u.isEnabled = t.isEnabled) (w : Monitor) :
    (c.under u).instrument (w.under u) =
      (((c.under t).instrument (w.under t)).1.under u,
        ((c.under t).instrument (w.under t)).2) := by
  have off : (!(w.under u).isEnabled || (c.under u).timing.isTimed) =
      (!(w.under t).isEnabled || (c.under t).timing.isTimed) := by
    simp [alike]
  have newest : (QueryTimer.new (w.under t)).under u = .new (w.under u) := rfl
  rw [instrument, instrument, off]
  split
  · rw [under_under]
  · cases hook : c.hook <;> simp [under, Timing.under, hook, newest]

theorem startStatement_under (t u : Threshold) (text : String) :
    (c.under u).startStatement now text = ((c.under t).startStatement now text).under u := by
  cases timer : c.timer <;> simp [under, startStatement, timer]
  rfl

theorem finishStatement_under (filters : t.Filters u keep) (text : String)
    (error : Option String) :
    (c.under u).finishStatement now text error =
      (((c.under t).finishStatement now text error).1.under u,
        ((c.under t).finishStatement now text error).2.filter keep) := by
  cases timer : c.timer with
  | none => simp [under, finishStatement, timer]
  | some q => simp [under, finishStatement, timer, q.finish_under filters]

theorem openUnit_under (t u : Threshold) :
    (c.under u).openUnit now =
      (((c.under t).openUnit now).1.under u, ((c.under t).openUnit now).2.under u) := by
  cases timing : c.timing with
  | bare => simp [under, openUnit, timing, Timing.under, OpenUnit.under]
  | units w => simp [under, openUnit, timing, Timing.under, OpenUnit.under]
  | driver w =>
    cases timer : c.timer <;>
      simp [under, openUnit, timing, timer, Timing.under, OpenUnit.under]
    rfl

theorem releaseScope_under (t u : Threshold) (unit : OpenUnit) :
    (c.under u).releaseScope (unit.under u) =
      ((c.under t).releaseScope (unit.under t)).under u := by
  cases holds : unit.holdsScope with
  | false => simp [releaseScope, OpenUnit.under, holds]
  | true =>
    cases timer : c.timer <;> simp [releaseScope, OpenUnit.under, under, holds, timer]
    rfl

theorem rewrap_under (t u : Threshold) : (c.under u).rewrap = (c.under t).rewrap.under u := by
  simp [rewrap, under, Timing.under]

theorem closeUnit_under (filters : t.Filters u keep) (unit : OpenUnit) (query : Query)
    (outcome : Outcome) :
    (c.under u).closeUnit (unit.under u) now query outcome =
      (((c.under t).closeUnit (unit.under t) now query outcome).1.under u,
        ((c.under t).closeUnit (unit.under t) now query outcome).2.filter keep) := by
  rw [closeUnit, closeUnit, c.releaseScope_under t u]
  cases watch : unit.watch with
  | none => simp [OpenUnit.under, watch]
  | some watch => simp [OpenUnit.under, watch, filters.judged]

end TimedConnection

namespace BusyConnection

variable (b : BusyConnection)

theorem step_under (filters : t.Filters u keep) (now : Nat) (x : ConnectionStep) :
    (b.under u).step now (x.under u) =
      (((b.under t).step now (x.under t)).1.under u,
        ((b.under t).step now (x.under t)).2.filter keep) := by
  obtain ⟨c, units⟩ := b
  cases x with
  | instrument w => simp [step, under, ConnectionStep.under, c.instrument_under filters.enabled]
  | start text => simp [step, under, ConnectionStep.under, c.startStatement_under now t u]
  | finish text error =>
    simp [step, under, ConnectionStep.under, c.finishStatement_under now filters]
  | begin query => simp [step, under, ConnectionStep.under, c.openUnit_under now t u]
  | conclude outcome =>
    cases units with
    | nil => simp [step, under, ConnectionStep.under]
    | cons unit units =>
      simp [step, under, ConnectionStep.under, c.closeUnit_under now filters unit.1]
  | abandon =>
    cases units with
    | nil => simp [step, under, ConnectionStep.under]
    | cons unit units =>
      simp [step, under, ConnectionStep.under, c.releaseScope_under t u unit.1]
  | rewrap =>
    cases units with
    | nil => simp [step, under, ConnectionStep.under, c.rewrap_under t u]
    | cons unit units => simp [step, under, ConnectionStep.under]

theorem step_under_self (now : Nat) (x : ConnectionStep) :
    ((b.under t).step now (x.under t)).1.under t = ((b.under t).step now (x.under t)).1 :=
  (congrArg Prod.fst (b.step_under t.filters_self now x)).symm

theorem run_under (filters : t.Filters u keep) (ms : List Moment) :
    (b.under u).run (ms.map (·.under u)) =
      (((b.under t).run (ms.map (·.under t))).1.under u,
        ((b.under t).run (ms.map (·.under t))).2.filter keep) := by
  induction ms generalizing b with
  | nil => simp
  | cons m ms ih =>
    rw [List.map_cons, run_cons, List.map_cons, run_cons]
    simp only [Moment.now_under, Moment.step_under, b.step_under filters]
    rw [ih, b.step_under_self, Option.toList_filter, List.filter_append]

end BusyConnection

/-! ## One script -/

namespace Moment

theorem ofStatement_under (t : Threshold) (now : Nat) (x : ScriptedStatement) :
    (ofStatement now x).map (·.under t) = ofStatement now x := rfl

theorem ofWork_under (t : Threshold) (now : Nat) (steps : List UnitStep) :
    (ofWork now steps).map (·.under t) = ofWork now steps := by
  induction steps generalizing now with
  | nil => rfl
  | cons step steps ih =>
    cases step with
    | pass nanos => exact ih (now + nanos)
    | statement x => rw [ofWork, List.map_append, ofStatement_under, ih]

theorem ofUnit_under (t : Threshold) (now : Nat) (query : Query) (steps : List UnitStep)
    {last : List ConnectionStep} (same : last.map (·.under t) = last) :
    (ofUnit now query steps last).map (·.under t) = ofUnit now query steps last := by
  have ends : (last.map fun x => (⟨now + UnitStep.total steps, x⟩ : Moment)).map (·.under t) =
      (last.map (·.under t)).map (⟨now + UnitStep.total steps, ·⟩) := by
    rw [List.map_map, List.map_map]
    rfl
  rw [ofUnit, List.map_append, List.map_cons, ofWork_under, ends, same]
  rfl

end Moment

theorem UnitScript.last_under (t : Threshold) (script : UnitScript) :
    script.last.map (·.under t) = script.last := by
  rw [last]
  split <;> rfl

theorem StandInStep.moments_under (t : Threshold) (setup : SessionSetup) (now : Nat)
    (x : StandInStep) :
    (x.under t).moments (setup.under t) now = (x.moments setup now).map (·.under t) := by
  cases x with
  | run script => exact (Moment.ofUnit_under t now _ _ (script.last_under t)).symm
  | unit query steps result => exact (Moment.ofUnit_under t now query steps rfl).symm
  | _ => rfl

/-- Two runs are at the same time, and one has reported what `keep` keeps of the other's
reports. -/
structure Timeline.Filtered (keep : Report → Bool) (τ τ' : Timeline) : Prop where
  now : τ'.now = τ.now
  reports : τ'.reports = τ.reports.filter keep

namespace Timeline.Filtered

variable {τ τ' : Timeline}

theorem refl (τ : Timeline) : τ.Filtered (fun _ => true) τ :=
  ⟨rfl, (List.filter_eq_self.2 fun _ _ => rfl).symm⟩

theorem deliver (filtered : τ.Filtered keep τ') (report : Option Report) :
    (τ.deliver report).Filtered keep (τ'.deliver (report.filter keep)) :=
  ⟨filtered.now, by simp [filtered.reports, Option.toList_filter]⟩

theorem pass (filtered : τ.Filtered keep τ') (nanos : Nat) :
    (τ.pass nanos).Filtered keep (τ'.pass nanos) :=
  ⟨by simp [filtered.now], by simp [filtered.reports]⟩

end Timeline.Filtered

/-- Only a refused session statement is remembered by the setup. -/
theorem Solo.setup_step_under (t : Threshold) (s s' : Solo) (x : StandInStep)
    (setup : s'.setup = s.setup.under t) :
    (s'.step (x.under t)).1.setup = (s.step x).1.setup.under t := by
  cases x with
  | apply nanos error =>
    cases error <;>
      simp only [step, StandInStep.under, StandIn.apply, SessionSetup.conclude_eq, setup] <;> rfl
  | _ => exact setup

theorem Solo.step_under (filters : t.Filters u keep) {τ τ' : Timeline}
    (filtered : τ.Filtered keep τ') (setup : SessionSetup) (c : TimedConnection)
    (x : StandInStep) :
    let lower := (step ⟨setup.under t, ⟨c.under t, []⟩, τ⟩ (x.under t)).1
    let upper := (step ⟨setup.under u, ⟨c.under u, []⟩, τ'⟩ (x.under u)).1
    upper.standIn.connection = lower.standIn.connection.under u ∧
      upper.setup = lower.setup.under u ∧ lower.timeline.Filtered keep upper.timeline := by
  intro lower upper
  have low : Leads _ _ _ _ _ _ := step_moments ⟨setup.under t, ⟨c.under t, []⟩, τ⟩ (x.under t)
  have up : Leads _ _ _ _ _ _ := step_moments ⟨setup.under u, ⟨c.under u, []⟩, τ'⟩ (x.under u)
  have runs := (BusyConnection.mk c []).run_under filters (x.moments setup τ.now)
  have later : (x.under u).moments (setup.under u) τ'.now =
      (x.moments setup τ.now).map (·.under u) := by
    rw [filtered.now, StandInStep.moments_under]
  rw [← later, ← StandInStep.moments_under] at runs
  have state : BusyConnection.mk upper.standIn.connection [] =
      (BusyConnection.mk lower.standIn.connection []).under u := by
    rw [← up.state, ← low.state]
    exact congrArg Prod.fst runs
  refine ⟨congrArg BusyConnection.connection state, ?_, ?_, ?_⟩
  · have same : (x.under t).under u = x.under u := by cases x <;> rfl
    have kept := setup_step_under u ⟨setup.under t, ⟨c.under t, []⟩, τ⟩
      ⟨setup.under u, ⟨c.under u, []⟩, τ'⟩ (x.under t) rfl
    rwa [same] at kept
  · have lasting : (x.under u).nanos = (x.under t).nanos := by cases x <;> rfl
    rw [up.now, low.now, lasting, filtered.now]
  · rw [up.reports, low.reports, filtered.reports, List.filter_append]
    exact congrArg _ (congrArg Prod.snd runs)

/-! ## Everything at once -/

/-- The trace with its clock put to a time line. -/
def TimerTrace.on (s : TimerTrace) (τ : Timeline) : TimerTrace := { s with timeline := τ }

def TimerTrace.under (s : TimerTrace) (t : Threshold) : TimerTrace :=
  { s with timer := s.timer.under t }

@[simp] theorem TimerTrace.under_under (s : TimerTrace) (t u : Threshold) :
    (s.under t).under u = s.under u := rfl

theorem TimerTrace.dropGuard_under {τ τ' : Timeline}
    (filtered : τ.Filtered keep τ') (s : TimerTrace) (place : Nat) :
    let lower := ((s.under t).on τ).dropGuard place
    let upper := ((s.under u).on τ').dropGuard place
    upper.on .start = (lower.on .start).under u ∧ lower.timeline.Filtered keep upper.timeline := by
  by_cases inside : place < s.guards.length
  · simp only [dropGuard, on, under, inside, if_true]
    exact ⟨rfl, filtered⟩
  · simpa [dropGuard, on, under, inside] using filtered

theorem TimerTrace.step_under (filters : t.Filters u keep) {τ τ' : Timeline}
    (filtered : τ.Filtered keep τ') (s : TimerTrace) (x : TimerStep) :
    let lower := ((s.under t).on τ).step x
    let upper := ((s.under u).on τ').step x
    upper.on .start = (lower.on .start).under u ∧ lower.timeline.Filtered keep upper.timeline := by
  cases x with
  | start text => exact ⟨by simp [on, under, step, filtered.now]; rfl, filtered⟩
  | finish text error =>
    have finished := s.timer.finish_under filters τ.now text error
    simp only [step, on, under, filtered.now, finished]
    exact ⟨trivial, filtered.deliver _⟩
  | pass nanos => exact ⟨rfl, filtered.pass nanos⟩
  | enter => exact ⟨rfl, filtered⟩
  | leaveLast => exact dropGuard_under filtered s _
  | leaveFirst => exact dropGuard_under filtered s _
  | leaveAt place => exact dropGuard_under filtered s _

/-- A future that is observed.  Only an enabled monitor looks at the clock when it begins. -/
structure Observation where
  monitor : Monitor
  query : Query
  since : Option Nat

namespace Observation

def begin (w : Monitor) (query : Query) (now : Nat) : Observation :=
  ⟨w, query, if w.isEnabled then some now else none⟩

/-- What is reported when the future is done. -/
def settle (o : Observation) (now : Nat) (result : Except String Produced) : Option Report :=
  match o.since with
  | none => none
  | some since => o.monitor.judge o.query (.ofNanos (now - since)) (Monitor.outcomeOf result)

/-- A future that is observed from beginning to end is judged by the time in between. -/
theorem settle_begin (w : Monitor) (query : Query) (now later : Nat)
    (result : Except String Produced) :
    (begin w query now).settle later result =
      w.judge query (.ofNanos (later - now)) (Monitor.outcomeOf result) := by
  cases enabled : w.isEnabled with
  | true => simp only [begin, settle, enabled, if_true]
  | false =>
    have off : w.threshold.isExceededBy (.ofNanos (later - now)) = false := by
      rw [Threshold.isExceededBy, show w.threshold.isEnabled = false from enabled, Bool.false_and]
    simp [begin, settle, enabled, Monitor.judge_eq, off]

def under (o : Observation) (t : Threshold) : Observation :=
  { o with monitor := o.monitor.under t }

@[simp] theorem under_under (o : Observation) (t u : Threshold) :
    (o.under t).under u = o.under u := rfl

theorem begin_under (alike : u.isEnabled = t.isEnabled) (w : Monitor) (query : Query)
    (now : Nat) : begin (w.under u) query now = (begin (w.under t) query now).under u := by
  simp only [begin, Monitor.isEnabled_under, alike]
  rfl

theorem settle_under (filters : t.Filters u keep) (o : Observation) (now : Nat)
    (result : Except String Produced) :
    (o.under u).settle now result = ((o.under t).settle now result).filter keep := by
  cases since : o.since <;> simp [settle, under, since, filters.judged]

end Observation

/-- One thing that happens where timers, futures and connections are timed at the same time. -/
inductive BenchStep where
  -- Nanoseconds pass.
  | pass (nanos : Nat)
  | timer (place : Nat) (step : TimerStep)
  -- A future is observed from now on.
  | observe (reporter : Reporter) (query : Query)
  -- The future at a place is done.
  | settle (place : Nat) (result : Except String Produced)
  -- A query is done that has taken a time known otherwise.
  | record (reporter : Reporter) (query : Query) (elapsed : Duration) (outcome : Outcome)
  | connection (place : Nat) (step : ConnectionStep)
  -- A whole script on a connection.
  | script (place : Nat) (step : StandInStep)

/-- What is timed: the timers, whose own clocks stand still, the futures, and the connections
with the session's setup. -/
structure Bench where
  setup : SessionSetup
  timers : List TimerTrace
  observations : List Observation
  connections : List BusyConnection

namespace Bench

/-- New timers and connections, with the setup under a threshold. -/
def new (t : Threshold) (setup : SessionSetup) (reporters : List Reporter) (hooks : List Bool) :
    Bench :=
  ⟨setup.under t, reporters.map fun reporter => (TimerTrace.begin ⟨t, reporter⟩), [],
    hooks.map .new⟩

/-- One step where every monitor has the threshold `t`. -/
def step (t : Threshold) (b : Bench) (τ : Timeline) : BenchStep → Bench × Timeline
  | .pass nanos => (b, τ.pass nanos)
  | .timer place x =>
    match b.timers[place]? with
    | none => (b, τ)
    | some s =>
      let s := (s.on τ).step x
      ({ b with timers := b.timers.set place (s.on .start) }, s.timeline)
  | .observe reporter query =>
    ({ b with observations := b.observations ++ [.begin ⟨t, reporter⟩ query τ.now] }, τ)
  | .settle place result =>
    match b.observations[place]? with
    | none => (b, τ)
    | some o =>
      ({ b with observations := b.observations.eraseIdx place },
        τ.deliver (o.settle τ.now result))
  | .record reporter query elapsed outcome =>
    (b, τ.deliver (Monitor.judge ⟨t, reporter⟩ query elapsed outcome))
  | .connection place x =>
    match b.connections[place]? with
    | none => (b, τ)
    | some c =>
      let (c, report) := c.step τ.now (x.under t)
      ({ b with connections := b.connections.set place c }, τ.deliver report)
  | .script place x =>
    match b.connections[place]? with
    | none => (b, τ)
    | some c =>
      let s := (Solo.step ⟨b.setup, ⟨c.connection, []⟩, τ⟩ (x.under t)).1
      ({ b with
          setup := s.setup
          connections := b.connections.set place ⟨s.standIn.connection, c.units⟩ },
        s.timeline)

def run (t : Threshold) (b : Bench) (τ : Timeline) : List BenchStep → Bench × Timeline
  | [] => (b, τ)
  | x :: xs =>
    let (b, τ) := b.step t τ x
    b.run t τ xs

def under (b : Bench) (t : Threshold) : Bench :=
  ⟨b.setup.under t, b.timers.map (·.under t), b.observations.map (·.under t),
    b.connections.map (·.under t)⟩

@[simp] theorem under_under (b : Bench) (t u : Threshold) : (b.under t).under u = b.under u := by
  simp [under, Function.comp_def]

/-- One step under two thresholds. -/
theorem step_under (filters : t.Filters u keep) {τ τ' : Timeline}
    (filtered : τ.Filtered keep τ') (b : Bench) (x : BenchStep) :
    let lower := (b.under t).step t τ x
    let upper := (b.under u).step u τ' x
    upper.1 = lower.1.under u ∧ lower.2.Filtered keep upper.2 := by
  have kept : b.under u = (b.under t).under u := (b.under_under t u).symm
  cases x with
  | pass nanos => exact ⟨kept, filtered.pass nanos⟩
  | timer place x =>
    cases here : b.timers[place]? with
    | none =>
      simp only [step, under, List.getElem?_map, here, Option.map_none]
      exact ⟨kept, filtered⟩
    | some s =>
      obtain ⟨state, timeline⟩ := s.step_under filters filtered x
      simp only [step, under, List.getElem?_map, here, Option.map_some, state]
      exact ⟨by simp [Function.comp_def], timeline⟩
  | observe reporter query =>
    have begun : Observation.begin ⟨u, reporter⟩ query τ.now =
        (Observation.begin ⟨t, reporter⟩ query τ.now).under u :=
      Observation.begin_under filters.enabled ⟨t, reporter⟩ query τ.now
    exact ⟨by simp [step, under, filtered.now, begun, Function.comp_def], filtered⟩
  | settle place result =>
    cases here : b.observations[place]? with
    | none =>
      simp only [step, under, List.getElem?_map, here, Option.map_none]
      exact ⟨kept, filtered⟩
    | some o =>
      have settled := o.settle_under filters τ.now result
      simp only [step, under, List.getElem?_map, here, Option.map_some, filtered.now, settled]
      exact ⟨by simp [Function.comp_def, List.eraseIdx_map], filtered.deliver _⟩
  | record reporter query elapsed outcome =>
    have judged := filters.judged ⟨t, reporter⟩ query elapsed outcome
    have delivered := filtered.deliver
      ((Monitor.under ⟨t, reporter⟩ t).judge query elapsed outcome)
    rw [← judged] at delivered
    exact ⟨kept, delivered⟩
  | connection place x =>
    cases here : b.connections[place]? with
    | none =>
      simp only [step, under, List.getElem?_map, here, Option.map_none]
      exact ⟨kept, filtered⟩
    | some c =>
      have stepped := c.step_under filters τ.now x
      simp only [step, under, List.getElem?_map, here, Option.map_some, filtered.now, stepped]
      exact ⟨by simp [Function.comp_def], filtered.deliver _⟩
  | script place x =>
    cases here : b.connections[place]? with
    | none =>
      simp only [step, under, List.getElem?_map, here, Option.map_none]
      exact ⟨kept, filtered⟩
    | some c =>
      obtain ⟨state, setup, timeline⟩ := Solo.step_under filters filtered b.setup c.connection x
      simp only [step, under, List.getElem?_map, here, Option.map_some,
        BusyConnection.connection_under, state, setup]
      refine ⟨?_, timeline⟩
      simp [Function.comp_def, BusyConnection.under]

theorem run_under (filters : t.Filters u keep) {τ τ' : Timeline}
    (filtered : τ.Filtered keep τ') (b : Bench) (steps : List BenchStep) :
    ((b.under t).run t τ steps).2.Filtered keep ((b.under u).run u τ' steps).2 := by
  induction steps generalizing b τ τ' with
  | nil => exact filtered
  | cons x steps ih =>
    obtain ⟨state, timeline⟩ := b.step_under filters filtered x
    obtain ⟨uniform, -⟩ := b.step_under t.filters_self (.refl τ) x
    have rest := ih timeline ((b.under t).step t τ x).1
    rw [← uniform, ← state] at rest
    exact rest

end Bench

end

namespace Bench

/-- What is reported, in order, when everything happens under one threshold. -/
def reports (t : Threshold) (setup : SessionSetup) (reporters : List Reporter)
    (hooks : List Bool) (steps : List BenchStep) : List Report :=
  ((new t setup reporters hooks).run t .start steps).2.reports

theorem new_under (t u : Threshold) (setup : SessionSetup) (reporters : List Reporter)
    (hooks : List Bool) : (new t setup reporters hooks).under u = new u setup reporters hooks := by
  simp only [new, under, List.map_map]
  rfl

theorem reports_filter {t u : Threshold} {keep : Report → Bool} (filters : t.Filters u keep)
    (setup : SessionSetup) (reporters : List Reporter) (hooks : List Bool)
    (steps : List BenchStep) :
    reports u setup reporters hooks steps =
      (reports t setup reporters hooks steps).filter keep := by
  have filtered : Timeline.Filtered keep .start .start := ⟨rfl, rfl⟩
  have run := (new t setup reporters hooks).run_under filters filtered steps
  rw [new_under, new_under] at run
  exact run.reports

/-- Timers, observed futures and work on connections, everything at the same time and in any
order: what is reported under a higher threshold is what is reported under a lower one, in the
same order, without the reports on less time than the higher threshold.  Under the threshold zero
nothing is reported. -/
theorem thresholds_only_filter (setup : SessionSetup) (reporters : List Reporter)
    (hooks : List Bool) (steps : List BenchStep) :
    (∀ t u : Threshold, 0 < t.millis → t.millis ≤ u.millis →
      reports u setup reporters hooks steps =
        (reports t setup reporters hooks steps).filter (u.millis ≤ ·.event.millis)) ∧
      reports .disabled setup reporters hooks steps = [] := by
  refine ⟨fun t u positive higher => ?_, ?_⟩
  · exact reports_filter (Threshold.filters_of_le positive higher) setup reporters hooks steps
  · rw [reports_filter Threshold.filters_disabled, List.filter_eq_nil_iff]
    exact fun _ _ => Bool.false_ne_true

/-- A statement of a timer, a labelled unit with a statement of its own, a future that fails, a
query just below the higher threshold and a statement after the unit. -/
theorem thresholds_only_filter_of_busy_bench :
    reports ⟨100⟩ ⟨.standard, "SET search_path TO \"public\"", .disabled, 0⟩ [.collector 0] [true]
      [.timer 0 (.start "SELECT 1"), .observe .log (.named "sync"),
        .connection 0 (.instrument ⟨.disabled, .collector 1⟩),
        .connection 0 (.begin (.named "listOrders")),
        .connection 0 (.start "SELECT * FROM orders"), .pass 60000000,
        .timer 0 (.finish "SELECT 1" none), .connection 0 (.finish "SELECT * FROM orders" none),
        .pass 40000000, .connection 0 (.conclude (.completed (some 3))), .settle 0 (.error "late"),
        .record .log (.named "sum") (.ofParts 0 99999999) (.completed none),
        .script 0 (.raw ⟨"DELETE FROM carts", 70000000, none⟩)] =
      [⟨.collector 1, ⟨100, ⟨"listOrders"⟩, .completed (some 3)⟩⟩,
        ⟨.log, ⟨100, ⟨"sync"⟩, .failed "late"⟩⟩] := by
  rw [(thresholds_only_filter _ _ _ _).1 ⟨50⟩ ⟨100⟩ (by decide) (by decide)]
  decide +kernel

end Bench

end SchemaPool
