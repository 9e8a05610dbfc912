import SchemaPool.Proofs.Timing.Filtering

/-! # Heeding one monitor

Until an enabled monitor is put on a connection nothing comes of what happens to it
(`BusyConnection.Untimed`).  Once one has been put on, nothing but that monitor is ever heard of:
it times the units, it is the one that the driver's timer reports to, and all reports are of its
making (`BusyConnection.Heeds`).  Both are kept by every moment of a connection but its being
wrapped anew.

The scope that the driver's timer looks at is the one that the connection's units enter, and stays
so (`SharedConnection.Paired`). -/

namespace SchemaPool

open SchemaPool.Sql (Query)

/-! ## One moment -/

/-- The report is one that the monitor makes: it goes to its reporter and reaches its threshold. -/
def Monitor.Makes (w : Monitor) (r : Report) : Prop :=
  r.reporter = w.reporter ∧ r.reaches w.threshold = true

theorem Monitor.makes_none (w : Monitor) (r : Report) (reported : none = some r) : w.Makes r := by
  cases reported

theorem Monitor.makes_of_judge {w : Monitor} {query : Query} {elapsed : Duration}
    {outcome : Outcome} {r : Report} (judged : w.judge query elapsed outcome = some r) :
    w.Makes r := by
  rw [judge_eq] at judged
  split at judged
  · next slow =>
    obtain rfl := Option.some.inj judged
    have enabled : w.threshold.isEnabled = true := (Bool.and_eq_true_iff.1 slow).1
    exact ⟨rfl, decide_eq_true ((le_reportedMillis_iff enabled elapsed).2 slow)⟩
  · cases judged

theorem QueryTimer.makes_of_finish {t : QueryTimer} {now : Nat} {text : String}
    {error : Option String} {r : Report} (reported : (t.finish now text error).2 = some r) :
    t.monitor.Makes r := by
  simp only [finish] at reported
  split at reported
  · cases reported
  · dsimp only at reported
    split at reported
    · exact Monitor.makes_of_judge reported
    · cases reported

namespace BusyConnection

/-- No monitor has been put on the connection: it is as it was when it was new, and the units
under way on it are not timed. -/
structure Untimed (hook : Bool) (b : BusyConnection) : Prop where
  connection : b.connection = .new hook
  units : ∀ u ∈ b.units, u.1.watch = none

/-- The monitor has been put on the connection: the driver's timer is that monitor's, if the
driver takes one, and it times all units but those that began before. -/
structure Heeds (hook : Bool) (w : Monitor) (b : BusyConnection) : Prop where
  driver : b.connection.hook = hook
  timing : b.connection.timing = if hook then .driver w else .units w
  timer : b.connection.timer.map (·.monitor) = if hook then some w else none
  units : ∀ u ∈ b.units, ∀ v since, u.1.watch = some (v, since) → v = w

variable {hook : Bool} {w : Monitor} {b : BusyConnection}

/-- Nothing comes of a moment until an enabled monitor is put on. -/
theorem Untimed.step (untimed : Untimed hook b) (now : Nat) {x : ConnectionStep}
    (disabled : ∀ v, x = .instrument v → v.isEnabled = false) :
    Untimed hook (b.step now x).1 ∧ (b.step now x).2 = none := by
  obtain ⟨connection, units⟩ := b
  obtain ⟨rfl, watch⟩ := untimed
  cases x with
  | instrument v =>
    have still := TimedConnection.instrument_of_disabled (.new hook) (disabled v rfl)
    exact ⟨⟨congrArg Prod.fst still, watch⟩, rfl⟩
  | start text => exact ⟨⟨rfl, watch⟩, rfl⟩
  | finish text error => exact ⟨⟨rfl, watch⟩, rfl⟩
  | begin query => exact ⟨⟨rfl, List.forall_mem_cons.2 ⟨rfl, watch⟩⟩, rfl⟩
  | conclude outcome =>
    cases units with
    | nil => exact ⟨⟨rfl, watch⟩, rfl⟩
    | cons u units =>
      obtain ⟨first, rest⟩ := List.forall_mem_cons.1 watch
      refine ⟨⟨?_, rest⟩, ?_⟩
      · simp only [BusyConnection.step, TimedConnection.closeUnit, TimedConnection.releaseScope]
        split <;> rfl
      · simp only [BusyConnection.step, TimedConnection.closeUnit, first]
  | abandon =>
    cases units with
    | nil => exact ⟨⟨rfl, watch⟩, rfl⟩
    | cons u units =>
      refine ⟨⟨?_, (List.forall_mem_cons.1 watch).2⟩, rfl⟩
      simp only [BusyConnection.step, TimedConnection.releaseScope]
      split <;> rfl
  | rewrap =>
    cases units with
    | nil => exact ⟨⟨rfl, watch⟩, rfl⟩
    | cons u units => exact ⟨⟨rfl, watch⟩, rfl⟩

/-- The first enabled monitor takes effect. -/
theorem Untimed.instrument (untimed : Untimed hook b) (now : Nat) (enabled : w.isEnabled = true) :
    Heeds hook w (b.step now (.instrument w)).1 ∧ (b.step now (.instrument w)).2 = none := by
  obtain ⟨connection, units⟩ := b
  obtain ⟨rfl, watch⟩ := untimed
  have taken := TimedConnection.instrument_of_bare (c := .new hook) enabled rfl
  simp only [BusyConnection.step, taken]
  have none_before (u : OpenUnit × Query) (member : u ∈ units) (v : Monitor) (since : Nat)
      (watched : u.1.watch = some (v, since)) : v = w := by
    rw [watch u member] at watched
    cases watched
  cases hook with
  | true => exact ⟨⟨rfl, rfl, rfl, none_before⟩, trivial⟩
  | false => exact ⟨⟨rfl, rfl, rfl, none_before⟩, trivial⟩

namespace Heeds

/-- Only the timer's holders and what is under way on it have changed, and the units that are
over are gone. -/
theorem of_eq {b' : BusyConnection} (heeds : Heeds hook w b)
    (driver : b'.connection.hook = b.connection.hook)
    (timing : b'.connection.timing = b.connection.timing)
    (timer : b'.connection.timer.map (·.monitor) = b.connection.timer.map (·.monitor))
    (units : ∀ u ∈ b'.units, ∀ v since, u.1.watch = some (v, since) → v = w) : Heeds hook w b' :=
  ⟨driver.trans heeds.driver, timing.trans heeds.timing, timer.trans heeds.timer, units⟩

theorem release (heeds : Heeds hook w b) (u : OpenUnit) {units : List (OpenUnit × Query)}
    (fewer : ∀ v ∈ units, v ∈ b.units) :
    Heeds hook w ⟨b.connection.releaseScope u, units⟩ := by
  refine heeds.of_eq ?_ (TimedConnection.timing_releaseScope _ _) ?_
    fun v member => heeds.units v (fewer v member)
  · rw [TimedConnection.releaseScope]
    split <;> rfl
  · rw [TimedConnection.releaseScope]
    split
    · simp [Function.comp_def, QueryTimer.leave]
    · rfl

/-- Every moment leaves the monitor in effect, and what is reported is of its making. -/
theorem step (heeds : Heeds hook w b) (now : Nat) {x : ConnectionStep} (wrapped : x ≠ .rewrap) :
    Heeds hook w (b.step now x).1 ∧ ∀ r, (b.step now x).2 = some r → w.Makes r := by
  cases x with
  | instrument v =>
    have timed : b.connection.timing.isTimed = true := by
      rw [heeds.timing]
      cases hook <;> rfl
    have still := TimedConnection.instrument_of_timed v timed
    refine ⟨?_, w.makes_none⟩
    simpa only [BusyConnection.step, still] using heeds
  | start text =>
    refine ⟨heeds.of_eq rfl rfl ?_ heeds.units, w.makes_none⟩
    simp [BusyConnection.step, TimedConnection.startStatement, Function.comp_def]
  | finish text error =>
    cases timer : b.connection.timer with
    | none =>
      have nothing : b.connection.finishStatement now text error = (b.connection, none) := by
        rw [TimedConnection.finishStatement, timer]
      simp only [BusyConnection.step, nothing]
      exact ⟨heeds, w.makes_none⟩
    | some t =>
      have done : b.connection.finishStatement now text error =
          ({ b.connection with timer := some (t.finish now text error).1 },
            (t.finish now text error).2) := by
        rw [TimedConnection.finishStatement, timer]
      have monitor : t.monitor = w := by
        have own := heeds.timer
        rw [timer] at own
        cases hook with
        | true => exact Option.some.inj own
        | false => cases own
      simp only [BusyConnection.step, done]
      refine ⟨heeds.of_eq rfl rfl ?_ heeds.units, fun r reported => ?_⟩
      · rw [timer]
        exact congrArg some (QueryTimer.monitor_finish t now text error)
      · exact monitor ▸ QueryTimer.makes_of_finish reported
  | begin query =>
    refine ⟨heeds.of_eq ?_ (TimedConnection.timing_openUnit _ _) ?_ ?_, w.makes_none⟩
    · simp only [BusyConnection.step, TimedConnection.openUnit]
      split <;> rfl
    · simp only [BusyConnection.step, TimedConnection.openUnit]
      split <;> simp [Function.comp_def, QueryTimer.enter]
    · refine List.forall_mem_cons.2 ⟨fun v since watched => ?_, heeds.units⟩
      have own := heeds.timing
      simp only [own] at watched
      cases hook <;> exact (congrArg Prod.fst (Option.some.inj watched)).symm
  | conclude outcome =>
    cases units : b.units with
    | nil =>
      simp only [BusyConnection.step, units]
      exact ⟨heeds, w.makes_none⟩
    | cons u rest =>
      simp only [BusyConnection.step, units, TimedConnection.closeUnit]
      refine ⟨heeds.release u.1 fun v member => by simp [units, member], fun r reported => ?_⟩
      cases watch : u.1.watch with
      | none => simp [watch] at reported
      | some watched =>
        obtain ⟨v, since⟩ := watched
        obtain rfl := heeds.units u (by simp [units]) v since watch
        simp only [watch] at reported
        exact Monitor.makes_of_judge reported
  | abandon =>
    cases units : b.units with
    | nil =>
      simp only [BusyConnection.step, units]
      exact ⟨heeds, w.makes_none⟩
    | cons u rest =>
      simp only [BusyConnection.step, units]
      exact ⟨heeds.release u.1 fun v member => by simp [units, member], w.makes_none⟩
  | rewrap => exact absurd rfl wrapped

end Heeds

/-! ## Whole runs -/

theorem Untimed.run (untimed : Untimed hook b) {ms : List Moment}
    (disabled : ∀ m ∈ ms, ∀ v, m.step = .instrument v → v.isEnabled = false) :
    Untimed hook (b.run ms).1 ∧ (b.run ms).2 = [] := by
  induction ms generalizing b with
  | nil => exact ⟨untimed, rfl⟩
  | cons m ms ih =>
    obtain ⟨first, rest⟩ := List.forall_mem_cons.1 disabled
    obtain ⟨still, nothing⟩ := untimed.step m.now first
    obtain ⟨last, none⟩ := ih still rest
    rw [run_cons, nothing, none]
    exact ⟨last, rfl⟩

theorem Heeds.run (heeds : Heeds hook w b) {ms : List Moment}
    (wrapped : ∀ m ∈ ms, m.step ≠ .rewrap) :
    Heeds hook w (b.run ms).1 ∧ ∀ r ∈ (b.run ms).2, w.Makes r := by
  induction ms generalizing b with
  | nil => exact ⟨heeds, nofun⟩
  | cons m ms ih =>
    obtain ⟨first, rest⟩ := List.forall_mem_cons.1 wrapped
    obtain ⟨still, made⟩ := heeds.step m.now first
    obtain ⟨last, later⟩ := ih still rest
    rw [run_cons]
    refine ⟨last, fun r member => ?_⟩
    rcases List.mem_append.1 member with now | after
    · exact made r (Option.mem_toList.1 now)
    · exact later r after

end BusyConnection

/-! ## Moments of work -/

/-- A moment that neither puts a monitor on nor wraps the connection anew. -/
def Moment.isWork (m : Moment) : Bool :=
  match m.step with
  | .instrument _ => false
  | .rewrap => false
  | _ => true

namespace Moment

theorem isWork_ofStatement (now : Nat) (x : ScriptedStatement) :
    ∀ m ∈ ofStatement now x, m.isWork = true := by
  simp [ofStatement, isWork]

theorem isWork_ofWork (now : Nat) (steps : List UnitStep) :
    ∀ m ∈ ofWork now steps, m.isWork = true := by
  induction steps generalizing now with
  | nil => nofun
  | cons step steps ih =>
    cases step with
    | pass nanos => exact ih _
    | statement x =>
      exact List.forall_mem_append.2 ⟨isWork_ofStatement now x, ih _⟩

theorem isWork_ofUnit (now : Nat) (query : Query) (steps : List UnitStep)
    {last : List ConnectionStep} (work : ∀ x ∈ last, (Moment.mk now x).isWork = true) :
    ∀ m ∈ ofUnit now query steps last, m.isWork = true := by
  refine List.forall_mem_append.2 ⟨List.forall_mem_cons.2 ⟨rfl, isWork_ofWork now steps⟩, ?_⟩
  intro m member
  obtain ⟨x, among, rfl⟩ := List.mem_map.1 member
  exact work x among

theorem step_ne_rewrap {m : Moment} (work : m.isWork = true) : m.step ≠ .rewrap := by
  intro rewrap
  simp [isWork, rewrap] at work

theorem step_ne_instrument {m : Moment} (work : m.isWork = true) (v : Monitor) :
    m.step ≠ .instrument v := by
  intro instrument
  simp [isWork, instrument] at work

end Moment

/-! ## The scope in the state and the scope of the timer -/

namespace SharedConnection

variable {m : Memory} {c : SharedConnection} {w : Monitor} {scope : Nat}

def run (c : SharedConnection) (m : Memory) : List Moment → Memory × SharedConnection
  | [] => (m, c)
  | x :: xs => (c.step m x.now x.step).2.1.run (c.step m x.now x.step).1 xs

theorem run_append (c : SharedConnection) (m : Memory) (ms ns : List Moment) :
    c.run m (ms ++ ns) = (c.run m ms).2.run (c.run m ms).1 ns := by
  induction ms generalizing c m with
  | nil => rfl
  | cons x xs ih => exact ih _ _

theorem Tied.run (tied : Tied m c) (ms : List Moment) :
    Tied (c.run m ms).1 (c.run m ms).2 ∧
      (c.run m ms).2.view (c.run m ms).1 = ((c.view m).run ms).1 := by
  induction ms generalizing m c with
  | nil => exact ⟨tied, rfl⟩
  | cons x xs ih =>
    have mirrors := tied.mirrors x.now x.step
    obtain ⟨last, seen⟩ := ih mirrors.tied
    exact ⟨last, by rw [SharedConnection.run, seen, mirrors.state]; rfl⟩

/-- The driver's timer looks at the scope that the connection's units enter. -/
structure Paired (w : Monitor) (scope : Nat) (c : SharedConnection) : Prop where
  state : c.timing = .driver w scope
  timer : c.scope? = some scope

namespace Paired

/-- No moment gives the connection another scope, neither its state nor its driver's timer. -/
theorem step (paired : Paired w scope c) (m : Memory) (now : Nat) {x : ConnectionStep}
    (wrapped : x ≠ .rewrap) : Paired w scope (c.step m now x).2.1 := by
  obtain ⟨state, timer⟩ := paired
  obtain ⟨t, known, rfl⟩ := Option.map_eq_some_iff.1 timer
  cases x with
  | instrument v =>
    have timed : c.timing.view.isTimed = true := by
      rw [state]
      rfl
    simp only [SharedConnection.step, timed, Bool.or_true, if_true]
    exact ⟨state, timer⟩
  | start text =>
    simp only [SharedConnection.step, known]
    exact ⟨state, rfl⟩
  | finish text error =>
    simp only [SharedConnection.step, known]
    exact ⟨state, rfl⟩
  | begin query =>
    simp only [SharedConnection.step, state]
    exact ⟨rfl, timer⟩
  | conclude outcome =>
    rw [SharedConnection.step]
    split <;> exact ⟨state, timer⟩
  | abandon =>
    rw [SharedConnection.step]
    split <;> exact ⟨state, timer⟩
  | rewrap => exact absurd rfl wrapped

theorem run (paired : Paired w scope c) (m : Memory) {ms : List Moment}
    (wrapped : ∀ x ∈ ms, x.step ≠ .rewrap) : Paired w scope (c.run m ms).2 := by
  induction ms generalizing c m with
  | nil => exact paired
  | cons x xs ih =>
    obtain ⟨first, rest⟩ := List.forall_mem_cons.1 wrapped
    exact ih (paired.step m x.now first) _ rest

end Paired

theorem Tied.paired (tied : Tied m c) (seen : (c.view m).connection.timing = .driver w) :
    ∃ scope, Paired w scope c := by
  cases timing : c.timing with
  | bare => simp [view, timing, SharedTiming.view] at seen
  | units v => simp [view, timing, SharedTiming.view] at seen
  | driver v scope =>
    obtain rfl : v = w := by simpa [view, timing, SharedTiming.view] using seen
    exact ⟨scope, timing, tied.timing v scope timing⟩

theorem tied_new (m : Memory) (hook : Bool) : Tied m (.new hook) := ⟨nofun, nofun, nofun⟩

end SharedConnection

end SchemaPool
