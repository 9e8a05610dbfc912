import SchemaPool.Proofs.Timing.Moments

/-! # Scopes that are shared by reference

A connection, its driver's timer and the guards of the units under way on it all know the
connection's scope, and so it is kept apart from them, at a place in a memory that all connections
use.  Here a step on a connection reads and writes that memory (`SharedConnection.step`).

A connection that knows no scope but its own does what a connection does that has its scope for
itself (`Tied.stepped`): what is seen of it (`SharedConnection.view`) takes the same step and
reports the same, and no other place in the memory is touched. -/

namespace SchemaPool

open SchemaPool.Sql (Query)

/-! ## The memory -/

/-- The number of holders of every scope that has been made. -/
structure Memory where
  scopes : List Nat
deriving DecidableEq, Repr

namespace Memory

def empty : Memory := ⟨[]⟩

def holders (m : Memory) (scope : Nat) : Nat := m.scopes.getD scope 0

/-- The place of the scope that is made next. -/
def next (m : Memory) : Nat := m.scopes.length

/-- A new scope is made, which nobody holds. -/
def grow (m : Memory) : Memory := ⟨m.scopes ++ [0]⟩

def enter (m : Memory) (scope : Nat) : Memory := ⟨m.scopes.modify scope (· + 1)⟩

def leave (m : Memory) (scope : Nat) : Memory := ⟨m.scopes.modify scope (· - 1)⟩

variable {m : Memory} {s s' : Nat}

@[simp] theorem next_grow : m.grow.next = m.next + 1 := by simp [grow, next]

@[simp] theorem next_enter : (m.enter s).next = m.next := by simp [enter, next]

@[simp] theorem next_leave : (m.leave s).next = m.next := by simp [leave, next]

@[simp] theorem holders_grow (old : s < m.next) : m.grow.holders s = m.holders s := by
  simp only [next] at old
  simp [grow, holders, List.getElem?_append_left old]

@[simp] theorem holders_grow_next : m.grow.holders m.next = 0 := by simp [grow, holders, next]

@[simp] theorem holders_enter_of_ne (other : s ≠ s') : (m.enter s).holders s' = m.holders s' := by
  simp [enter, holders, other]

@[simp] theorem holders_leave_of_ne (other : s ≠ s') : (m.leave s).holders s' = m.holders s' := by
  simp [leave, holders, other]

@[simp] theorem holders_enter_self (old : s < m.next) :
    (m.enter s).holders s = m.holders s + 1 := by
  simp only [next] at old
  simp [enter, holders, old]

@[simp] theorem holders_leave_self (old : s < m.next) :
    (m.leave s).holders s = m.holders s - 1 := by
  simp only [next] at old
  simp [leave, holders, old]

end Memory

/-! ## Connections that know their scope by its place -/

/-- A driver's timer. -/
structure SharedTimer where
  monitor : Monitor
  scope : Nat
  pending : List PendingStatement
deriving DecidableEq, Repr

inductive SharedTiming where
  | bare
  | units (monitor : Monitor)
  | driver (monitor : Monitor) (scope : Nat)
deriving DecidableEq, Repr

/-- A labelled unit under way, with the guard of the scope that it has entered. -/
structure SharedUnit where
  watch : Option (Monitor × Nat)
  guard : Option Nat
  query : Query
deriving DecidableEq, Repr

structure SharedConnection where
  hook : Bool
  timer : Option SharedTimer
  timing : SharedTiming
  units : List SharedUnit
deriving DecidableEq, Repr

def SharedTimer.view (m : Memory) (t : SharedTimer) : QueryTimer :=
  ⟨t.monitor, m.holders t.scope, t.pending⟩

def SharedTiming.view : SharedTiming → Timing
  | bare => .bare
  | units w => .units w
  | driver w _ => .driver w

def SharedUnit.view (u : SharedUnit) : OpenUnit × Query := (⟨u.watch, u.guard.isSome⟩, u.query)

/-- The guard of a unit that is over is dropped. -/
def SharedUnit.drop (u : SharedUnit) (m : Memory) : Memory := u.guard.elim m m.leave

namespace SharedConnection

def new (hook : Bool) : SharedConnection := ⟨hook, none, .bare, []⟩

/-- What is seen of a connection by somebody who can read the memory. -/
def view (m : Memory) (c : SharedConnection) : BusyConnection :=
  ⟨⟨c.hook, c.timer.map (·.view m), c.timing.view⟩, c.units.map SharedUnit.view⟩

/-- The place of the scope that the driver's timer looks at. -/
def scope? (c : SharedConnection) : Option Nat := c.timer.map (·.scope)

/-- What becomes of the memory and of the connection, and what is reported. -/
def step (m : Memory) (c : SharedConnection) (now : Nat) :
    ConnectionStep → Memory × SharedConnection × Option Report
  | .instrument w =>
    if !w.isEnabled || c.timing.view.isTimed then (m, c, none)
    else if c.hook then
      (m.grow, { c with timer := some ⟨w, m.next, []⟩, timing := .driver w m.next }, none)
    -- The scope has been made for nobody.
    else (m.grow, { c with timing := .units w }, none)
  | .start text =>
    match c.timer with
    | none => (m, c, none)
    | some t =>
      (m, { c with timer := some { t with pending := ((t.view m).start now text).pending } }, none)
  | .finish text error =>
    match c.timer with
    | none => (m, c, none)
    | some t =>
      let (t', report) := (t.view m).finish now text error
      (m, { c with timer := some { t with pending := t'.pending } }, report)
  | .begin query =>
    match c.timing with
    | .bare => (m, { c with units := ⟨none, none, query⟩ :: c.units }, none)
    | .units w => (m, { c with units := ⟨some (w, now), none, query⟩ :: c.units }, none)
    | .driver w scope =>
      (m.enter scope, { c with units := ⟨some (w, now), some scope, query⟩ :: c.units }, none)
  | .conclude outcome =>
    match c.units with
    | [] => (m, c, none)
    | u :: units =>
      (u.drop m, { c with units },
        match u.watch with
        | none => none
        | some (w, since) => w.judge u.query (.ofNanos (now - since)) outcome)
  | .abandon =>
    match c.units with
    | [] => (m, c, none)
    | u :: units => (u.drop m, { c with units }, none)
  | .rewrap =>
    match c.units with
    | [] => (m, { c with timing := .bare }, none)
    | _ :: _ => (m, c, none)

/-- The connection knows one scope at most, which has been made: its state and the guards of its
units know the scope that its timer looks at. -/
structure Tied (m : Memory) (c : SharedConnection) : Prop where
  made : ∀ s, c.scope? = some s → s < m.next
  timing : ∀ w s, c.timing = .driver w s → c.scope? = some s
  guards : ∀ u ∈ c.units, ∀ s, u.guard = some s → ∃ w, c.timing = .driver w s

/-- A step has touched no scope but that of its connection, and the connection looks at a scope
that it has known or that has been made for it. -/
structure Local (m : Memory) (c : SharedConnection) (m' : Memory) (c' : SharedConnection) :
    Prop where
  grown : m.next ≤ m'.next
  others : ∀ s, s < m.next → c.scope? ≠ some s → m'.holders s = m.holders s
  scope : ∀ s, c'.scope? = some s → c.scope? = some s ∨ m.next ≤ s

namespace Local

variable {m m' : Memory} {c c' : SharedConnection}

theorem of_scope_eq (m : Memory) (same : c'.scope? = c.scope?) : Local m c m c' :=
  ⟨Nat.le_refl _, fun _ _ _ => rfl, fun _ known => .inl (same ▸ known)⟩

/-- A scope that has been made for nobody. -/
theorem grow (m : Memory) (same : c'.scope? = c.scope?) : Local m c m.grow c' where
  grown := by rw [Memory.next_grow]; exact Nat.le_succ _
  others _ old _ := Memory.holders_grow old
  scope _ known := .inl (same ▸ known)

end Local

/-- A step in the memory mirrors a step of a connection that has its scope for itself. -/
structure Mirrors (m : Memory) (c : SharedConnection)
    (r : Memory × SharedConnection × Option Report) (b : BusyConnection × Option Report) :
    Prop where
  state : r.2.1.view r.1 = b.1
  report : r.2.2 = b.2
  tied : Tied r.1 r.2.1
  within : Local m c r.1 r.2.1

namespace Tied

variable {m : Memory} {c : SharedConnection}

/-- Nothing happens, neither in the memory nor to the connection that is seen. -/
theorem of_still {now : Nat} {x : ConnectionStep} (tied : Tied m c)
    (still : c.step m now x = (m, c, none))
    (seen : (c.view m).step now x = (c.view m, none)) :
    Mirrors m c (c.step m now x) ((c.view m).step now x) := by
  rw [still, seen]
  exact ⟨rfl, rfl, tied, .of_scope_eq m rfl⟩

/-- The connection is as before but for its units, whose guards are of the same scope. -/
theorem withUnits {m' : Memory} {units : List SharedUnit} (tied : Tied m c)
    (grown : m.next ≤ m'.next)
    (guards : ∀ u ∈ units, ∀ s, u.guard = some s → ∃ w, c.timing = .driver w s) :
    Tied m' { c with units } where
  made s known := Nat.lt_of_lt_of_le (tied.made s known) grown
  timing := tied.timing
  guards := guards

/-- The guard of the newest unit is dropped, which the driver's timer sees. -/
theorem drop {u : SharedUnit} {units : List SharedUnit} (tied : Tied m c)
    (newest : c.units = u :: units) :
    ({ c with units } : SharedConnection).view (u.drop m) =
        ⟨(c.view m).connection.releaseScope u.view.1, units.map SharedUnit.view⟩ ∧
      Tied (u.drop m) { c with units } ∧ Local m c (u.drop m) { c with units } := by
  have rest : ∀ v ∈ units, ∀ s, v.guard = some s → ∃ w, c.timing = .driver w s :=
    fun v member => tied.guards v (newest ▸ List.mem_cons_of_mem u member)
  have first := tied.guards u (newest ▸ List.mem_cons_self)
  obtain ⟨watch, guard, query⟩ := u
  cases guard with
  | none => exact ⟨rfl, tied.withUnits (Nat.le_refl _) rest, .of_scope_eq m rfl⟩
  | some s =>
    obtain ⟨w, timing⟩ := first s rfl
    have known := tied.timing w s timing
    have old := tied.made s known
    obtain ⟨t, timer, rfl⟩ := Option.map_eq_some_iff.1 known
    refine ⟨?_, tied.withUnits ?_ rest, ?_, ?_, fun _ => .inl⟩
    · simp [view, timer, SharedTimer.view, SharedUnit.drop, SharedUnit.view,
        TimedConnection.releaseScope, QueryTimer.leave, old]
    · simp [SharedUnit.drop]
    · simp [SharedUnit.drop]
    · intro s' _ other
      rw [known] at other
      exact Memory.holders_leave_of_ne fun same => other (congrArg some same)

/-- The driver's timer has changed, but neither its scope nor who holds it. -/
theorem withTimer {t t' : SharedTimer} (tied : Tied m c) (timer : c.timer = some t)
    (same : t'.scope = t.scope) : Tied m { c with timer := some t' } := by
  have still : ({ c with timer := some t' } : SharedConnection).scope? = c.scope? := by
    simp [scope?, timer, same]
  exact ⟨fun s known => tied.made s (still ▸ known), fun w s timed => still ▸ tied.timing w s timed,
    tied.guards⟩

/-- Nobody has entered a scope on a connection that is bare. -/
theorem guard_of_bare {u : SharedUnit} (tied : Tied m c) (bare : c.timing = .bare)
    (member : u ∈ c.units) : u.guard = none := by
  cases guard : u.guard with
  | none => rfl
  | some s =>
    obtain ⟨w, timing⟩ := tied.guards u member s guard
    rw [bare] at timing
    cases timing

theorem instrument_mirrors (tied : Tied m c) (now : Nat) (w : Monitor) :
    Mirrors m c (c.step m now (.instrument w)) ((c.view m).step now (.instrument w)) := by
  by_cases idle : (!w.isEnabled || c.timing.view.isTimed) = true
  · refine tied.of_still ?_ ?_
    · simp only [step, idle, if_true]
    · simp only [BusyConnection.step, TimedConnection.instrument, view, idle, if_true]
  · have bare : c.timing = .bare := by
      cases timing : c.timing with
      | bare => rfl
      | _ => simp [timing, SharedTiming.view, Timing.isTimed, Timing.monitor?] at idle
    have guards : ∀ {timing : SharedTiming}, ∀ u ∈ c.units, ∀ s, u.guard = some s →
        ∃ v, timing = .driver v s := fun u member s guard => by
      rw [tied.guard_of_bare bare member] at guard
      cases guard
    obtain ⟨hook, timer, timing, units⟩ := c
    cases hook with
    | true =>
      have made : step m ⟨true, timer, timing, units⟩ now (.instrument w) =
          (m.grow, ⟨true, some ⟨w, m.next, []⟩, .driver w m.next, units⟩, none) := by
        simp only [step, idle, if_true]
        rfl
      rw [made]
      refine ⟨?_, rfl, ⟨?_, ?_, guards⟩, ?_, fun s old _ => Memory.holders_grow old, ?_⟩
      · simp only [BusyConnection.step, TimedConnection.instrument, view, idle]
        simp [SharedTimer.view, QueryTimer.new, SharedTiming.view]
      · rintro s ⟨⟩
        simp
      · rintro v s ⟨⟩
        rfl
      · simp
      · rintro s ⟨⟩
        exact .inr (Nat.le_refl _)
    | false =>
      have made : step m ⟨false, timer, timing, units⟩ now (.instrument w) =
          (m.grow, ⟨false, timer, .units w, units⟩, none) := by
        simp only [step, idle]
        rfl
      rw [made]
      refine ⟨?_, rfl, ⟨?_, ?_, guards⟩, .grow m rfl⟩
      · simp only [BusyConnection.step, TimedConnection.instrument, view, idle]
        cases timer with
        | none => rfl
        | some t => simp [SharedTimer.view, SharedTiming.view, tied.made t.scope rfl]
      · intro s known
        have old := tied.made s known
        rw [Memory.next_grow]
        exact Nat.lt_succ_of_lt old
      · rintro v s ⟨⟩

theorem begin_mirrors (tied : Tied m c) (now : Nat) (query : Query) :
    Mirrors m c (c.step m now (.begin query)) ((c.view m).step now (.begin query)) := by
  have before {timing : SharedTiming} (same : c.timing = timing) {s : Nat} {u : SharedUnit}
      (member : u ∈ c.units) (guard : u.guard = some s) : ∃ w, timing = .driver w s :=
    same ▸ tied.guards u member s guard
  obtain ⟨hook, timer, timing, units⟩ := c
  -- A unit enters the scope of the connection's state, which is that of its timer.
  cases timing with
  | bare | units _ =>
    refine ⟨rfl, rfl, tied.withUnits (Nat.le_refl _) ?_, .of_scope_eq m rfl⟩
    intro u member s guard
    cases member with
    | head => cases guard
    | tail _ member => exact before rfl member guard
  | driver w s =>
    have known := tied.timing w s rfl
    have old := tied.made s known
    obtain ⟨t, rfl, rfl⟩ := Option.map_eq_some_iff.1 known
    refine ⟨?_, rfl, tied.withUnits ?_ ?_, ?_, ?_, fun _ => .inl⟩
    · simp [step, view, BusyConnection.step, TimedConnection.openUnit, SharedTimer.view,
        SharedTiming.view, SharedUnit.view, QueryTimer.enter, old]
    · simp [step]
    · intro u member s' guard
      cases member with
      | head =>
        cases guard
        exact ⟨w, rfl⟩
      | tail _ member => exact before rfl member guard
    · simp [step]
    · intro s' _ other
      rw [known] at other
      exact Memory.holders_enter_of_ne fun same => other (congrArg some same)

/-- A connection that knows no scope but its own does what one does that has its scope for
itself. -/
theorem mirrors (tied : Tied m c) (now : Nat) (x : ConnectionStep) :
    Mirrors m c (c.step m now x) ((c.view m).step now x) := by
  cases x with
  | instrument w => exact tied.instrument_mirrors now w
  | start text =>
    cases timer : c.timer with
    | none =>
      refine tied.of_still ?_ ?_
      · simp only [step, timer]
      · simp [BusyConnection.step, TimedConnection.startStatement, view, timer]
    | some t =>
      simp only [step, BusyConnection.step, view, TimedConnection.startStatement, timer]
      exact ⟨rfl, rfl, tied.withTimer timer rfl, .of_scope_eq m (by simp [scope?, timer])⟩
  | finish text error =>
    cases timer : c.timer with
    | none =>
      refine tied.of_still ?_ ?_
      · simp only [step, timer]
      · simp [BusyConnection.step, TimedConnection.finishStatement, view, timer]
    | some t =>
      -- A finish changes only what is under way.
      have kept : ((t.view m).finish now text error).1 =
          { t.view m with pending := ((t.view m).finish now text error).1.pending } := by
        have monitor := QueryTimer.monitor_finish (t.view m) now text error
        have holders := QueryTimer.holders_finish (t.view m) now text error
        revert monitor holders
        rcases (t.view m).finish now text error with ⟨⟨w, n, pending⟩, report⟩
        rintro rfl rfl
        rfl
      simp only [step, BusyConnection.step, view, TimedConnection.finishStatement, timer]
      refine ⟨?_, rfl, tied.withTimer timer rfl, .of_scope_eq m (by simp [scope?, timer])⟩
      simp only [Option.map_some]
      rw [kept]
      rfl
  | begin query => exact tied.begin_mirrors now query
  | conclude outcome =>
    cases newest : c.units with
    | nil =>
      refine tied.of_still ?_ ?_
      · simp only [step, newest]
      · simp [BusyConnection.step, view, newest]
    | cons u units =>
      obtain ⟨state, tied, within⟩ := tied.drop newest
      simp only [step, BusyConnection.step, view, newest]
      exact ⟨state, rfl, tied, within⟩
  | abandon =>
    cases newest : c.units with
    | nil =>
      refine tied.of_still ?_ ?_
      · simp only [step, newest]
      · simp [BusyConnection.step, view, newest]
    | cons u units =>
      obtain ⟨state, tied, within⟩ := tied.drop newest
      simp only [step, BusyConnection.step, view, newest]
      exact ⟨state, rfl, tied, within⟩
  | rewrap =>
    cases newest : c.units with
    | nil =>
      simp only [step, BusyConnection.step, view, newest]
      refine ⟨rfl, rfl, ⟨tied.made, ?_, ?_⟩, .of_scope_eq m rfl⟩
      · rintro v s ⟨⟩
      · rintro u ⟨⟩
    | cons u units =>
      refine tied.of_still ?_ ?_
      · simp only [step, newest]
      · simp [BusyConnection.step, view, newest]

end Tied

end SharedConnection

end SchemaPool
