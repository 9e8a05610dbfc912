import SchemaPool.Proofs.Timing.Sharing

/-! # Connections do not disturb each other

Any number of connections work at the same time.  They may stand under the same monitor or under
different ones, their reports go to the same reporters, and their scopes lie in one memory.  Still
no two of them ever know the same scope (`Fleet.Apart`), because a scope is made anew for every
connection that is put under a monitor, and so each of them goes its own way (`Fleet.Apart.run`).

What one connection reports is therefore what it reports when only its own moments take place
(`Fleet.caused_alone`).  Scripts on several stand-ins are a special case, in which whole steps
take turns (`Ensemble.reports_run`). -/

namespace SchemaPool

/-! ## Interleavings -/

/-- A moment of one of several connections. -/
structure FleetStep where
  connection : Nat
  moment : Moment
deriving DecidableEq, Repr

namespace FleetStep

/-- The moments of one connection among those of all. -/
def momentsOf (i : Nat) (steps : List FleetStep) : List Moment :=
  (steps.filter (·.connection == i)).map (·.moment)

theorem momentsOf_cons (i : Nat) (x : FleetStep) (steps : List FleetStep) :
    momentsOf i (x :: steps) =
      if x.connection = i then x.moment :: momentsOf i steps else momentsOf i steps := by
  by_cases own : x.connection = i <;> simp [momentsOf, own]

theorem momentsOf_turn (i j : Nat) (ms : List Moment) :
    momentsOf j (ms.map (⟨i, ·⟩)) = if i = j then ms else [] := by
  by_cases own : i = j <;> simp [momentsOf, List.filter_map, Function.comp_def, own]

/-- Leaving out moments of other connections changes nothing about those of this one. -/
theorem momentsOf_filter {i : Nat} {keeps : FleetStep → Bool}
    (own : ∀ x, x.connection = i → keeps x = true) (steps : List FleetStep) :
    momentsOf i (steps.filter keeps) = momentsOf i steps := by
  rw [momentsOf, momentsOf, List.filter_filter]
  congr 1
  refine List.filter_congr fun x _ => ?_
  by_cases here : x.connection = i <;> simp [here, own x]

end FleetStep

/-- A labelled unit begins or ends on the connection. -/
def ConnectionStep.isUnit : ConnectionStep → Bool
  | begin _ => true
  | conclude _ => true
  | abandon => true
  | _ => false

/-- Connections that work at the same time. -/
structure Fleet where
  memory : Memory
  connections : List SharedConnection
  -- With the connection that caused the report.
  reports : List (Nat × Report)
deriving DecidableEq, Repr

namespace Fleet

/-- New connections, whose drivers take a timer or do not. -/
def ofHooks (hooks : List Bool) : Fleet := ⟨.empty, hooks.map .new, []⟩

def step (f : Fleet) (x : FleetStep) : Fleet :=
  match f.connections[x.connection]? with
  | none => f
  | some c =>
    let (memory, c, report) := c.step f.memory x.moment.now x.moment.step
    ⟨memory, f.connections.set x.connection c, f.reports ++ report.toList.map (x.connection, ·)⟩

def run (f : Fleet) (steps : List FleetStep) : Fleet := steps.foldl step f

def view? (f : Fleet) (i : Nat) : Option BusyConnection := f.connections[i]?.map (·.view f.memory)

/-- What has been reported of one connection. -/
def caused (f : Fleet) (i : Nat) : List Report := (f.reports.filter (·.1 == i)).map Prod.snd

theorem run_cons (f : Fleet) (x : FleetStep) (steps : List FleetStep) :
    f.run (x :: steps) = (f.step x).run steps := rfl

theorem run_append (f : Fleet) (first second : List FleetStep) :
    f.run (first ++ second) = (f.run first).run second := List.foldl_append

theorem view?_eq_none_iff {f : Fleet} {i : Nat} : f.view? i = none ↔ f.connections.length ≤ i := by
  rw [view?, Option.map_eq_none_iff, List.getElem?_eq_none_iff]

theorem length_step (f : Fleet) (x : FleetStep) :
    (f.step x).connections.length = f.connections.length := by
  rw [step]
  split
  · rfl
  · exact List.length_set

theorem length_run (f : Fleet) (steps : List FleetStep) :
    (f.run steps).connections.length = f.connections.length := by
  induction steps generalizing f with
  | nil => rfl
  | cons x steps ih => rw [run_cons, ih, length_step]

/-! ## Scopes are kept apart -/

/-- Every connection knows its own scope only. -/
structure Apart (f : Fleet) : Prop where
  tied (i : Nat) (c : SharedConnection) : f.connections[i]? = some c → c.Tied f.memory
  separate (i j : Nat) (c d : SharedConnection) : i ≠ j → f.connections[i]? = some c →
    f.connections[j]? = some d → ∀ s, c.scope? = some s → d.scope? ≠ some s

theorem apart_ofHooks (hooks : List Bool) : (ofHooks hooks).Apart := by
  have new (i : Nat) (c : SharedConnection) (here : (ofHooks hooks).connections[i]? = some c) :
      ∃ hook, c = .new hook := by
    rw [ofHooks, List.getElem?_map] at here
    obtain ⟨hook, -, rfl⟩ := Option.map_eq_some_iff.1 here
    exact ⟨hook, rfl⟩
  constructor
  · intro i c here
    obtain ⟨hook, rfl⟩ := new i c here
    exact ⟨nofun, nofun, nofun⟩
  · intro i j c d _ here _
    obtain ⟨hook, rfl⟩ := new i c here
    nofun

end Fleet

namespace SharedConnection.Local

variable {m m' : Memory} {c c' d : SharedConnection}

/-- A step on one connection is not seen on another that knows another scope. -/
theorem view_eq (within : Local m c m' c') (tied : Tied m d)
    (separate : ∀ s, c.scope? = some s → d.scope? ≠ some s) : d.view m' = d.view m := by
  cases timer : d.timer with
  | none => simp [view, timer]
  | some t =>
    have known : d.scope? = some t.scope := by simp [scope?, timer]
    have same := within.others t.scope (tied.made _ known) fun mine => separate _ mine known
    simp [view, timer, SharedTimer.view, same]

theorem tied (within : Local m c m' c') (tied : Tied m d) : Tied m' d :=
  ⟨fun s known => Nat.lt_of_lt_of_le (tied.made s known) within.grown, tied.timing, tied.guards⟩

/-- The two connections still know different scopes: one made just now is known to no other. -/
theorem separate (within : Local m c m' c') (tied : Tied m d)
    (separate : ∀ s, c.scope? = some s → d.scope? ≠ some s) :
    ∀ s, c'.scope? = some s → d.scope? ≠ some s := by
  intro s mine known
  cases within.scope s mine with
  | inl before => exact separate s before known
  | inr fresh => exact absurd (tied.made s known) (Nat.not_lt_of_le fresh)

end SharedConnection.Local

namespace Fleet

variable {f : Fleet} {x : FleetStep}

theorem step_of_some {c : SharedConnection} (here : f.connections[x.connection]? = some c) :
    f.step x =
      let r := c.step f.memory x.moment.now x.moment.step
      ⟨r.1, f.connections.set x.connection r.2.1,
        f.reports ++ r.2.2.toList.map (x.connection, ·)⟩ := by
  rw [step, here]

/-- The connections after a step: one of them is new, and the others are those of before. -/
theorem connections_set {cs : List SharedConnection} {i j : Nat} {c' d : SharedConnection}
    (there : (cs.set i c')[j]? = some d) : i = j ∧ d = c' ∨ i ≠ j ∧ cs[j]? = some d := by
  by_cases own : i = j
  · subst own
    have inside : i < cs.length := by
      have bound := (List.getElem?_eq_some_iff.1 there).1
      rwa [List.length_set] at bound
    rw [List.getElem?_set_self inside] at there
    exact .inl ⟨rfl, (Option.some.inj there).symm⟩
  · rw [List.getElem?_set_ne own] at there
    exact .inr ⟨own, there⟩

theorem Apart.step (apart : f.Apart) (x : FleetStep) : (f.step x).Apart := by
  cases here : f.connections[x.connection]? with
  | none => rwa [Fleet.step, here]
  | some c =>
    have mirrors := (apart.tied _ c here).mirrors x.moment.now x.moment.step
    have other {j : Nat} {d : SharedConnection} (differs : x.connection ≠ j)
        (there : f.connections[j]? = some d) := apart.separate _ _ _ _ differs here there
    rw [step_of_some here]
    refine ⟨fun j d there => ?_, fun j k d e differs there yonder => ?_⟩
    · obtain ⟨-, rfl⟩ | ⟨-, there⟩ := connections_set there
      · exact mirrors.tied
      · exact mirrors.within.tied (apart.tied j d there)
    · obtain ⟨rfl, rfl⟩ | ⟨own, there⟩ := connections_set there
      · obtain ⟨rfl, -⟩ | ⟨own, yonder⟩ := connections_set yonder
        · exact absurd rfl differs
        · exact mirrors.within.separate (apart.tied k e yonder) (other own yonder)
      · obtain ⟨rfl, rfl⟩ | ⟨-, yonder⟩ := connections_set yonder
        · intro s mine known
          exact mirrors.within.separate (apart.tied j d there) (other own there) s known mine
        · exact apart.separate j k d e differs there yonder

theorem Apart.reports_step {b : BusyConnection} (apart : f.Apart)
    (seen : f.view? x.connection = some b) :
    (f.step x).reports = f.reports ++
      (b.step x.moment.now x.moment.step).2.toList.map (x.connection, ·) := by
  obtain ⟨c, here, rfl⟩ := Option.map_eq_some_iff.1 seen
  have mirrors := (apart.tied _ c here).mirrors x.moment.now x.moment.step
  rw [step_of_some here, ← mirrors.report]

/-- What is seen of a connection after a step, and what has been reported of it: the step is its
own, or it makes no difference. -/
theorem Apart.seen_step {i : Nat} {b : BusyConnection} (apart : f.Apart) (seen : f.view? i = some b)
    (x : FleetStep) :
    (f.step x).view? i =
        some (if x.connection = i then (b.step x.moment.now x.moment.step).1 else b) ∧
      (f.step x).caused i = f.caused i ++
        if x.connection = i then (b.step x.moment.now x.moment.step).2.toList else [] := by
  obtain ⟨d, there, rfl⟩ := Option.map_eq_some_iff.1 seen
  cases here : f.connections[x.connection]? with
  | none =>
    have differs : x.connection ≠ i := by
      rintro rfl
      rw [there] at here
      cases here
    rw [Fleet.step, here, if_neg differs, if_neg differs, List.append_nil]
    exact ⟨seen, rfl⟩
  | some c =>
    have mirrors := (apart.tied _ c here).mirrors x.moment.now x.moment.step
    rw [step_of_some here]
    by_cases own : x.connection = i
    · subst own
      obtain rfl : c = d := Option.some.inj (here.symm.trans there)
      have inside := (List.getElem?_eq_some_iff.1 here).1
      rw [if_pos rfl, if_pos rfl, caused, ← step_of_some here, apart.reports_step seen]
      refine ⟨?_, ?_⟩
      · rw [step_of_some here, ← mirrors.state, view?, List.getElem?_set_self inside]
        rfl
      · simp [caused, List.filter_map, Function.comp_def]
    · rw [if_neg own, if_neg own]
      refine ⟨?_, ?_⟩
      · rw [view?, List.getElem?_set_ne own, there, Option.map_some,
          mirrors.within.view_eq (apart.tied i d there) (apart.separate _ _ _ _ own here there)]
      · simp [caused, List.filter_map, Function.comp_def, own]

/-- Every connection goes its own way, whatever happens to the others in between. -/
theorem Apart.seen_run {i : Nat} {b : BusyConnection} (apart : f.Apart) (seen : f.view? i = some b)
    (steps : List FleetStep) :
    (f.run steps).view? i = some (b.run (FleetStep.momentsOf i steps)).1 ∧
      (f.run steps).caused i = f.caused i ++ (b.run (FleetStep.momentsOf i steps)).2 := by
  induction steps generalizing f b with
  | nil => exact ⟨seen, (List.append_nil _).symm⟩
  | cons x steps ih =>
    obtain ⟨next, caused⟩ := apart.seen_step seen x
    obtain ⟨last, rest⟩ := ih (apart.step x) next
    rw [run_cons, last, rest, caused, FleetStep.momentsOf_cons]
    by_cases own : x.connection = i
    · rw [if_pos own, if_pos own, if_pos own, BusyConnection.run_cons, List.append_assoc]
      exact ⟨rfl, rfl⟩
    · rw [if_neg own, if_neg own, if_neg own, List.append_nil]
      exact ⟨rfl, rfl⟩

/-- A connection that takes some steps without a break reports what comes of them. -/
theorem Apart.reports_turn {i : Nat} {b : BusyConnection} (apart : f.Apart)
    (seen : f.view? i = some b) (ms : List Moment) :
    (f.run (ms.map (⟨i, ·⟩))).reports = f.reports ++ (b.run ms).2.map (i, ·) := by
  induction ms generalizing f b with
  | nil => exact (List.append_nil _).symm
  | cons m ms ih =>
    obtain ⟨next, -⟩ := apart.seen_step seen ⟨i, m⟩
    rw [if_pos rfl] at next
    rw [List.map_cons, run_cons, ih (apart.step ⟨i, m⟩) next, apart.reports_step seen,
      BusyConnection.run_cons, List.map_append, List.append_assoc]

theorem Apart.run (apart : f.Apart) (steps : List FleetStep) : (f.run steps).Apart := by
  induction steps generalizing f with
  | nil => exact apart
  | cons x steps ih => exact ih (apart.step x)

theorem view?_ofHooks (hooks : List Bool) (i : Fin hooks.length) :
    (ofHooks hooks).view? i = some (.new hooks[i]) := by
  simp [view?, ofHooks, SharedConnection.view, SharedConnection.new, SharedTiming.view,
    BusyConnection.new, TimedConnection.new]

/-- Who is reported of has taken a step. -/
theorem connection_of_mem_reports {steps : List FleetStep} {r : Nat × Report}
    (member : r ∈ (f.run steps).reports) :
    r ∈ f.reports ∨ ∃ x ∈ steps, x.connection = r.1 := by
  induction steps generalizing f with
  | nil => exact .inl member
  | cons x steps ih =>
    cases ih (f := f.step x) member with
    | inr later =>
      obtain ⟨y, among, same⟩ := later
      exact .inr ⟨y, List.mem_cons_of_mem x among, same⟩
    | inl before =>
      cases here : f.connections[x.connection]? with
      | none =>
        rw [step, here] at before
        exact .inl before
      | some c =>
        rw [step_of_some here] at before
        cases List.mem_append.1 before with
        | inl before => exact .inl before
        | inr new =>
          obtain ⟨_, -, rfl⟩ := List.mem_map.1 new
          exact .inr ⟨x, List.mem_cons_self, rfl⟩

/-- When only one connection takes steps, all that is reported is reported of it. -/
theorem reports_alone (hooks : List Bool) (i : Nat) (steps : List FleetStep) :
    ((ofHooks hooks).run (steps.filter (·.connection == i))).reports.map Prod.snd =
      ((ofHooks hooks).run (steps.filter (·.connection == i))).caused i := by
  have all : ∀ r ∈ ((ofHooks hooks).run (steps.filter (·.connection == i))).reports,
      (r.1 == i) = true := by
    intro r member
    obtain none | ⟨x, among, same⟩ := connection_of_mem_reports member
    · cases none
    · rw [← same]
      exact (List.mem_filter.1 among).2
  rw [caused, List.filter_eq_self.2 all]

/-- Nothing happens to connections that there are not. -/
theorem run_absent {i : Nat} (absent : f.view? i = none) (ms : List Moment) :
    f.run (ms.map (⟨i, ·⟩)) = f := by
  have none : f.connections[i]? = none := Option.map_eq_none_iff.1 absent
  induction ms with
  | nil => rfl
  | cons m ms ih => rw [List.map_cons, run_cons, step, none, ih]

/-- Connections that work at the same time, in whatever order and at whatever times their moments
come: what is reported of one of them, and how it stands in the end, is what comes of its own
moments alone.  It makes no difference either whether units are under way on other connections. -/
theorem caused_alone (hooks : List Bool) (steps : List FleetStep) (i : Fin hooks.length) :
    let whole := (ofHooks hooks).run steps
    let alone := (ofHooks hooks).run (steps.filter (·.connection == i.val))
    let unitless := (ofHooks hooks).run
      (steps.filter fun x => x.connection == i.val || !x.moment.step.isUnit)
    let own := (BusyConnection.new hooks[i]).run (FleetStep.momentsOf i steps)
    whole.caused i = alone.reports.map Prod.snd ∧ whole.caused i = own.2 ∧
      whole.view? i = alone.view? i ∧ whole.view? i = some own.1 ∧
      whole.caused i = unitless.caused i := by
  have begun := (apart_ofHooks hooks).seen_run (view?_ofHooks hooks i)
  have same {keeps : FleetStep → Bool} (kept : ∀ x, x.connection = i.val → keeps x = true) :=
    FleetStep.momentsOf_filter kept steps
  intro whole alone unitless own
  obtain ⟨view, caused⟩ := begun steps
  obtain ⟨viewAlone, causedAlone⟩ := begun (steps.filter (·.connection == i.val))
  obtain ⟨-, causedUnitless⟩ :=
    begun (steps.filter fun x => x.connection == i.val || !x.moment.step.isUnit)
  rw [same fun x own => by simp [own]] at viewAlone causedAlone causedUnitless
  refine ⟨?_, caused, view.trans viewAlone.symm, view, caused.trans causedUnitless.symm⟩
  rw [reports_alone, causedAlone]
  exact caused

end Fleet

/-! ## Stand-ins that take turns -/

namespace Ensemble

def ofHooks (setup : SessionSetup) (hooks : List Bool) : Ensemble :=
  ⟨setup, hooks.map .new, .start⟩

def run (e : Ensemble) : List (Nat × StandInStep) → Ensemble
  | [] => e
  | (i, x) :: script => (e.step i x).1.run script

/-- The moments of a script, in their order. -/
def moments (e : Ensemble) : List (Nat × StandInStep) → List FleetStep
  | [] => []
  | (i, x) :: script =>
    (x.moments e.setup e.timeline.now).map (⟨i, ·⟩) ++ (e.step i x).1.moments script

end Ensemble

/-- The connections are those of the stand-ins, between two steps. -/
structure Fleet.Stands (f : Fleet) (e : Ensemble) : Prop where
  apart : f.Apart
  view (i : Nat) : f.view? i = e.standIns[i]?.map fun s => ⟨s.connection, []⟩
  reports : f.reports.map Prod.snd = e.timeline.reports

namespace Fleet.Stands

variable {f : Fleet} {e : Ensemble}

theorem step (stands : f.Stands e) (i : Nat) (x : StandInStep) :
    (f.run ((x.moments e.setup e.timeline.now).map (⟨i, ·⟩))).Stands (e.step i x).1 := by
  have apart := stands.apart.run ((x.moments e.setup e.timeline.now).map (⟨i, ·⟩))
  cases here : e.standIns[i]? with
  | none =>
    have absent : f.view? i = none := by rw [stands.view, here, Option.map_none]
    rw [run_absent absent, Ensemble.step, here]
    exact stands
  | some s =>
    have seen : f.view? i = some ⟨s.connection, []⟩ := by rw [stands.view, here, Option.map_some]
    have leads := Solo.step_moments ⟨e.setup, s, e.timeline⟩ x
    have inside := (List.getElem?_eq_some_iff.1 here).1
    rw [Ensemble.step, here]
    refine ⟨apart, fun j => ?_, ?_⟩
    · cases there : e.standIns[j]? with
      | none =>
        have absent : f.view? j = none := by rw [stands.view, there, Option.map_none]
        rw [view?_eq_none_iff, ← length_run f, ← view?_eq_none_iff] at absent
        have outside : e.standIns.length ≤ j := List.getElem?_eq_none_iff.1 there
        rw [absent, List.getElem?_eq_none (by rwa [List.length_set]), Option.map_none]
      | some s' =>
        have other : f.view? j = some ⟨s'.connection, []⟩ := by
          rw [stands.view, there, Option.map_some]
        rw [(stands.apart.seen_run other _).1, FleetStep.momentsOf_turn]
        by_cases own : i = j
        · subst own
          obtain rfl : s = s' := Option.some.inj (here.symm.trans there)
          rw [if_pos rfl, List.getElem?_set_self inside, leads.state]
          rfl
        · rw [if_neg own, List.getElem?_set_ne own, there]
          rfl
    · rw [stands.apart.reports_turn seen, List.map_append, List.map_map, stands.reports,
        leads.reports]
      simp [Function.comp_def]

/-- A script on several stand-ins is one of the interleavings of their moments. -/
theorem run (stands : f.Stands e) (script : List (Nat × StandInStep)) :
    (f.run (e.moments script)).Stands (e.run script) := by
  induction script generalizing f e with
  | nil => exact stands
  | cons turn script ih =>
    obtain ⟨i, x⟩ := turn
    rw [Ensemble.moments, run_append]
    exact ih (stands.step i x)

end Fleet.Stands

theorem Fleet.stands_ofHooks (setup : SessionSetup) (hooks : List Bool) :
    (ofHooks hooks).Stands (.ofHooks setup hooks) := by
  refine ⟨apart_ofHooks hooks, fun i => ?_, rfl⟩
  simp only [view?, ofHooks, Ensemble.ofHooks, List.getElem?_map, Option.map_map]
  rfl

/-- What is reported in a script on several new stand-ins is what is reported of new connections
whose moments come in the order of the script. -/
theorem Ensemble.reports_run (setup : SessionSetup) (hooks : List Bool)
    (script : List (Nat × StandInStep)) :
    ((ofHooks setup hooks).run script).timeline.reports =
      ((Fleet.ofHooks hooks).run ((ofHooks setup hooks).moments script)).reports.map Prod.snd :=
  ((Fleet.stands_ofHooks setup hooks).run script).reports.symm

end SchemaPool
