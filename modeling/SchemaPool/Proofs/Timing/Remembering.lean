import Mathlib.Data.List.DropRight
import Mathlib.Data.List.InsertIdx
import Mathlib.Data.List.Nodup
import SchemaPool.Proofs.Timing.Matching

/-! # Which starts a timer remembers

A run may start more statements than a timer has room for, finish statements that were
never started, and never finish others.  The statements under way are then no longer the
starts without their finishes.  What holds of every run is that they are some of its starts,
and which ones can be told from the texts of the steps alone (`TimerTrace.remembered`): those
that no finish has answered and no later start has dropped (`TimerTrace.mem_remembered_iff`).  A
start drops another only if it finds the room used up, and then the oldest of those remembered;
room that is free again later does not bring back what has been dropped.

A finish answers the oldest remembered start of its text, or the oldest of all when no text
agrees.  So the report of a finish is always the verdict on the time since one start of the
run, and nothing is reported otherwise (`TimerTrace.ends_of_finish`). -/

namespace SchemaPool

open SchemaPool.Sql (Query)

/-- A start of a run: its position and the text of its statement. -/
structure StartAt where
  position : Nat
  text : String
deriving DecidableEq, Repr

namespace TimerTrace

open TimerStep (between)

/-- The start that a finish answers: the oldest of its text, or the oldest of all. -/
def answered? (text : String) (kept : List StartAt) : Option StartAt :=
  (kept.find? (·.text == text)).or kept.head?

/-- The starts that the timer remembers after the first steps of a run, oldest first. -/
def remembered (steps : List TimerStep) : Nat → List StartAt
  | 0 => []
  | n + 1 =>
    match steps[n]? with
    | some (.start text) =>
      (remembered steps n ++ [StartAt.mk n (stripBinds text)]).rtake QueryTimer.capacity
    | some (.finish text _) =>
      (remembered steps n).filter (some · ≠ answered? (stripBinds text) (remembered steps n))
    | _ => remembered steps n

/-! ## The oldest start of a text -/

theorem answered?_of_mem {text : String} {kept : List StartAt} {b : StartAt} (member : b ∈ kept)
    (same : b.text = text) :
    ∃ first, answered? text kept = some first ∧ kept.find? (·.text == text) = some first ∧
      first ∈ kept ∧ first.text = text := by
  have found : (kept.find? (·.text == text)).isSome := by
    rw [List.find?_isSome]
    exact ⟨b, member, by simpa using same⟩
  obtain ⟨first, first_eq⟩ := Option.isSome_iff_exists.1 found
  refine ⟨first, by rw [answered?, first_eq, Option.some_or], first_eq,
    List.mem_of_find?_eq_some first_eq, ?_⟩
  simpa using List.find?_some first_eq

theorem answered?_mem {text : String} {kept : List StartAt} {b : StartAt}
    (answer : answered? text kept = some b) : b ∈ kept := by
  rw [answered?, Option.or_eq_some_iff] at answer
  cases answer with
  | inl found => exact List.mem_of_find?_eq_some found
  | inr oldest => exact List.mem_of_head? oldest.2

theorem answered?_of_unmatched {text : String} {kept : List StartAt}
    (unmatched : ∀ b ∈ kept, b.text ≠ text) : answered? text kept = kept.head? := by
  have absent : kept.find? (·.text == text) = none := by
    rw [List.find?_eq_none]
    intro b member
    simpa using unmatched b member
  rw [answered?, absent, Option.none_or]

/-- In a list without repetitions the place of an answered start is where it is taken out. -/
theorem take?_map (text : String) {kept : List StartAt} (distinct : kept.Nodup)
    (e : StartAt → PendingStatement) (text_eq : ∀ b, (e b).text = b.text) :
    QueryTimer.take? text (kept.map e) =
      (answered? text kept).map fun b => (e b, (kept.filter (some · ≠ some b)).map e) := by
  have same : ((kept.map e).findIdx? (·.text == text)) = kept.findIdx? (·.text == text) := by
    rw [List.findIdx?_map]
    congr 1
    funext b
    exact congrArg (· == text) (text_eq b)
  have place : kept[(kept.findIdx? (·.text == text)).getD 0]? = answered? text kept := by
    rw [answered?]
    cases found : kept.findIdx? (·.text == text) with
    | none =>
      have absent : kept.find? (·.text == text) = none :=
        List.find?_eq_none.2 fun b member => by
          simpa using List.findIdx?_eq_none_iff.1 found b member
      rw [absent, Option.none_or, Option.getD_none, List.head?_eq_getElem?]
    | some i =>
      obtain ⟨inside, here, before⟩ := List.findIdx?_eq_some_iff_getElem.1 found
      have first : kept.find? (·.text == text) = some kept[i] :=
        List.find?_eq_some_iff_getElem.2
          ⟨here, i, inside, rfl, fun j earlier => by simpa using before j earlier⟩
      rw [first, Option.some_or, Option.getD_some, List.getElem?_eq_getElem inside]
  simp only [QueryTimer.take?, same, List.getElem?_map, place]
  cases answer : answered? text kept with
  | none => rfl
  | some b =>
    rw [answer] at place
    obtain ⟨inside, here⟩ := List.getElem?_eq_some_iff.1 place
    have removed : kept.eraseIdx ((kept.findIdx? (·.text == text)).getD 0) =
        kept.filter (some · ≠ some b) := by
      rw [← List.Nodup.erase_getElem distinct _ inside, here, List.Nodup.erase_eq_filter distinct]
      exact List.filter_congr fun c _ => by by_cases equal : c = b <;> simp [equal]
    simp only [Option.map_some, List.eraseIdx_map, removed]

/-! ## What is remembered -/

section Remembered

variable {steps : List TimerStep} {n : Nat}

theorem remembered_start {text : String} (here : steps[n]? = some (.start text)) :
    remembered steps (n + 1) =
      (remembered steps n ++ [StartAt.mk n (stripBinds text)]).rtake QueryTimer.capacity := by
  rw [remembered, here]

theorem remembered_finish {text : String} {error : Option String}
    (here : steps[n]? = some (.finish text error)) :
    remembered steps (n + 1) =
      (remembered steps n).filter
        (some · ≠ answered? (stripBinds text) (remembered steps n)) := by
  rw [remembered, here]

theorem remembered_aside {x : TimerStep} (here : steps[n]? = some x) (started : x.started? = none)
    (finished : x.finished? = none) : remembered steps (n + 1) = remembered steps n := by
  rw [remembered, here]
  cases x with
  | start _ => simp [TimerStep.started?] at started
  | finish _ _ => simp [TimerStep.finished?] at finished
  | pass _ | enter | leaveLast | leaveFirst | leaveAt _ => rfl

/-- What is remembered after one more step has been remembered before or is started by it. -/
theorem mem_remembered_succ {b : StartAt} (member : b ∈ remembered steps (n + 1)) :
    b ∈ remembered steps n ∨
      ∃ text, steps[n]? = some (.start text) ∧ b = ⟨n, stripBinds text⟩ := by
  cases here : steps[n]? with
  | none => exact .inl (by simpa [remembered, here] using member)
  | some x =>
    cases x with
    | start text =>
      rw [remembered_start here] at member
      rcases List.mem_append.1 ((List.drop_suffix _ _).mem member) with old | new
      · exact .inl old
      · exact .inr ⟨text, rfl, List.mem_singleton.1 new⟩
    | finish text error =>
      rw [remembered_finish here] at member
      exact .inl (List.mem_of_mem_filter member)
    | pass _ | enter | leaveLast | leaveFirst | leaveAt _ =>
      exact .inl (by rwa [remembered_aside here rfl rfl] at member)

theorem start_of_remembered {b : StartAt} (member : b ∈ remembered steps n) :
    b.position < n ∧
      ∃ text, steps[b.position]? = some (.start text) ∧ b.text = stripBinds text := by
  induction n with
  | zero => cases member
  | succ n ih =>
    rcases mem_remembered_succ member with old | ⟨text, here, rfl⟩
    · exact ⟨Nat.lt_succ_of_lt (ih old).1, (ih old).2⟩
    · exact ⟨Nat.lt_succ_self n, text, here, rfl⟩

/-- Older starts come first. -/
theorem remembered_ordered (steps : List TimerStep) (n : Nat) :
    (remembered steps n).Pairwise (·.position < ·.position) := by
  induction n with
  | zero => exact .nil
  | succ n ih =>
    cases here : steps[n]? with
    | none => simpa [remembered, here] using ih
    | some x =>
      cases x with
      | start text =>
        rw [remembered_start here]
        refine List.Pairwise.sublist (List.drop_sublist _ _)
          (List.pairwise_append.2 ⟨ih, List.pairwise_singleton _ _, ?_⟩)
        intro b member c new
        rw [List.mem_singleton.1 new]
        exact (start_of_remembered member).1
      | finish text error =>
        rw [remembered_finish here]
        exact ih.sublist List.filter_sublist
      | pass _ | enter | leaveLast | leaveFirst | leaveAt _ =>
        rwa [remembered_aside here rfl rfl]

theorem remembered_distinct (steps : List TimerStep) (n : Nat) : (remembered steps n).Nodup :=
  (remembered_ordered steps n).imp fun earlier same => by simp [same] at earlier

theorem length_remembered_le (steps : List TimerStep) (n : Nat) :
    (remembered steps n).length ≤ QueryTimer.capacity := by
  induction n with
  | zero => exact Nat.zero_le _
  | succ n ih =>
    cases here : steps[n]? with
    | none => simpa [remembered, here] using ih
    | some x =>
      cases x with
      | start text =>
        rw [remembered_start here, List.rtake, List.length_drop]
        omega
      | finish text error =>
        rw [remembered_finish here]
        exact Nat.le_trans (List.length_filter_le _ _) ih
      | pass _ | enter | leaveLast | leaveFirst | leaveAt _ =>
        rwa [remembered_aside here rfl rfl]

/-- There is room for what is started once the oldest start has gone, if it must. -/
theorem remembered_start_eq {text : String} (here : steps[n]? = some (.start text)) :
    remembered steps (n + 1) =
      (if QueryTimer.capacity ≤ (remembered steps n).length then (remembered steps n).tail
        else remembered steps n) ++ [StartAt.mk n (stripBinds text)] := by
  have bound := length_remembered_le steps n
  rw [remembered_start here, List.rtake, List.length_append, List.length_singleton]
  split
  · next full =>
    have one : (remembered steps n).length + 1 - QueryTimer.capacity = 1 := by omega
    rw [one, List.drop_append_of_le_length (Nat.le_trans (by decide) full), List.drop_one]
  · next room =>
    have zero : (remembered steps n).length + 1 - QueryTimer.capacity = 0 := by omega
    rw [zero, List.drop_zero]

/-! ## Starts that are remembered no longer -/

/-- The step at the position is a finish that answers `b`. -/
def AnsweredAt (steps : List TimerStep) (position : Nat) (b : StartAt) : Prop :=
  ∃ text error, steps[position]? = some (.finish text error) ∧
    answered? (stripBinds text) (remembered steps position) = some b

/-- The step at the position is a start that finds the room used up, and `b` is the oldest of
what is remembered then. -/
def DroppedAt (steps : List TimerStep) (position : Nat) (b : StartAt) : Prop :=
  (∃ text, steps[position]? = some (.start text)) ∧
    QueryTimer.capacity ≤ (remembered steps position).length ∧
    (remembered steps position).head? = some b

variable {b : StartAt}

theorem AnsweredAt.remembered (answered : AnsweredAt steps n b) : b ∈ remembered steps n := by
  obtain ⟨text, error, -, answer⟩ := answered
  exact answered?_mem answer

theorem AnsweredAt.not_remembered (answered : AnsweredAt steps n b) :
    b ∉ TimerTrace.remembered steps (n + 1) := by
  obtain ⟨text, error, here, answer⟩ := answered
  rw [remembered_finish here, List.mem_filter, answer]
  simp

theorem DroppedAt.remembered (dropped : DroppedAt steps n b) : b ∈ remembered steps n :=
  List.mem_of_head? dropped.2.2

theorem DroppedAt.not_remembered (dropped : DroppedAt steps n b) :
    b ∉ TimerTrace.remembered steps (n + 1) := by
  have earlier := (start_of_remembered dropped.remembered).1
  obtain ⟨⟨text, here⟩, full, head⟩ := dropped
  obtain ⟨younger, known⟩ := List.head?_eq_some_iff.1 head
  have distinct := remembered_distinct steps n
  rw [remembered_start_eq here, if_pos full, known, List.tail_cons, List.mem_append,
    List.mem_singleton]
  rw [known, List.nodup_cons] at distinct
  rintro (old | rfl)
  · exact distinct.1 old
  · exact Nat.lt_irrefl _ earlier

/-- Nothing is answered or dropped before it has been started. -/
theorem kept_until_started {m : Nat} (early : m ≤ b.position) :
    ¬AnsweredAt steps m b ∧ ¬DroppedAt steps m b :=
  ⟨fun answered => Nat.not_lt.2 early (start_of_remembered answered.remembered).1,
    fun dropped => Nat.not_lt.2 early (start_of_remembered dropped.remembered).1⟩

/-- A start is remembered until it is answered or dropped. -/
theorem mem_remembered_succ_of_kept (member : b ∈ remembered steps n)
    (unanswered : ¬AnsweredAt steps n b) (undropped : ¬DroppedAt steps n b) :
    b ∈ remembered steps (n + 1) := by
  cases here : steps[n]? with
  | none => simpa [remembered, here] using member
  | some x =>
    cases x with
    | start text =>
      rw [remembered_start_eq here]
      refine List.mem_append_left _ ?_
      split
      · next full =>
        cases known : remembered steps n with
        | nil => simp [known] at member
        | cons oldest younger =>
          rw [known] at member
          rcases List.mem_cons.1 member with rfl | kept
          · exact absurd ⟨⟨text, here⟩, full, by rw [known, List.head?_cons]⟩ undropped
          · exact kept
      · exact member
    | finish text error =>
      rw [remembered_finish here, List.mem_filter]
      refine ⟨member, ?_⟩
      rw [decide_eq_true_eq]
      exact fun same => unanswered ⟨text, error, here, same.symm⟩
    | pass _ | enter | leaveLast | leaveFirst | leaveAt _ =>
      rwa [remembered_aside here rfl rfl]

/-- What one step makes of what is remembered. -/
theorem mem_remembered_succ_iff : b ∈ remembered steps (n + 1) ↔
    (b ∈ remembered steps n ∧ ¬AnsweredAt steps n b ∧ ¬DroppedAt steps n b) ∨
      ∃ text, steps[n]? = some (.start text) ∧ b = ⟨n, stripBinds text⟩ := by
  constructor
  · intro member
    exact (mem_remembered_succ member).imp_left fun old =>
      ⟨old, fun answered => answered.not_remembered member,
        fun dropped => dropped.not_remembered member⟩
  · rintro (⟨old, unanswered, undropped⟩ | ⟨text, here, rfl⟩)
    · exact mem_remembered_succ_of_kept old unanswered undropped
    · rw [remembered_start_eq here]
      exact List.mem_append_right _ (List.mem_singleton_self _)

/-- What is remembered after the first steps of a run are just the starts among them that no
finish has answered and no start has dropped. -/
theorem mem_remembered_iff : b ∈ remembered steps n ↔
    (b.position < n ∧ ∃ text, steps[b.position]? = some (.start text) ∧ b.text = stripBinds text) ∧
      ∀ m < n, ¬AnsweredAt steps m b ∧ ¬DroppedAt steps m b := by
  induction n with
  | zero => exact iff_of_false List.not_mem_nil fun ⟨⟨before, _⟩, _⟩ => Nat.not_lt_zero _ before
  | succ n ih =>
    rw [mem_remembered_succ_iff, ih]
    constructor
    · rintro (⟨⟨⟨before, begun⟩, kept⟩, now⟩ | ⟨text, here, rfl⟩)
      · refine ⟨⟨Nat.lt_succ_of_lt before, begun⟩, fun m earlier => ?_⟩
        rcases Nat.lt_succ_iff_lt_or_eq.1 earlier with past | rfl
        · exact kept m past
        · exact now
      · exact ⟨⟨Nat.lt_succ_self n, text, here, rfl⟩, fun m earlier =>
          kept_until_started (Nat.le_of_lt_succ earlier)⟩
    · rintro ⟨⟨before, text, begun, text_eq⟩, kept⟩
      rcases Nat.lt_succ_iff_lt_or_eq.1 before with past | now
      · exact .inl ⟨⟨⟨past, text, begun, text_eq⟩, fun m earlier =>
          kept m (Nat.lt_succ_of_lt earlier)⟩, kept n (Nat.lt_succ_self n)⟩
      · refine .inr ⟨text, now ▸ begun, ?_⟩
        cases b
        simp_all

end Remembered

/-! ## The timer of a run -/

/-- The statement of a start, as the timer holds it: with the time of the start, and to be
reported unless somebody held the scope then. -/
def statementOf (w : Monitor) (steps : List TimerStep) (b : StartAt) : PendingStatement :=
  ⟨b.text, TimerStep.total (steps.take b.position),
    ((begin w).run (steps.take b.position)).guards.isEmpty⟩

/-- How the timer stands after the first steps of a run: what is under way are the starts
that are remembered. -/
structure Remembers (w : Monitor) (steps : List TimerStep) (n : Nat) (s : TimerTrace) : Prop where
  monitor : s.timer.monitor = w
  holders : s.timer.holders = s.guards.length
  clock : s.timeline.now = TimerStep.total (steps.take n)
  pending : s.timer.pending = (remembered steps n).map (statementOf w steps)

namespace Remembers

variable {w : Monitor} {steps : List TimerStep} {n : Nat}

theorem start : Remembers w steps 0 (begin w) := ⟨rfl, rfl, rfl, rfl⟩

/-- A step that neither starts nor finishes a statement changes nothing about what is
remembered. -/
theorem aside {s s' : TimerTrace} {x : TimerStep} (stands : Remembers w steps n s)
    (here : steps[n]? = some x) (started : x.started? = none) (finished : x.finished? = none)
    (monitor : s'.timer.monitor = s.timer.monitor) (holders : s'.timer.holders = s'.guards.length)
    (pending : s'.timer.pending = s.timer.pending)
    (clock : s'.timeline.now = s.timeline.now + x.nanos) : Remembers w steps (n + 1) s' where
  monitor := monitor.trans stands.monitor
  holders := holders
  clock := by
    rw [clock, stands.clock, Orderly.take_add_one here, TimerStep.total_append]
    simp [TimerStep.total]
  pending := by rw [pending, stands.pending, remembered_aside here started finished]

theorem leaves {s : TimerTrace} {x : TimerStep} (stands : Remembers w steps n s) (place : Nat)
    (step : s.step x = s.dropGuard place) (here : steps[n]? = some x)
    (started : x.started? = none) (finished : x.finished? = none) (nanos : x.nanos = 0) :
    Remembers w steps (n + 1) (s.step x) := by
  obtain ⟨pending, monitor, timeline⟩ := pending_dropGuard s place
  rw [step]
  refine stands.aside here started finished monitor (holders_dropGuard stands.holders place)
    pending ?_
  rw [timeline, nanos, Nat.add_zero]

/-- A start is put behind the newest of the others that there is room for. -/
theorem begins {text : String} (stands : Remembers w steps n ((begin w).run (steps.take n)))
    (here : steps[n]? = some (.start text)) :
    Remembers w steps (n + 1) (((begin w).run (steps.take n)).step (.start text)) where
  monitor := stands.monitor
  holders := stands.holders
  clock := by
    rw [Orderly.take_add_one here, TimerStep.total_append]
    simpa [step, TimerStep.total, TimerStep.nanos] using stands.clock
  pending := by
    have unheld : (!((begin w).run (steps.take n)).timer.isHeld) =
        ((begin w).run (steps.take n)).guards.isEmpty := by
      rw [QueryTimer.isHeld, stands.holders]
      cases ((begin w).run (steps.take n)).guards <;> simp
    have new : statementOf w steps ⟨n, stripBinds text⟩ =
        ⟨stripBinds text, ((begin w).run (steps.take n)).timeline.now,
          !((begin w).run (steps.take n)).timer.isHeld⟩ := by
      rw [statementOf, stands.clock, unheld]
    rw [remembered_start_eq here, List.map_append, List.map_singleton, new]
    simp only [step, QueryTimer.start, stands.pending, List.length_map, List.drop_one]
    split
    · rw [List.map_tail]
    · rfl

/-- A finish takes the start that it answers out of what is under way and judges it. -/
theorem finishes {s : TimerTrace} (stands : Remembers w steps n s) (text : String)
    (error : Option String) :
    s.timer.finish s.timeline.now text error =
      match answered? (stripBinds text) (remembered steps n) with
      | none => (s.timer, none)
      | some b =>
        ({ s.timer with
            pending := ((remembered steps n).filter (some · ≠ some b)).map (statementOf w steps) },
          if (statementOf w steps b).timed then
            w.verdict (s.timeline.now - (statementOf w steps b).started) (.ofText b.text)
              (.ofError error)
          else none) := by
  have taken := take?_map (stripBinds text) (remembered_distinct steps n)
    (statementOf w steps) (fun _ => rfl)
  simp only [QueryTimer.finish, stands.pending, taken]
  cases answered? (stripBinds text) (remembered steps n) with
  | none => rfl
  | some b =>
    simp only [Option.map_some, Monitor.judge_ofNanos, stands.monitor]
    cases error <;> rfl

theorem ends {s : TimerTrace} {text : String} {error : Option String}
    (stands : Remembers w steps n s) (here : steps[n]? = some (.finish text error)) :
    Remembers w steps (n + 1) (s.step (.finish text error)) where
  monitor := (s.timer.monitor_finish _ _ _).trans stands.monitor
  holders := (s.timer.holders_finish _ _ _).trans stands.holders
  clock := by
    rw [Orderly.take_add_one here, TimerStep.total_append]
    simpa [step, TimerStep.total, TimerStep.nanos] using stands.clock
  pending := by
    rw [remembered_finish here]
    simp only [step, stands.finishes]
    cases answered? (stripBinds text) (remembered steps n) with
    | none => simpa using stands.pending
    | some b => rfl

end Remembers

/-- At every position of a run the timer stands as it should. -/
theorem remembers (w : Monitor) (steps : List TimerStep) (n : Nat) (inside : n ≤ steps.length) :
    Remembers w steps n ((begin w).run (steps.take n)) := by
  induction n with
  | zero => exact .start
  | succ n ih =>
    have stands := ih (Nat.le_of_succ_le inside)
    obtain ⟨x, here⟩ : ∃ x, steps[n]? = some x := ⟨_, List.getElem?_eq_getElem inside⟩
    rw [Orderly.take_add_one here, run_concat]
    cases x with
    | start text => exact stands.begins here
    | finish text error => exact stands.ends here
    | pass nanos => exact stands.aside here rfl rfl rfl stands.holders rfl rfl
    | enter =>
      refine stands.aside here rfl rfl rfl ?_ rfl rfl
      simp [step, QueryTimer.enter, stands.holders]
    | leaveLast => exact stands.leaves _ rfl here rfl rfl rfl
    | leaveFirst => exact stands.leaves _ rfl here rfl rfl rfl
    | leaveAt place => exact stands.leaves _ rfl here rfl rfl rfl

/-! ## What a finish reports -/

/-- What the finish at a position reports when it is taken for the end of the statement
started at `b`: the verdict on the time since that start, if nobody held the scope then. -/
def lateness (w : Monitor) (steps : List TimerStep) (b : StartAt) (position : Nat)
    (error : Option String) : List Report :=
  (if ((begin w).run (steps.take b.position)).guards.isEmpty then
    w.verdict (between steps b.position position) (.ofText b.text) (.ofError error)
  else none).toList

/-- The finish at the position adds exactly the report of the statement started at `b`. -/
def Ends (w : Monitor) (steps : List TimerStep) (b : StartAt) (position : Nat)
    (error : Option String) : Prop :=
  ((begin w).run (steps.take (position + 1))).timeline.reports =
    ((begin w).run (steps.take position)).timeline.reports ++ lateness w steps b position error

/-- A finish answers one of the remembered starts, if there is one. -/
theorem ends_of_finish (w : Monitor) {steps : List TimerStep} {i : Nat} {text : String}
    {error : Option String} {b : StartAt} (here : steps[i]? = some (.finish text error))
    (answer : answered? (stripBinds text) (remembered steps i) = some b)
    (member : b ∈ remembered steps i) : Ends w steps b i error := by
  have inside : i < steps.length := (List.getElem?_eq_some_iff.1 here).1
  have stands := remembers w steps i (Nat.le_of_lt inside)
  have earlier : b.position ≤ i := Nat.le_of_lt (start_of_remembered member).1
  rw [Ends, lateness, Orderly.take_add_one here, run_concat, between_eq steps earlier]
  simp only [step, stands.finishes, answer, Timeline.reports_deliver]
  simp only [stands.clock, statementOf]

/-- Only finishes report anything. -/
theorem reports_aside (w : Monitor) {steps : List TimerStep} {i : Nat} {x : TimerStep}
    (here : steps[i]? = some x) (unfinished : x.finished? = none) :
    ((begin w).run (steps.take (i + 1))).timeline.reports =
      ((begin w).run (steps.take i)).timeline.reports := by
  rw [Orderly.take_add_one here, run_concat]
  cases x with
  | finish text error => simp [TimerStep.finished?] at unfinished
  | start _ | pass _ | enter => rfl
  | leaveLast | leaveFirst | leaveAt _ =>
    exact congrArg Timeline.reports (pending_dropGuard _ _).2.2

/-! ## A finish whose text nothing under way has -/

/-- A finish that no statement under way agrees with is ignored only when nothing is under
way.  Otherwise it is taken for the end of the oldest statement: that one is under way no
longer, and is reported, with its own label and the finish's error, if nobody held the scope
at its start and the time since then meets the threshold. -/
theorem unmatched_finish_takes_oldest (w : Monitor) (steps : List TimerStep) (text : String)
    (error : Option String)
    (unmatched : ∀ p ∈ ((begin w).run steps).timer.pending, p.text ≠ stripBinds text) :
    (((begin w).run steps).timer.pending = [] ∧
      ((begin w).run steps).step (.finish text error) = (begin w).run steps) ∨
    ∃ oldest younger,
      remembered steps steps.length = oldest :: younger ∧
      (∃ t, steps[oldest.position]? = some (.start t) ∧ oldest.text = stripBinds t) ∧
      ((begin w).run steps).timer.pending =
        (oldest :: younger).map (statementOf w steps) ∧
      (((begin w).run steps).step (.finish text error)).timer.pending =
        younger.map (statementOf w steps) ∧
      (((begin w).run steps).step (.finish text error)).timeline.reports =
        ((begin w).run steps).timeline.reports ++
          lateness w steps oldest steps.length error := by
  have stands := remembers w steps steps.length (Nat.le_refl _)
  have distinct := remembered_distinct steps steps.length
  rw [List.take_length] at stands
  have strangers : ∀ b ∈ remembered steps steps.length, b.text ≠ stripBinds text := by
    intro b member
    refine unmatched (statementOf w steps b) ?_
    rw [stands.pending]
    exact List.mem_map_of_mem member
  have finished := stands.finishes text error
  rw [answered?_of_unmatched strangers] at finished
  cases known : remembered steps steps.length with
  | nil =>
    rw [known] at finished
    refine .inl ⟨by rw [stands.pending, known, List.map_nil], ?_⟩
    simp only [step, finished, List.head?_nil, Timeline.deliver, Option.bind_none,
      Option.toList_none, List.append_nil]
  | cons oldest younger =>
    have member : oldest ∈ remembered steps steps.length := by simp [known]
    obtain ⟨earlier, t, here, text_eq⟩ := start_of_remembered member
    rw [known] at finished distinct
    have rest : (oldest :: younger).filter (some · ≠ some oldest) = younger := by
      rw [List.filter_cons_of_neg (by simp), List.filter_eq_self]
      intro b younger
      have differs : b ≠ oldest := fun same =>
        (List.nodup_cons.1 distinct).1 (same ▸ younger)
      simpa using differs
    simp only [List.head?_cons, rest] at finished
    refine .inr ⟨oldest, younger, rfl, ⟨t, here, text_eq⟩, by rw [stands.pending, known], ?_, ?_⟩
    · simp only [step, finished]
    · have time : ((begin w).run steps).timeline.now - (statementOf w steps oldest).started =
          between steps oldest.position steps.length := by
        rw [between_eq steps (Nat.le_of_lt earlier), stands.clock, statementOf]
      simp only [step, finished, Timeline.reports_deliver, time]
      rfl

/-- A statement that fills the timer's room up has forgotten the one that is finished. -/
def forgotten : List TimerStep :=
  .start "DELETE FROM carts" :: List.replicate 64 (.start "SELECT 1") ++ [.pass 60000000]

theorem unmatched_finish_takes_oldest_of_forgotten :
    (∀ p ∈ ((begin ⟨⟨50⟩, .collector 0⟩).run forgotten).timer.pending,
      p.text ≠ stripBinds "DELETE FROM carts") ∧
    (((begin ⟨⟨50⟩, .collector 0⟩).run forgotten).step
      (.finish "DELETE FROM carts" none)).timeline.reports =
        [⟨.collector 0, ⟨60, ⟨"SELECT"⟩, .completed none⟩⟩] := by
  have unmatched : ∀ p ∈ ((begin ⟨⟨50⟩, .collector 0⟩).run forgotten).timer.pending,
      p.text ≠ stripBinds "DELETE FROM carts" := by decide +kernel
  refine ⟨unmatched, ?_⟩
  rcases unmatched_finish_takes_oldest ⟨⟨50⟩, .collector 0⟩ forgotten "DELETE FROM carts" none
    unmatched with ⟨nothing, -⟩ | ⟨oldest, younger, known, -, -, -, reports⟩
  · exact absurd nothing (by decide +kernel)
  · have first : oldest = ⟨1, "SELECT 1"⟩ := by
      have head := congrArg List.head? known
      rw [show (remembered forgotten forgotten.length).head? = some ⟨1, "SELECT 1"⟩ by
        decide +kernel] at head
      exact (Option.some.inj head).symm
    rw [reports, first]
    decide +kernel

/-- The finish of another text removes and reports the only statement under way. -/
theorem unmatched_finish_not_ignored :
    (∀ p ∈ ((begin ⟨⟨50⟩, .collector 0⟩).run [.start "SELECT 1", .pass 60000000]).timer.pending,
      p.text ≠ stripBinds "SELECT 2") ∧
    ((begin ⟨⟨50⟩, .collector 0⟩).run [.start "SELECT 1", .pass 60000000]).timer.pending =
      [⟨"SELECT 1", 0, true⟩] ∧
    (((begin ⟨⟨50⟩, .collector 0⟩).run [.start "SELECT 1", .pass 60000000]).step
      (.finish "SELECT 2" none)).timer.pending = [] ∧
    (((begin ⟨⟨50⟩, .collector 0⟩).run [.start "SELECT 1", .pass 60000000]).step
      (.finish "SELECT 2" none)).timeline.reports =
        [⟨.collector 0, ⟨60, ⟨"SELECT"⟩, .completed none⟩⟩] := by
  decide +kernel

end TimerTrace

end SchemaPool
