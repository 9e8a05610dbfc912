import Mathlib.Data.List.Forall2
import Mathlib.Data.List.Perm.Subperm
import SchemaPool.Proofs.Timing.Remembering

/-! # Where reports come from

The steps of a run need not fit together: finishes may be missing or belong to no start, any
number of statements may be started, and holders may leave in any order.  Whatever happens,
every report has a source of its own, which is a start that nobody held the scope at and the
finish that was taken for its end (`TimerTrace.Tells`).

A statement that a finish takes out of the queue is never under way again, so its start is
the source of no second report (`TimerTrace.Accounted`).  Hence the statements under way and
the reports are together never more than the starts (`TimerTrace.reports_have_sources`). -/

namespace SchemaPool

open SchemaPool.Sql (Label)

/-- A verdict is given just on what meets an enabled threshold, and tells the time in whole
milliseconds, as far as a word holds it; so it never tells less than the threshold. -/
theorem Monitor.of_verdict {w : Monitor} {nanos : Nat} {label : Label} {outcome : Outcome}
    {r : Report} (told : w.verdict nanos label outcome = some r) :
    r.reporter = w.reporter ∧ r.event.label = label ∧ r.event.outcome = outcome ∧
      r.event.millis.toNat = min (nanos / 1000000) Text.maxWord ∧
      w.threshold.millis ≤ r.event.millis := by
  rw [verdict] at told
  split at told
  · next slow =>
    cases told
    have millis := toNat_ofNat_min (nanos / 1000000)
    have word := w.threshold.toNat_millis_le
    refine ⟨rfl, rfl, rfl, millis, ?_⟩
    rw [UInt64.le_iff_toNat_le, millis]
    omega
  · cases told

namespace TimerTrace

open TimerStep (between allStarts)

/-- The positions of the start and of the finish that a report is about. -/
structure Source where
  began : Nat
  ended : Nat
deriving DecidableEq, Repr

/-- The report is added by the finish of the source, which takes the statement of its start out
of those under way.  Nobody held the scope at the start, and the report tells the text of that
statement, its age in whole milliseconds and the error of the finish. -/
structure Tells (w : Monitor) (steps : List TimerStep) (a : Source) (r : Report) : Prop where
  earlier : a.began < a.ended
  unheld : ((begin w).run (steps.take a.began)).guards = []
  finished : ∃ text error, steps[a.ended]? = some (.finish text error) ∧
    r.event.outcome = .ofError error
  added : ((begin w).run (steps.take (a.ended + 1))).timeline.reports =
    ((begin w).run (steps.take a.ended)).timeline.reports ++ [r]
  removed : ∃ text older younger, steps[a.began]? = some (.start text) ∧
    ((begin w).run (steps.take a.ended)).timer.pending = older ++
      ⟨stripBinds text, ((begin w).run (steps.take a.began)).timeline.now, true⟩ :: younger ∧
    ((begin w).run (steps.take (a.ended + 1))).timer.pending = older ++ younger ∧
    r.event.label = .ofText (stripBinds text)
  reporter : r.reporter = w.reporter
  age : r.event.millis.toNat = min (between steps a.began a.ended / 1000000) Text.maxWord
  slow : w.threshold.millis ≤ r.event.millis

/-! ## One step -/

/-- Beside what was remembered before, a step can leave only its own start remembered. -/
theorem remembered_succ_sublist {steps : List TimerStep} {n : Nat} {x : TimerStep}
    (here : steps[n]? = some x) : (remembered steps (n + 1)).Sublist
      (remembered steps n ++ (x.started?.map (StartAt.mk n)).toList) := by
  cases x with
  | start text =>
    rw [remembered_start here]
    exact List.drop_sublist _ _
  | finish text error =>
    rw [remembered_finish here]
    exact List.filter_sublist.trans (List.sublist_append_left _ _)
  | pass _ | enter | leaveLast | leaveFirst | leaveAt _ =>
    rw [remembered_aside here rfl rfl]
    exact List.sublist_append_left _ _

section Finish

variable {w : Monitor} {steps : List TimerStep} {n : Nat} {text : String} {error : Option String}

/-- What a finish answers is taken out from among the others that are remembered. -/
theorem remembered_split {b : StartAt} (here : steps[n]? = some (.finish text error))
    (answer : answered? (stripBinds text) (remembered steps n) = some b) :
    ∃ older younger, remembered steps n = older ++ b :: younger ∧
      remembered steps (n + 1) = older ++ younger := by
  obtain ⟨older, younger, split⟩ := List.append_of_mem (answered?_mem answer)
  have distinct := remembered_distinct steps n
  rw [split, List.nodup_append, List.nodup_cons] at distinct
  obtain ⟨-, ⟨after, -⟩, before⟩ := distinct
  refine ⟨older, younger, split, ?_⟩
  have kept {c : StartAt} (differs : c ≠ b) : decide (some c ≠ some b) = true := by
    simpa using differs
  rw [remembered_finish here, answer, split, List.filter_append,
    List.filter_cons_of_neg (by simp)]
  congr 1
  · exact List.filter_eq_self.2 fun c member => kept (before c member b List.mem_cons_self)
  · exact List.filter_eq_self.2 fun c member => kept fun same => after (same ▸ member)

/-- A finish that answers nothing reports nothing. -/
theorem reports_of_unanswered (w : Monitor) (here : steps[n]? = some (.finish text error))
    (answer : answered? (stripBinds text) (remembered steps n) = none) :
    ((begin w).run (steps.take (n + 1))).timeline.reports =
      ((begin w).run (steps.take n)).timeline.reports := by
  have inside : n < steps.length := (List.getElem?_eq_some_iff.1 here).1
  have stands := remembers w steps n (Nat.le_of_lt inside)
  rw [Orderly.take_add_one here, run_concat]
  simp only [step, stands.finishes, answer, Timeline.reports_deliver, Option.toList_none,
    List.append_nil]

/-- A report that a finish adds has the answered start as its source. -/
theorem tells_of_finish {b : StartAt} {r : Report} (here : steps[n]? = some (.finish text error))
    (answer : answered? (stripBinds text) (remembered steps n) = some b)
    (late : lateness w steps b n error = [r]) : Tells w steps ⟨b.position, n⟩ r := by
  have inside : n < steps.length := (List.getElem?_eq_some_iff.1 here).1
  have member := answered?_mem answer
  obtain ⟨earlier, begun, there, text_eq⟩ := start_of_remembered member
  obtain ⟨older, younger, split, rest⟩ := remembered_split here answer
  have before := (remembers w steps n (Nat.le_of_lt inside)).pending
  have after := (remembers w steps (n + 1) inside).pending
  have began := (remembers w steps b.position (by omega)).clock
  have added := ends_of_finish w here answer member
  rw [Ends, late] at added
  rw [lateness, Option.toList_eq_singleton_iff] at late
  split at late
  · next unheld =>
    obtain ⟨reporter, label, outcome, age, slow⟩ := Monitor.of_verdict late
    have statement : statementOf w steps b = ⟨stripBinds begun,
        ((begin w).run (steps.take b.position)).timeline.now, true⟩ := by
      rw [statementOf, unheld, began, text_eq]
    rw [split, List.map_append, List.map_cons, statement] at before
    rw [rest, List.map_append] at after
    exact ⟨earlier, List.isEmpty_iff.1 unheld, ⟨text, error, here, outcome⟩, added,
      ⟨begun, _, _, there, before, after, text_eq ▸ label⟩, reporter, age, slow⟩
  · cases late

end Finish

/-! ## The sources of all reports -/

/-- The starts that are remembered or have been reported, by their positions. -/
def known (steps : List TimerStep) (n : Nat) (sources : List Source) : List Nat :=
  (remembered steps n).map (·.position) ++ sources.map (·.began)

/-- After the first steps of a run these are the sources of the reports made so far.  No start
is known twice, neither by two reports nor by a report and the queue. -/
structure Accounted (w : Monitor) (steps : List TimerStep) (n : Nat) (sources : List Source) :
    Prop where
  told : List.Forall₂ (Tells w steps) sources ((begin w).run (steps.take n)).timeline.reports
  ended : ∀ a ∈ sources, a.ended < n
  ordered : sources.Pairwise (·.ended < ·.ended)
  once : (known steps n sources).Nodup
  few : (known steps n sources).length ≤ allStarts (steps.take n)

namespace Accounted

variable {w : Monitor} {steps : List TimerStep} {n : Nat} {sources : List Source}

theorem start (w : Monitor) (steps : List TimerStep) : Accounted w steps 0 [] :=
  ⟨.nil, nofun, .nil, .nil, Nat.le_refl 0⟩

theorem known_lt (accounted : Accounted w steps n sources) {position : Nat}
    (member : position ∈ known steps n sources) : position < n := by
  cases List.mem_append.1 member with
  | inl kept =>
    obtain ⟨b, remembered, rfl⟩ := List.mem_map.1 kept
    exact (start_of_remembered remembered).1
  | inr source =>
    obtain ⟨a, listed, rfl⟩ := List.mem_map.1 source
    obtain ⟨i, inside, rfl⟩ := List.getElem_of_mem listed
    have tells := accounted.told.get inside (accounted.told.length_eq ▸ inside)
    exact Nat.lt_trans tells.earlier (accounted.ended _ listed)

/-- A step that reports nothing keeps the sources.  It may start one statement, and others may
be forgotten. -/
theorem unreported {x : TimerStep} (accounted : Accounted w steps n sources)
    (here : steps[n]? = some x)
    (reports : ((begin w).run (steps.take (n + 1))).timeline.reports =
      ((begin w).run (steps.take n)).timeline.reports) :
    Accounted w steps (n + 1) sources := by
  have fewer : List.Subperm (known steps (n + 1) sources)
      ((x.started?.map fun _ => n).toList ++ known steps n sources) := by
    have kept := ((remembered_succ_sublist here).map (·.position)).append_right
      (sources.map (·.began))
    refine kept.subperm.trans (List.Perm.subperm ?_)
    rw [List.perm_iff_count]
    intro position
    cases x.started? <;> simp [known, List.count_append, List.count_cons]
    omega
  have starts : allStarts (steps.take (n + 1)) =
      allStarts (steps.take n) + (x.started?.map fun _ => n).toList.length := by
    rw [Orderly.take_add_one here, allStarts, allStarts, List.countP_append]
    cases started : x.started? <;> simp [started]
  refine ⟨reports ▸ accounted.told, fun a member => Nat.lt_succ_of_lt (accounted.ended a member),
    accounted.ordered, ?_, ?_⟩
  · obtain ⟨kept, same, sublist⟩ := fewer
    refine same.nodup (List.Nodup.sublist sublist ?_)
    cases x.started? with
    | none => exact accounted.once
    | some text =>
      exact List.nodup_cons.2 ⟨fun old => Nat.lt_irrefl n (accounted.known_lt old), accounted.once⟩
  · have length := fewer.length_le
    have few := accounted.few
    simp only [List.length_append] at length
    omega

/-- A finish that reports what it answers makes a source of a remembered start. -/
theorem reported {text : String} {error : Option String} {b : StartAt} {r : Report}
    (accounted : Accounted w steps n sources) (here : steps[n]? = some (.finish text error))
    (answer : answered? (stripBinds text) (remembered steps n) = some b)
    (late : lateness w steps b n error = [r]) :
    Accounted w steps (n + 1) (sources ++ [⟨b.position, n⟩]) := by
  have tells := tells_of_finish here answer late
  obtain ⟨older, younger, split, rest⟩ := remembered_split here answer
  have same : (known steps (n + 1) (sources ++ [⟨b.position, n⟩])).Perm
      (known steps n sources) := by
    rw [List.perm_iff_count]
    intro position
    simp [known, split, rest, List.count_append, List.count_cons]
    omega
  have starts : allStarts (steps.take (n + 1)) = allStarts (steps.take n) := by
    rw [Orderly.take_add_one here, allStarts, allStarts, List.countP_append]
    simp [TimerStep.started?]
  refine ⟨?_, ?_, ?_, same.nodup_iff.2 accounted.once, ?_⟩
  · rw [tells.added]
    exact List.rel_append accounted.told (.cons tells .nil)
  · intro a source
    cases List.mem_append.1 source with
    | inl old => exact Nat.lt_succ_of_lt (accounted.ended a old)
    | inr new =>
      rw [List.mem_singleton.1 new]
      exact Nat.lt_succ_self n
  · refine List.pairwise_append.2 ⟨accounted.ordered, List.pairwise_singleton _ _, ?_⟩
    intro a old c new
    rw [List.mem_singleton.1 new]
    exact accounted.ended a old
  · rw [same.length_eq, starts]
    exact accounted.few

end Accounted

/-- At every position of a run all reports have their sources. -/
theorem accounted (w : Monitor) (steps : List TimerStep) (n : Nat) (inside : n ≤ steps.length) :
    ∃ sources, Accounted w steps n sources := by
  induction n with
  | zero => exact ⟨[], .start w steps⟩
  | succ n ih =>
    obtain ⟨sources, ih⟩ := ih (Nat.le_of_succ_le inside)
    obtain ⟨x, here⟩ : ∃ x, steps[n]? = some x := ⟨_, List.getElem?_eq_getElem inside⟩
    cases x with
    | finish text error =>
      cases answer : answered? (stripBinds text) (remembered steps n) with
      | none => exact ⟨sources, ih.unreported here (reports_of_unanswered w here answer)⟩
      | some b =>
        cases late : lateness w steps b n error with
        | nil =>
          have added := ends_of_finish w here answer (answered?_mem answer)
          rw [Ends, late, List.append_nil] at added
          exact ⟨sources, ih.unreported here added⟩
        | cons r rs =>
          have one : (lateness w steps b n error).length ≤ 1 := Option.length_toList_le
          rw [late, List.length_cons] at one
          obtain rfl : rs = [] := List.length_eq_zero_iff.1 (by omega)
          exact ⟨_, ih.reported here answer late⟩
    | start _ | pass _ | enter | leaveLast | leaveFirst | leaveAt _ =>
      exact ⟨sources, ih.unreported here (reports_aside w here rfl)⟩

/-! ## What holds of every run -/

theorem total_take_le (steps : List TimerStep) {j i : Nat} (before : j ≤ i) :
    TimerStep.total (steps.take j) ≤ TimerStep.total (steps.take i) := by
  obtain ⟨more, split⟩ := List.take_prefix_take_left before (l := steps)
  rw [← split, TimerStep.total_append]
  exact Nat.le_add_right _ _

/-- Whatever happens to a timer, no more than 64 statements are under way, in the order in which
they were started, and its scope is held just while one of the holders has not left.  Each
report has a source of its own, and statements under way and reports are together no more than
the starts. -/
theorem reports_have_sources (w : Monitor) (steps : List TimerStep) :
    let s := (begin w).run steps
    s.timer.pending.length ≤ 64 ∧
    s.timer.pending.Pairwise (·.started ≤ ·.started) ∧
    (s.timer.isHeld = true ↔ s.guards ≠ []) ∧
    (∃ sources : List Source, List.Forall₂ (Tells w steps) sources s.timeline.reports ∧
      (sources.map (·.began)).Nodup ∧ sources.Pairwise (·.ended < ·.ended)) ∧
    s.timer.pending.length + s.timeline.reports.length ≤ allStarts steps := by
  have stands := remembers w steps steps.length (Nat.le_refl _)
  obtain ⟨sources, all⟩ := accounted w steps steps.length (Nat.le_refl _)
  have told := all.told
  have few := all.few
  rw [List.take_length] at stands told few
  have size : ((begin w).run steps).timer.pending.length =
      (remembered steps steps.length).length := by
    rw [stands.pending, List.length_map]
  refine ⟨?_, ?_, ?_, ⟨sources, told, ?_, all.ordered⟩, ?_⟩
  · rw [size]
    exact length_remembered_le steps steps.length
  · rw [stands.pending, List.pairwise_map]
    exact (remembered_ordered steps steps.length).imp fun earlier =>
      total_take_le steps (Nat.le_of_lt earlier)
  · rw [QueryTimer.isHeld, stands.holders, decide_eq_true_iff, List.length_pos_iff]
  · exact (List.nodup_append.1 all.once).2.1
  · rw [known, List.length_append, List.length_map, List.length_map] at few
    rw [size, ← told.length_eq]
    exact few

end TimerTrace

end SchemaPool
