import SchemaPool.Proofs.Text.Overlap
import SchemaPool.Timing.Trace

/-! # Statements and the values listed behind them

A driver shows a statement by itself, or with the values that it is run with listed behind a mark.
The timer goes by the text in front of the first mark, so that a finish belongs to its start
whatever values either of them lists.

The mark begins and ends with a blank and overlaps itself in that blank only (`hasPeriod_bindMark`).
So what stands in front of the first mark is the statement just if the statement neither contains
the mark nor ends in the mark without its last blank (`stripBinds_mark_iff`).  Such statements are
told apart whatever values are listed behind them, and the values make no difference to a timer
(`stripBinds_recovers_statements`). -/

namespace SchemaPool

open SchemaPool.Text

/-- A mark behind the statement is its first mark. -/
@[mk_iff]
structure Separable (statement : String) : Prop where
  unmarked : ¬ bindMark.toList <:+: statement.toList
  -- The first blank of a mark behind the statement would complete an earlier one.
  unfinished : ¬ bindMark.toList.dropLast <:+ statement.toList

instance (statement : String) : Decidable (Separable statement) :=
  decidable_of_iff _ (separable_iff statement).symm

/-- A statement as a driver shows it, with or without a list of values. -/
def withValues (statement : String) : Option String → String
  | none => statement
  | some values => statement ++ bindMark ++ values

/-! ## The first mark of a text -/

theorem bindMark_ne_nil : bindMark.toList ≠ [] := by decide

/-- The mark begins again after ten of its characters, at its last blank, and nowhere else. -/
theorem hasPeriod_bindMark {n : Nat} (positive : 0 < n) (short : n < bindMark.toList.length) :
    bindMark.toList.HasPeriod n ↔ n = 10 := by
  have overlaps : ∀ n < bindMark.toList.length, 0 < n →
      (bindMark.toList <+: bindMark.toList.take n ++ bindMark.toList ↔ n = 10) := by decide
  exact overlaps n short positive

theorem cut?_bindMark_iff {statement : String} (values : List Char) :
    cut? bindMark.toList (statement.toList ++ bindMark.toList ++ values) =
      some (statement.toList, values) ↔ Separable statement := by
  have shorter : bindMark.toList.dropLast = bindMark.toList.take 10 := by decide
  have period : bindMark.toList.HasPeriod 10 :=
    (hasPeriod_bindMark (by decide) (by decide)).2 rfl
  rw [cut?_append_iff bindMark_ne_nil, separable_iff, shorter]
  refine and_congr_right fun _ => ⟨fun apart => ?_, fun unfinished n positive short repeats => ?_⟩
  · exact apart 10 (by decide) (by decide) period
  · have same : n = 10 := (hasPeriod_bindMark positive short).1 repeats
    rwa [same]

/-- A text is stripped at its first mark, or has none. -/
theorem marked_or_unmarked (text : String) :
    (∃ values, cut? bindMark.toList text.toList = some ((stripBinds text).toList, values)) ∨
      ¬ bindMark.toList <:+: text.toList ∧ stripBinds text = text := by
  rw [← occursIn_iff, occursIn, stripBinds]
  cases cut? bindMark.toList text.toList with
  | none => simp
  | some pieces => exact .inl ⟨pieces.2, by simp⟩

theorem stripBinds_of_unmarked {text : String} (unmarked : ¬ bindMark.toList <:+: text.toList) :
    stripBinds text = text := by
  obtain ⟨values, cut⟩ | ⟨-, same⟩ := marked_or_unmarked text
  · exact absurd (infix_of_cut? cut) unmarked
  · exact same

theorem unmarked_stripBinds (text : String) :
    ¬ bindMark.toList <:+: (stripBinds text).toList := by
  obtain ⟨values, cut⟩ | ⟨unmarked, same⟩ := marked_or_unmarked text
  · exact not_infix_of_cut? bindMark_ne_nil cut
  · rwa [same]

theorem stripBinds_prefix (text : String) : (stripBinds text).toList <+: text.toList := by
  obtain ⟨values, cut⟩ | ⟨-, same⟩ := marked_or_unmarked text
  · rw [eq_append_of_cut? cut, List.append_assoc]
    exact List.prefix_append _ _
  · rw [same]

theorem stripBinds_mark_iff {statement : String} (values : String) :
    stripBinds (statement ++ bindMark ++ values) = statement ↔ Separable statement := by
  have chars : (statement ++ bindMark ++ values).toList =
      statement.toList ++ bindMark.toList ++ values.toList := by simp
  rw [← cut?_bindMark_iff values.toList, ← chars]
  obtain ⟨rest, cut⟩ | ⟨unmarked, -⟩ := marked_or_unmarked (statement ++ bindMark ++ values)
  · constructor
    · intro stripped
      have whole := eq_append_of_cut? cut
      rw [stripped, chars, List.append_cancel_left_eq] at whole
      rw [cut, stripped, whole]
    · intro found
      rw [cut, Option.some.injEq, Prod.mk.injEq] at found
      exact String.toList_inj.1 found.1
  · exact absurd ⟨statement.toList, values.toList, chars.symm⟩ unmarked

/-- A statement that ends in all but the last blank of a mark loses them. -/
example : stripBinds ("SELECT 1 -- binds:" ++ bindMark ++ "[7]") = "SELECT 1" := by decide +kernel

theorem stripBinds_withValues {statement : String} (separable : Separable statement)
    (values : Option String) : stripBinds (withValues statement values) = statement := by
  cases values with
  | none => exact stripBinds_of_unmarked separable.unmarked
  | some values => exact (stripBinds_mark_iff values).2 separable

/-! ## Timing statements with values -/

/-- The two steps differ at most in the values that their statement is shown with. -/
inductive TimerStep.SameButValues : TimerStep → TimerStep → Prop
  | start {statement : String} (separable : Separable statement) (one other : Option String) :
      SameButValues (.start (withValues statement one)) (.start (withValues statement other))
  | finish {statement : String} (separable : Separable statement) (one other : Option String)
      (error : Option String) :
      SameButValues (.finish (withValues statement one) error)
        (.finish (withValues statement other) error)
  | same (step : TimerStep) : SameButValues step step

namespace TimerTrace

theorem step_sameButValues (s : TimerTrace) {x y : TimerStep} (alike : x.SameButValues y) :
    s.step x = s.step y := by
  cases alike with
  | start separable one other =>
    simp only [step, QueryTimer.start, stripBinds_withValues separable]
  | finish separable one other error =>
    simp only [step, QueryTimer.finish, stripBinds_withValues separable]
  | same => rfl

theorem run_sameButValues {xs ys : List TimerStep}
    (alike : List.Forall₂ TimerStep.SameButValues xs ys) (s : TimerTrace) :
    s.run xs = s.run ys := by
  induction alike generalizing s with
  | nil => rfl
  | cons first _ ih =>
    change (s.step _).run _ = (s.step _).run _
    rw [step_sameButValues s first]
    exact ih _

end TimerTrace

/-- A statement is recovered from a text with values just if it is separable.  Whatever the text,
what is recovered is the beginning of it without any mark, and is its own stripped form.  Two
separable statements, each shown with some values or none, come to the same text just if they are
the same, and a timer runs the same whatever values are listed. -/
theorem stripBinds_recovers_statements :
    (∀ statement values : String,
      stripBinds (statement ++ bindMark ++ values) = statement ↔ Separable statement) ∧
    (∀ text : String, stripBinds (stripBinds text) = stripBinds text ∧
      (stripBinds text).toList <+: text.toList ∧
      ¬ bindMark.toList <:+: (stripBinds text).toList) ∧
    (∀ one other : String, Separable one → Separable other →
      ∀ values values' : Option String,
        stripBinds (withValues one values) = stripBinds (withValues other values') ↔
          one = other) ∧
    ∀ (s : TimerTrace) (xs ys : List TimerStep),
      List.Forall₂ TimerStep.SameButValues xs ys → s.run xs = s.run ys := by
  refine ⟨fun _ values => stripBinds_mark_iff values, fun text => ?_, ?_, ?_⟩
  · have unmarked := unmarked_stripBinds text
    exact ⟨stripBinds_of_unmarked unmarked, stripBinds_prefix text, unmarked⟩
  · intro one other separable separable' values values'
    rw [stripBinds_withValues separable, stripBinds_withValues separable']
  · exact fun s xs ys alike => TimerTrace.run_sameButValues alike s

/-- Statements that come close to the mark, with a mark among the values of one of them. -/
theorem stripBinds_recovers_statements_of_lookalikes :
    let one := "SELECT ' -- binds:' -- binds"
    let other := "SELECT ' -- binds:'"
    let listed := some "[1] -- binds: [2]"
    Separable one ∧ Separable other ∧
      stripBinds (withValues one listed) = stripBinds (withValues one none) ∧
      stripBinds (withValues one listed) ≠ stripBinds (withValues other none) ∧
      (TimerTrace.begin ⟨⟨50⟩, .collector 0⟩).run
          [.start (withValues one listed), .pass 60000000, .finish (withValues one none) none] =
        (TimerTrace.begin ⟨⟨50⟩, .collector 0⟩).run
          [.start (withValues one none), .pass 60000000, .finish (withValues one none) none] := by
  intro one other listed
  have separable : Separable one := by decide +kernel
  have separable' : Separable other := by decide +kernel
  obtain ⟨-, -, told, run⟩ := stripBinds_recovers_statements
  refine ⟨separable, separable', ?_, ?_, run _ _ _ ?_⟩
  · exact (told one one separable separable listed none).2 rfl
  · exact fun same => absurd ((told one other separable separable' listed none).1 same) (by decide)
  · exact .cons (.start separable listed none) (.cons (.same _) (.cons (.same _) .nil))

end SchemaPool
