import Mathlib.Data.List.Infix
import Mathlib.Data.List.PeriodicityLemma
import SchemaPool.Text.Search

/-! # Where a pattern is found first

A pattern that is put behind a text need not be found there.  It may occur in the text already, and
it may overlap itself: behind a text that ends in a period of the pattern it is found one period
early.  Nothing else brings it about, so the pattern is found where it was put just if the text
neither contains it nor ends in one of its periods (`cut?_append_iff`). -/

namespace SchemaPool.Text

variable {p cs before rest : List Char}

theorem cut?_pattern (p rest : List Char) : cut? p (p ++ rest) = some ([], rest) := by
  rw [cut?.eq_def, after?_append]

theorem cut?_cons {c : Char} (later : ¬ p <+: c :: cs) :
    cut? p (c :: cs) = (cut? p cs).map fun piece => (c :: piece.1, piece.2) := by
  rw [← beginsWith_iff, beginsWith, Bool.not_eq_true, Option.isSome_eq_false_iff,
    Option.isNone_iff_eq_none] at later
  rw [cut?, later]

/-- The pattern is found behind the text just if no end of the text begins it. -/
theorem cut?_append_iff_suffix :
    cut? p (cs ++ p ++ rest) = some (cs, rest) ↔ ∀ x, x <:+ cs → p <+: x ++ p → x = [] := by
  induction cs with
  | nil => simp [cut?_pattern]
  | cons c cs ih =>
    by_cases early : p <+: c :: cs ++ p
    · -- The pattern begins with the whole text, and is found there.
      obtain ⟨back, whole⟩ := early.trans (List.prefix_append _ rest)
      rw [← whole, cut?_pattern]
      refine iff_of_false (by simp) fun none => ?_
      exact List.cons_ne_nil c cs (none _ List.suffix_rfl early)
    · have later : ¬ p <+: c :: (cs ++ p ++ rest) := fun begun =>
        early (List.prefix_of_prefix_length_le begun (List.prefix_append _ rest)
          (List.suffix_append _ _).length_le)
      have behind : cut? p (c :: cs ++ p ++ rest) = some (c :: cs, rest) ↔
          cut? p (cs ++ p ++ rest) = some (cs, rest) := by
        rw [List.cons_append, List.cons_append, cut?_cons later, Option.map_eq_some_iff]
        simp
      simp only [behind, ih, List.suffix_cons_iff]
      constructor
      · rintro none x (rfl | ends) begun
        · exact absurd begun early
        · exact none x ends begun
      · exact fun none x ends => none x (.inr ends)

/-- What begins a pattern that stands behind it either contains the pattern, or is one of its
periods. -/
theorem prefix_append_self_iff {x : List Char} :
    p <+: x ++ p ↔ p <+: x ∨ x.length < p.length ∧ x = p.take x.length ∧ p.HasPeriod x.length := by
  constructor
  · intro early
    by_cases short : x.length < p.length
    · have period : x = p.take x.length := by
        rw [← List.prefix_iff_eq_take]
        exact List.prefix_of_prefix_length_le (List.prefix_append _ _) early (Nat.le_of_lt short)
      refine .inr ⟨short, period, ?_⟩
      rw [List.HasPeriod, ← period]
      exact early
    · exact .inl (List.prefix_of_prefix_length_le early (List.prefix_append _ _)
        (Nat.le_of_not_lt short))
  · rintro (begun | ⟨-, period, repeats⟩)
    · exact begun.trans (List.prefix_append _ _)
    · rw [period]
      exact repeats

/-- A pattern is found where it was put behind a text just if the text neither contains it nor ends
in one of its periods. -/
theorem cut?_append_iff (filled : p ≠ []) :
    cut? p (cs ++ p ++ rest) = some (cs, rest) ↔
      ¬ p <:+: cs ∧ ∀ n, 0 < n → n < p.length → p.HasPeriod n → ¬ p.take n <:+ cs := by
  rw [cut?_append_iff_suffix]
  constructor
  · intro none
    refine ⟨?_, fun n positive short repeats ends => ?_⟩
    · rintro ⟨front, back, whole⟩
      have ends : p ++ back <:+ cs := ⟨front, by rw [← whole, List.append_assoc]⟩
      have early : p <+: p ++ back ++ p := by
        rw [List.append_assoc]
        exact List.prefix_append _ _
      exact filled (List.append_eq_nil_iff.1 (none _ ends early)).1
    · have empty : p.take n = [] := none _ ends repeats
      rw [List.take_eq_nil_iff] at empty
      exact empty.elim (Nat.ne_of_gt positive) filled
  · rintro ⟨absent, apart⟩ x ends early
    cases prefix_append_self_iff.1 early with
    | inl begun => exact absurd (begun.isInfix.trans ends.isInfix) absent
    | inr overlap =>
      obtain ⟨short, period, repeats⟩ := overlap
      by_contra nonempty
      rw [period] at ends
      exact apart _ (List.length_pos_iff.2 nonempty) short repeats ends

theorem infix_of_cut? (cut : cut? p cs = some (before, rest)) : p <:+: cs :=
  ⟨before, rest, (eq_append_of_cut? cut).symm⟩

/-- What stands before the first place of a pattern does not contain it. -/
theorem not_infix_of_cut? (filled : p ≠ []) (cut : cut? p cs = some (before, rest)) :
    ¬ p <:+: before := by
  have first := cut
  rw [eq_append_of_cut? cut, cut?_append_iff filled] at first
  exact first.1

end SchemaPool.Text
