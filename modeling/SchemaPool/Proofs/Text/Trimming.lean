import Mathlib.Data.List.TakeWhile
import SchemaPool.Text.Blank

/-! # What trimming takes off

A trimmed text neither begins nor ends with a blank, and nothing but blanks has been taken off
either end (`exists_padding`).  So blanks around a text make no difference to what is left of it
(`trimChars_padded`). -/

namespace SchemaPool.Text

variable {cs left right : List Char}

/-! ## The right end -/

theorem trimRight_append_blank (blank : ∀ c ∈ right, isBlankChar c = true) (cs : List Char) :
    trimRight (cs ++ right) = trimRight cs := by
  induction cs with
  | nil => simpa [trimRight] using trimRight_eq_nil_iff.2 blank
  | cons c cs ih => rw [List.cons_append, trimRight, trimRight, ih]

theorem trimRight_append {c : Char} (filled : isBlankChar c = false) (cs rest : List Char) :
    trimRight (cs ++ c :: rest) = cs ++ c :: trimRight rest := by
  induction cs with
  | nil =>
    rw [List.nil_append, trimRight]
    cases trimRight rest <;> simp [filled]
  | cons d cs ih =>
    rw [List.cons_append, trimRight, ih]
    cases cs <;> simp

theorem exists_padding_right (cs : List Char) :
    ∃ right, (∀ c ∈ right, isBlankChar c = true) ∧ cs = trimRight cs ++ right := by
  induction cs with
  | nil => exact ⟨[], by simp, rfl⟩
  | cons c cs ih =>
    obtain ⟨right, blank, whole⟩ := ih
    rw [trimRight]
    cases kept : trimRight cs with
    | cons d ds => exact ⟨right, blank, by rw [kept] at whole; simp [whole]⟩
    | nil =>
      rw [kept, List.nil_append] at whole
      subst whole
      cases first : isBlankChar c with
      | true => exact ⟨c :: cs, by simpa [first] using blank, by simp⟩
      | false => exact ⟨cs, blank, by simp⟩

theorem getLast?_trimRight (cs : List Char) :
    ∀ c ∈ (trimRight cs).getLast?, isBlankChar c = false := by
  induction cs with
  | nil => simp [trimRight]
  | cons c cs ih =>
    rw [trimRight]
    cases kept : trimRight cs with
    | cons d ds => simpa [kept] using ih
    | nil => cases first : isBlankChar c <;> simp [first]

theorem head?_trimRight {cs : List Char} {c : Char} (first : c ∈ (trimRight cs).head?) :
    c ∈ cs.head? := by
  obtain ⟨right, -, whole⟩ := exists_padding_right cs
  rw [whole, List.head?_append, Option.mem_def.1 first]
  rfl

/-! ## Both ends -/

theorem trimChars_padded (before : ∀ c ∈ left, isBlankChar c = true)
    (after : ∀ c ∈ right, isBlankChar c = true) (cs : List Char) :
    trimChars (left ++ cs ++ right) = trimChars cs := by
  have none : trimLeft right = [] := trimLeft_eq_nil_iff.2 after
  rw [trimChars, trimChars, trimLeft, List.append_assoc, List.dropWhile_append_of_pos before,
    List.dropWhile_append]
  split
  · next empty =>
    have gone : trimLeft cs = [] := List.isEmpty_iff.1 empty
    rw [gone]
    exact congrArg trimRight none
  · exact trimRight_append_blank after _

/-- Where there is no blank nothing is taken off. -/
theorem trimChars_of_filled (filled : ∀ c ∈ cs, isBlankChar c = false) : trimChars cs = cs := by
  obtain ⟨right, blank, whole⟩ := exists_padding_right cs
  have kept : trimLeft cs = cs := List.dropWhile_eq_self_iff.2 fun _ => by simp [filled]
  have none : right = [] := List.eq_nil_iff_forall_not_mem.2 fun c member => by
    have absurd := filled c (by rw [whole]; simp [member])
    simp [blank c member] at absurd
  rw [none, List.append_nil] at whole
  rw [trimChars, kept, ← whole]

theorem exists_padding (cs : List Char) : ∃ left right,
    (∀ c ∈ left, isBlankChar c = true) ∧ (∀ c ∈ right, isBlankChar c = true) ∧
      cs = left ++ trimChars cs ++ right := by
  obtain ⟨right, after, whole⟩ := exists_padding_right (trimLeft cs)
  refine ⟨cs.takeWhile isBlankChar, right, fun c => List.mem_takeWhile_imp, after, ?_⟩
  rw [List.append_assoc, trimChars, ← whole, trimLeft, List.takeWhile_append_dropWhile]

theorem head?_trimChars (cs : List Char) :
    ∀ c ∈ (trimChars cs).head?, isBlankChar c = false := by
  unfold trimChars
  rcases trimLeft_head cs with none | ⟨c, ds, begun, filled⟩
  · simp [none, trimRight]
  · obtain ⟨es, kept⟩ := trimRight_head ds filled
    simp [begun, kept, filled]

theorem getLast?_trimChars (cs : List Char) :
    ∀ c ∈ (trimChars cs).getLast?, isBlankChar c = false :=
  getLast?_trimRight _

end SchemaPool.Text
