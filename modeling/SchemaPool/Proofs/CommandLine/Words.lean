import SchemaPool.CommandLine.Parse

/-! # Forms of arguments

An argument is an option with its value, an option without, two dashes, or plain.  Each of these
is told from its text alone, and the text from what it is, so that what has been told of an
argument says how it was written (`Word.ofString_assigning` and `Word.eq_assigning`,
`Word.ofString_bare` and `Word.eq_bare`, `Word.ofString_eq_plain_iff`). -/

namespace SchemaPool

open SchemaPool.Text

namespace Word

/-- A long option with its value behind an equals sign. -/
def assigning (name text : String) : String := "--" ++ name ++ "=" ++ text

/-- A long option whose value, if it has one, is another argument. -/
def bare (name : String) : String := "--" ++ name

/-- Not an option: the argument does not begin with a dash, or is nothing else. -/
def IsPlain (s : String) : Prop := s = "-" ∨ s.toList.head? ≠ some '-'

instance : DecidablePred IsPlain := fun _ => inferInstanceAs (Decidable (_ ∨ _))

variable {s name text : String}

/-! ## Options -/

theorem ofString_long {rest : List Char} (filled : rest ≠ [])
    (chars : s.toList = '-' :: '-' :: rest) :
    ofString s = match cut? ['='] rest with
      | some (name, value) => long (String.ofList name) (some (String.ofList value))
      | none => long (String.ofList rest) none := by
  rw [ofString, chars]
  cases rest with
  | nil => exact absurd rfl filled
  | cons c rest => rfl

theorem ofString_assigning (unequal : '=' ∉ name.toList) (text : String) :
    ofString (assigning name text) = .long name (some text) := by
  have cut : cut? ['='] (name.toList ++ '=' :: text.toList) = some (name.toList, text.toList) :=
    cut?_singleton_eq_some_iff.2 ⟨rfl, unequal⟩
  have chars : (assigning name text).toList =
      '-' :: '-' :: (name.toList ++ '=' :: text.toList) := by
    simp [assigning]
  rw [ofString_long (by simp) chars, cut]
  simp

theorem ofString_bare (unequal : '=' ∉ name.toList) (filled : name.toList ≠ []) :
    ofString (bare name) = .long name none := by
  have uncut : cut? ['='] name.toList = none := by
    cases cut : cut? ['='] name.toList with
    | none => rfl
    | some pieces =>
      rw [(cut?_singleton_eq_some_iff.1 cut).1] at unequal
      simp at unequal
  have chars : (bare name).toList = '-' :: '-' :: name.toList := by simp [bare]
  rw [ofString_long filled chars, uncut]
  simp

theorem eq_assigning (told : ofString s = .long name (some text)) : s = assigning name text := by
  rw [ofString] at told
  split at told
  · cases told
  · next rest _ chars =>
    split at told
    · next before behind cut =>
      cases told
      rw [(cut?_singleton_eq_some_iff.1 cut).1] at chars
      exact String.toList_inj.1 (by simp [chars, assigning])
    · cases told
  · cases told
  · cases told

theorem eq_bare (told : ofString s = .long name none) : s = bare name := by
  rw [ofString] at told
  split at told
  · cases told
  · next rest _ chars =>
    split at told
    · cases told
    · cases told
      exact String.toList_inj.1 (by simp [chars, bare])
  · cases told
  · cases told

/-! ## What is no option -/

theorem eq_dashes (told : ofString s = .dashes) : s = "--" := by
  rw [ofString] at told
  split at told
  · next chars => exact String.toList_inj.1 chars
  · split at told <;> cases told
  · cases told
  · cases told

theorem ofString_eq_plain_iff : ofString s = .plain ↔ IsPlain s := by
  constructor
  · intro told
    rw [ofString] at told
    split at told
    · cases told
    · split at told <;> cases told
    · cases told
    · next other =>
      by_cases dash : s.toList.head? = some '-'
      · obtain ⟨rest, chars⟩ := List.head?_eq_some_iff.1 dash
        cases rest with
        | nil => exact .inl (String.toList_inj.1 chars)
        | cons c cs => exact absurd chars (other c cs)
      · exact .inr dash
  · rintro (rfl | plain)
    · rfl
    · rw [ofString]
      split <;> simp_all

end Word

namespace CliOption

theorem ofFlag?_eq_some_iff {name : String} {o : CliOption} :
    ofFlag? name = some o ↔ name = o.flag := by
  constructor
  · intro found
    have same := List.find?_some (p := fun o : CliOption => o.flag == name) found
    exact (eq_of_beq same).symm
  · rintro rfl
    cases o <;> decide

theorem mem_all (o : CliOption) : o ∈ all := by
  cases o <;> decide

theorem unequal_flag (o : CliOption) : '=' ∉ o.flag.toList := by
  cases o <;> decide

theorem filled_flag (o : CliOption) : o.flag.toList ≠ [] := by
  cases o <;> decide

@[simp] theorem ofString_assigning_flag (o : CliOption) (text : String) :
    Word.ofString (Word.assigning o.flag text) = .long o.flag (some text) :=
  Word.ofString_assigning o.unequal_flag text

@[simp] theorem ofString_bare_flag (o : CliOption) :
    Word.ofString (Word.bare o.flag) = .long o.flag none :=
  Word.ofString_bare o.unequal_flag o.filled_flag

@[simp] theorem ofFlag?_flag (o : CliOption) : ofFlag? o.flag = some o :=
  ofFlag?_eq_some_iff.2 rfl

end CliOption

end SchemaPool
