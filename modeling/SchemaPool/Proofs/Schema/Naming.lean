import SchemaPool.Proofs.Schema.Statements
import SchemaPool.Proofs.Sql.Quoting
import SchemaPool.Proofs.Text.Trimming
import SchemaPool.Settings.Codec

/-! # What schema names stand for

A schema name is a text that has been trimmed.  Each text gives at most one name, which is what is
left of it between the blanks at its ends, and none just if it is blank; this is so whether the
name is made from a text or read from a structured value.  Every name gives itself back
(`SchemaName.names_are_trimmed_texts`). -/

namespace SchemaPool.SchemaName

open SchemaPool.Text

theorem eq_of_text_eq {s t : SchemaName} (same : s.text = t.text) : s = t := by
  cases s
  cases t
  cases same
  rfl

theorem ofString_eq_ok_iff {a : String} {s : SchemaName} : ofString a = .ok s ↔ s.text = trim a := by
  constructor
  · exact text_of_ofString
  · intro same
    have filled : trim a ≠ "" := same ▸ s.nonempty
    rw [ofString, dif_neg filled, Except.ok.injEq]
    exact eq_of_text_eq same.symm

theorem ofString_eq_error_iff {a : String} {f : Failure} :
    ofString a = .error f ↔ isBlank a = true ∧ f = .invalidArgument .blankSchema := by
  rw [← trim_eq_empty_iff, ofString]
  split
  · next empty =>
    constructor
    · rintro ⟨⟩
      exact ⟨empty, rfl⟩
    · rintro ⟨-, rfl⟩
      rfl
  · next filled =>
    constructor
    · intro named
      cases named
    · rintro ⟨empty, -⟩
      exact absurd empty filled

/-- A name depends on the text only through what is left when it is trimmed. -/
theorem ofString_congr {a b : String} (same : trim a = trim b) : ofString a = ofString b := by
  cases named : ofString b with
  | ok s => rw [ofString_eq_ok_iff, same, text_of_ofString named]
  | error f =>
    rw [ofString_eq_error_iff, ← trim_eq_empty_iff] at named ⊢
    rwa [same]

theorem ofString_text (s : SchemaName) : ofString s.text = .ok s :=
  ofString_eq_ok_iff.2 s.trimmed.symm

theorem ofString_eq_ofString_iff {a b : String} :
    ofString a = ofString b ↔ (isBlank a = true ∧ isBlank b = true) ∨ trim a = trim b := by
  constructor
  · intro same
    cases named : ofString b with
    | ok s =>
      rw [named] at same
      exact .inr ((text_of_ofString same).symm.trans (text_of_ofString named))
    | error f =>
      rw [named] at same
      exact .inl ⟨(ofString_eq_error_iff.1 same).1, (ofString_eq_error_iff.1 named).1⟩
  · rintro (⟨first, second⟩ | same)
    · rw [ofString_eq_error_iff.2 ⟨first, rfl⟩, ofString_eq_error_iff.2 ⟨second, rfl⟩]
    · exact ofString_congr same

/-- Blanks around a text do not change the name that it gives. -/
theorem ofString_padded {left right : String} (before : isBlank left = true)
    (after : isBlank right = true) (a : String) : ofString (left ++ a ++ right) = ofString a := by
  apply ofString_congr
  rw [trim, trim, String.toList_append, String.toList_append,
    trimChars_padded (Sql.isBlank_iff.1 before) (Sql.isBlank_iff.1 after)]

theorem ofJson?_eq_some_iff {v : Json} {r : Except Failure SchemaName} :
    ofJson? v = some r ↔ ∃ a, v = .str a ∧ ofString a = r := by
  cases v <;> simp [ofJson?, Json.str?]

theorem ofJson?_toJson (s : SchemaName) : ofJson? s.toJson = some (.ok s) :=
  ofJson?_eq_some_iff.2 ⟨s.text, rfl, ofString_text s⟩

/-! ## The texts of names -/

/-- The text without the blanks at its ends. -/
structure Frames (core text : String) : Prop where
  padded : ∃ left right, isBlank left = true ∧ isBlank right = true ∧ text = left ++ core ++ right
  begins : ∀ c ∈ core.toList.head?, isBlankChar c = false
  ends : ∀ c ∈ core.toList.getLast?, isBlankChar c = false

theorem frames_trim (a : String) : Frames (trim a) a where
  padded := by
    obtain ⟨left, right, before, after, whole⟩ := exists_padding a.toList
    refine ⟨.ofList left, .ofList right, ?_, ?_, ?_⟩
    · simpa [Sql.isBlank_iff] using before
    · simpa [Sql.isBlank_iff] using after
    · rw [← String.toList_inj]
      simpa using whole
  begins := by
    rw [toList_trim]
    exact head?_trimChars _
  ends := by
    rw [toList_trim]
    exact getLast?_trimChars _

/-- A text gives no name just if it is blank, and then always for the same reason; a name that it
gives is the text without the blanks at its ends.  From a structured value a name is read just as
it is made from the text that the value is.  The text of every name is not empty and has no blank
at either end, all statements can be made from it, and the name is given back by its text and by
its structured form.  Two texts give the same name just if both give none or nothing but the blanks
at their ends differs; blanks put around a text never change what it gives. -/
theorem names_are_trimmed_texts :
    (∀ a f, ofString a = .error f ↔ isBlank a = true ∧ f = .invalidArgument .blankSchema) ∧
    (∀ a s, ofString a = .ok s → Frames s.text a) ∧
    (∀ v r, ofJson? v = some r ↔ ∃ a, v = .str a ∧ ofString a = r) ∧
    (∀ s : SchemaName, s.text ≠ "" ∧ Frames s.text s.text ∧
      (∃ q, s.quoted = .ok q) ∧ (∃ create, s.createStatement = .ok create) ∧
      (∃ path, s.searchPathStatement = .ok path) ∧
      ofString s.text = .ok s ∧ ofJson? s.toJson = some (.ok s)) ∧
    (∀ a b, ofString a = ofString b ↔ (isBlank a = true ∧ isBlank b = true) ∨ trim a = trim b) ∧
    ∀ left a right, isBlank left = true → isBlank right = true →
      ofString (left ++ a ++ right) = ofString a := by
  refine ⟨fun a f => ofString_eq_error_iff, fun a s named => ?_, fun v r => ofJson?_eq_some_iff,
    fun s => ?_, fun a b => ofString_eq_ofString_iff, fun left a right before after =>
      ofString_padded before after a⟩
  · rw [text_of_ofString named]
    exact frames_trim a
  · have framed := frames_trim s.text
    rw [s.trimmed] at framed
    exact ⟨s.nonempty, framed, ⟨_, s.quoted_eq⟩, ⟨_, s.createStatement_eq⟩,
      ⟨_, s.searchPathStatement_eq⟩, ofString_text s, ofJson?_toJson s⟩

/-- Blanks within a name stay, and those around it go. -/
theorem names_are_trimmed_texts_of_padded : ∃ s,
    ofString "a\u00a0b" = .ok s ∧ Frames s.text "a\u00a0b" ∧
      ofString ("\u3000\n" ++ "a\u00a0b" ++ "\t ") = .ok s := by
  obtain ⟨-, frames, -, -, -, padded⟩ := names_are_trimmed_texts
  cases named : ofString "a\u00a0b" with
  | error f =>
    have blank := (ofString_eq_error_iff.1 named).1
    exact absurd blank (by decide +kernel)
  | ok s =>
    have same := padded "\u3000\n" "a\u00a0b" "\t " (by decide +kernel) (by decide +kernel)
    exact ⟨s, rfl, frames _ _ named, same.trans named⟩

end SchemaPool.SchemaName
