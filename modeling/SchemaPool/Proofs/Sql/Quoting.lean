import SchemaPool.Proofs.Sql.Token

/-! # What quoting an identifier comes to

Quoting fails on blank names alone.  On all others it is undone by leaving out the outer quotes
and reading every doubled quote as one, and a lexer that meets the quoted name in front of any
text that begins with no quote reads just the name.

Conversely every text between two quotes in which all other quotes are doubled is the quoted form
of what it stands for, unless that is blank.  So quoting is injective, and its image is known
exactly (`quote_encodes_exactly`). -/

namespace SchemaPool.Sql

open SchemaPool.Text (isBlank isBlankChar)

/-! ## Reading quotes back -/

/-- The text with every doubled quote read as one, from left to right. -/
def undouble : List Char → List Char
  | [] => []
  | '"' :: '"' :: cs => '"' :: undouble cs
  | c :: cs => c :: undouble cs

/-- What is left without the first and the last character, with doubled quotes read as one. -/
def unquote (s : String) : String := String.ofList (undouble s.toList.tail.dropLast)

/-- A text whose quotes occur only in doubled pairs. -/
inductive Paired : List Char → Prop where
  | nil : Paired []
  | pair {cs : List Char} (rest : Paired cs) : Paired ('"' :: '"' :: cs)
  | plain {c : Char} {cs : List Char} (other : c ≠ '"') (rest : Paired cs) : Paired (c :: cs)

/-- A text that stands between two quotes. -/
def enclosed (body : List Char) : String := String.ofList ('"' :: body ++ ['"'])

/-- The quoted identifier at the beginning of a text, and what follows it. -/
def identifier? : List Char → Option (List Char × List Char)
  | '"' :: cs => Token.closing? cs
  | _ => none

theorem undouble_plain {c : Char} (other : c ≠ '"') (cs : List Char) :
    undouble (c :: cs) = c :: undouble cs := by
  rw [undouble]
  rintro _ rfl rfl
  exact absurd rfl other

theorem undouble_doubleQuotes (cs : List Char) : undouble (doubleQuotes cs) = cs := by
  induction cs with
  | nil => rfl
  | cons c cs ih =>
    by_cases quote : c = '"'
    · simp [doubleQuotes, quote, undouble, ih]
    · simp [doubleQuotes, quote, undouble_plain quote, ih]

theorem paired_doubleQuotes (cs : List Char) : Paired (doubleQuotes cs) := by
  induction cs with
  | nil => exact .nil
  | cons c cs ih =>
    by_cases quote : c = '"'
    · rw [doubleQuotes, if_pos quote]
      exact .pair ih
    · rw [doubleQuotes, if_neg quote]
      exact .plain quote ih

/-- What is read from paired quotes is written with the same pairs. -/
theorem doubleQuotes_undouble {body : List Char} (paired : Paired body) :
    doubleQuotes (undouble body) = body := by
  induction paired with
  | nil => rfl
  | pair _ ih => simp [undouble, doubleQuotes, ih]
  | plain other _ ih => simp [undouble_plain other, doubleQuotes, other, ih]

/-! ## Quoted names -/

theorem enclosed_doubleQuotes (name : String) :
    enclosed (doubleQuotes name.toList) = String.ofList (quoteChars name.toList) := rfl

theorem unquote_enclosed (body : List Char) :
    unquote (enclosed body) = String.ofList (undouble body) := by
  simp [unquote, enclosed]

theorem enclosed_injective {body body' : List Char} (same : enclosed body = enclosed body') :
    body = body' := by
  have chars := congrArg String.toList same
  simpa [enclosed] using chars

theorem isBlank_iff {s : String} : isBlank s = true ↔ ∀ c ∈ s.toList, isBlankChar c = true := by
  rw [isBlank, List.all_eq_true]

theorem isBlank_eq_false_iff {s : String} :
    isBlank s = false ↔ ∃ c ∈ s.toList, isBlankChar c = false := by
  rw [isBlank, List.all_eq_false]
  simp

theorem quote_eq_error_iff {s : String} :
    quote s = .error (.invalidArgument .blankIdentifier) ↔ isBlank s = true := by
  rw [quote]
  cases isBlank s <;> simp

theorem quote_eq_ok_iff {s q : String} :
    quote s = .ok q ↔ isBlank s = false ∧ enclosed (doubleQuotes s.toList) = q := by
  rw [quote, enclosed_doubleQuotes]
  cases isBlank s <;> simp

/-- The quoted name is read as the name, whatever follows it but another quote. -/
theorem identifier?_quoteChars (name : List Char) {rest : List Char}
    (ends : rest.head? ≠ some '"') :
    identifier? (quoteChars name ++ rest) = some (name, rest) := by
  have opened : quoteChars name ++ rest = '"' :: (doubleQuotes name ++ '"' :: rest) := by
    simp [quoteChars]
  rw [opened, identifier?, closing?_doubleQuotes name ends]

/-- Quoting fails just on blank names.  The quoted form of any other name is unquoted to the name,
and a lexer that meets it in front of a text that begins with no quote reads the name and leaves
that text.  Every text between quotes in which all quotes are doubled, and which does not stand for
a blank name, is the quoted form of the name that it stands for; there are no other quoted forms,
and two names never have the same. -/
theorem quote_encodes_exactly :
    (∀ s, quote s = .error (.invalidArgument .blankIdentifier) ↔
      ∀ c ∈ s.toList, isBlankChar c = true) ∧
    (∀ s, (∃ c ∈ s.toList, isBlankChar c = false) → ∃ q, quote s = .ok q ∧ unquote q = s ∧
      ∀ rest, rest.head? ≠ some '"' → identifier? (q.toList ++ rest) = some (s.toList, rest)) ∧
    (∀ body, Paired body → (∃ c ∈ undouble body, isBlankChar c = false) →
      quote (String.ofList (undouble body)) = .ok (enclosed body)) ∧
    (∀ s q, quote s = .ok q → ∃ body, Paired body ∧ enclosed body = q ∧ undouble body = s.toList ∧
      ∃ c ∈ undouble body, isBlankChar c = false) ∧
    ∀ s t q, quote s = .ok q → quote t = .ok q → s = t := by
  refine ⟨?_, ?_, ?_, ?_, ?_⟩
  · intro s
    rw [quote_eq_error_iff, isBlank_iff]
  · intro s filled
    refine ⟨_, quote_eq_ok_iff.2 ⟨isBlank_eq_false_iff.2 filled, rfl⟩, ?_, ?_⟩
    · rw [unquote_enclosed, undouble_doubleQuotes, String.ofList_toList]
    · intro rest ends
      rw [enclosed_doubleQuotes, String.toList_ofList, identifier?_quoteChars s.toList ends]
  · intro body paired filled
    rw [quote_eq_ok_iff, isBlank_eq_false_iff, String.toList_ofList, doubleQuotes_undouble paired]
    exact ⟨filled, rfl⟩
  · intro s q quoted
    obtain ⟨filled, rfl⟩ := quote_eq_ok_iff.1 quoted
    refine ⟨doubleQuotes s.toList, paired_doubleQuotes _, rfl, undouble_doubleQuotes _, ?_⟩
    rw [undouble_doubleQuotes]
    exact isBlank_eq_false_iff.1 filled
  · intro s t q first second
    have same := (quote_eq_ok_iff.1 first).2.trans (quote_eq_ok_iff.1 second).2.symm
    have names := congrArg undouble (enclosed_injective same)
    rw [undouble_doubleQuotes, undouble_doubleQuotes] at names
    exact String.toList_inj.1 names

/-- A name of quotes only, in front of the text that follows it in a search path. -/
theorem quote_encodes_exactly_of_quotes :
    ∃ q, quote "\"\"" = .ok q ∧ q = "\"\"\"\"\"\"" ∧ unquote q = "\"\"" ∧
      identifier? (q.toList ++ ", public".toList) = some (['"', '"'], ", public".toList) := by
  obtain ⟨q, quoted, unquoted, read⟩ :=
    quote_encodes_exactly.2.1 "\"\"" ⟨'"', by decide, by decide⟩
  have form : q = "\"\"\"\"\"\"" := by
    rw [← (quote_eq_ok_iff.1 quoted).2]
    decide
  exact ⟨q, quoted, form, unquoted, read ", public".toList (by decide)⟩

end SchemaPool.Sql
