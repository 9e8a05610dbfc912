import SchemaPool.Proofs.Sql.Words

/-! # What the label of a statement is

The label of a statement can be read off its words (`Label.ofText_eq_derived`).  The operation is
the first word in upper case.  The table is what stands behind the first place at which the
keyword of the operation begins a word, has one space behind it and then a character that a table
name may have.

The scan that derives a label goes through the suffixes of the text and remembers of the part
behind it only whether that ended inside a word (`findTable?_eq`). -/

namespace SchemaPool.Sql

open SchemaPool.Text

/-! ## Letters of either case -/

/-- The small letters of ASCII. -/
def smallLetters : CaseRun := ⟨0x61, 0x7A, 1, -32⟩

/-- On the characters of ASCII the two upper-case mappings are the same. -/
theorem uppercaseChar_of_ascii {c : Char} (ascii : c.toNat < 128) :
    uppercaseChar c = [c.toUpper] := by
  have expanded : ∀ p ∈ caseExpansions, 128 ≤ p.1 := by decide
  have single : caseExpansions.lookup c.toNat = none := by
    rw [List.lookup_eq_none_iff]
    intro p member
    have far := expanded p member
    simp only [bne_iff_ne]
    omega
  have beyond : ∀ run ∈ caseRuns.tail, 128 ≤ run.first := by decide +kernel
  have later : caseRuns.tail.find? (·.covers c.toNat) = none := by
    rw [List.find?_eq_none]
    intro run member
    have far := beyond run member
    simp only [CaseRun.covers, Bool.and_eq_true, decide_eq_true_eq]
    omega
  have small : ∀ n : Fin 128, (if smallLetters.covers n then
      Char.ofNat (n + smallLetters.shift).toNat else Char.ofNat n) = (Char.ofNat n).toUpper := by
    decide
  have upper := small ⟨c.toNat, ascii⟩
  rw [Char.ofNat_toNat] at upper
  rw [uppercaseChar, single, show caseRuns = smallLetters :: caseRuns.tail from rfl,
    List.find?_cons, later, ← upper]
  cases smallLetters.covers c.toNat <;> rfl

theorem ascii_of_toUpper {c : Char} (ascii : c.toUpper.toNat < 128) : c.toNat < 128 := by
  unfold Char.toUpper at ascii
  split at ascii
  · next small =>
    have most : c.val.toNat ≤ 122 := small.2
    exact Nat.lt_of_le_of_lt most (by decide)
  · exact ascii

theorem eq_space_of_toUpper {c : Char} (same : c.toUpper = ' ') : c = ' ' := by
  have all : ∀ n : Fin 128, (Char.ofNat n).toUpper = ' ' → Char.ofNat n = ' ' := by decide
  have ascii : c.toNat < 128 := ascii_of_toUpper (by rw [same]; decide)
  simpa [same] using all ⟨c.toNat, ascii⟩

theorem uppercase_of_toUpper {cs : List Char} (ascii : ∀ c ∈ cs.map Char.toUpper, c.toNat < 128) :
    uppercase cs = cs.map Char.toUpper := by
  induction cs with
  | nil => rfl
  | cons c cs ih =>
    simp only [List.map_cons, List.forall_mem_cons] at ascii
    rw [uppercase_cons, uppercaseChar_of_ascii (ascii_of_toUpper ascii.1), ih ascii.2]
    rfl

theorem afterKeyword?_eq_some_iff {keyword cs rest : List Char} :
    afterKeyword? keyword cs = some rest ↔
      (cs.take keyword.length).map Char.toUpper = keyword ∧ cs.drop keyword.length = rest := by
  induction keyword generalizing cs with
  | nil => simp [afterKeyword?]
  | cons k ks ih =>
    cases cs with
    | nil => simp [afterKeyword?]
    | cons c cs => by_cases same : c.toUpper = k <;> simp [afterKeyword?, same, ih]

/-- A list of named subqueries has no other operation than its first word. -/
theorem operation_eq (cs : List Char) : operation cs = uppercase (cs.takeWhile (· != ' ')) := by
  cases begun : afterKeyword? "WITH ".toList cs with
  | none => rw [operation, begun]
  | some rest =>
    obtain ⟨spelled, rfl⟩ := afterKeyword?_eq_some_iff.1 begun
    -- The keyword consists of a word without a space and the space behind it.
    obtain ⟨w, gap, split, word, space⟩ :=
      List.map_eq_append_iff.1 (spelled.trans (rfl : _ = "WITH".toList ++ [' ']))
    obtain ⟨s, rfl, same⟩ := List.map_eq_singleton_iff.1 space
    have whole := List.take_append_drop "WITH ".toList.length cs
    rw [split, eq_space_of_toUpper same] at whole
    have first : cs.takeWhile (· != ' ') = w := by
      rw [← whole, List.append_assoc, List.takeWhile_append_of_pos]
      · simp
      · intro c member
        have upper := List.mem_map_of_mem (f := Char.toUpper) member
        rw [word] at upper
        have other : c ≠ ' ' := by
          rintro rfl
          exact absurd upper (by decide)
        simpa using other
    rw [operation, begun, first, uppercase_of_toUpper (by simp [word]), word]

/-! ## The place of a table -/

/-- The characters of a written table name: letters and digits of ASCII, the marks that names are
put together with, and the long s and the Kelvin sign, which are letters of ASCII in all but their
case. -/
def isNamePart (c : Char) : Bool := c.isAlphanum || c ∈ ['_', '.', '"', '\u017f', '\u212a']

/-- At this place of the text the keyword begins a word, in letters of either case, and has one
space and a character of a name behind it. -/
def StandsAt (keyword cs : List Char) (place : Nat) : Prop :=
  ((cs.drop place).take keyword.length).map Char.toUpper = keyword ∧
    (cs.take place).getLast?.any isWordCharacter = false ∧
    cs[place + keyword.length]? = some ' ' ∧
    cs[place + keyword.length + 1]?.any isNamePart = true

instance (keyword cs : List Char) (place : Nat) : Decidable (StandsAt keyword cs place) :=
  inferInstanceAs (Decidable (_ ∧ _ ∧ _ ∧ _))

/-- The written name behind the keyword at this place and one space. -/
def nameBehind (keyword cs : List Char) (place : Nat) : List Char :=
  (cs.drop (place + keyword.length + 1)).takeWhile isNamePart

theorem isTableChar_eq (c : Char) : isTableChar c = isNamePart c := by
  have letters : c.isAlphanum =
      (('A' ≤ c && c ≤ 'Z') || ('a' ≤ c && c ≤ 'z') || ('0' ≤ c && c ≤ '9')) := by
    delta Char.isAlphanum Char.isAlpha Char.isUpper Char.isLower Char.isDigit
    simp [Char.le_def]
  rw [Bool.eq_iff_iff]
  simp [isTableChar, isNamePart, letters, or_assoc]

theorem standsAt_append (keyword pre cs : List Char) :
    StandsAt keyword (pre ++ cs) pre.length ↔
      pre.getLast?.any isWordCharacter = false ∧ StandsAt keyword cs 0 := by
  have later (n : Nat) : (pre ++ cs)[pre.length + n]? = cs[n]? := by
    simp [List.getElem?_append_right]
  simp [StandsAt, Nat.add_assoc, later, and_left_comm]

theorem nameBehind_append (keyword pre cs : List Char) :
    nameBehind keyword (pre ++ cs) pre.length = nameBehind keyword cs 0 := by
  simp [nameBehind, Nat.add_assoc, List.drop_length_add_append]

variable {keyword : List Char}

theorem tableAt?_eq {cs : List Char} (spaced : Spaced cs) :
    tableAt? keyword cs =
      if StandsAt keyword cs 0 then some (nameBehind keyword cs 0) else none := by
  have standing : StandsAt keyword cs 0 ↔ (cs.take keyword.length).map Char.toUpper = keyword ∧
      (cs.drop keyword.length)[0]? = some ' ' ∧
        (cs.drop keyword.length)[1]?.any isNamePart = true := by
    simp [StandsAt]
  have named : isTableChar = isNamePart := funext isTableChar_eq
  rw [tableAt?]
  cases begun : afterKeyword? keyword cs with
  | none =>
    have other : ¬ StandsAt keyword cs 0 := fun stands => by
      simpa [begun] using afterKeyword?_eq_some_iff.2 ⟨(standing.1 stands).1, rfl⟩
    rw [if_neg other]
  | some rest =>
    obtain ⟨spelled, rest_eq⟩ := afterKeyword?_eq_some_iff.1 begun
    have gaps : Spaced rest := rest_eq ▸ spaced.drop keyword.length
    have behind : nameBehind keyword cs 0 = (rest.drop 1).takeWhile isNamePart := by
      simp [nameBehind, ← rest_eq]
    rw [behind, named]
    -- In a text without double blanks, skipping blanks after the keyword is skipping one space.
    simp only [standing, spelled, rest_eq, true_and]
    cases rest with
    | nil => simp
    | cons gap more =>
      cases blank : isBlankChar gap with
      | false =>
        have other : gap ≠ ' ' := by
          rintro rfl
          simp [isBlankChar_space] at blank
        simp [blank, other]
      | true =>
        obtain ⟨rfl, next⟩ := gaps.1 blank
        simp only [blank, if_true, trimLeft_of_head next]
        cases more with
        | nil => simp
        | cons c cs => cases part : isNamePart c <;> simp [part]

theorem findTable?_eq (pre : List Char) {cs : List Char} (spaced : Spaced cs) :
    findTable? keyword (pre.getLast?.any isWordCharacter) cs =
      ((List.range' pre.length cs.length).find? (StandsAt keyword (pre ++ cs) ·)).map
        (nameBehind keyword (pre ++ cs)) := by
  -- The scan has passed `pre`, so the induction is on what is left of the text.
  induction cs generalizing pre with
  | nil => rfl
  | cons c cs ih =>
    have later := ih (pre ++ [c]) spaced.2
    simp only [List.getLast?_concat, Option.any_some, List.length_append, List.length_singleton,
      List.append_assoc, List.singleton_append] at later
    have stands := standsAt_append keyword pre (c :: cs)
    rw [findTable?, later, List.length_cons, List.range'_succ, List.find?_cons]
    cases inWord : pre.getLast?.any isWordCharacter with
    | true =>
      have other : ¬ StandsAt keyword (pre ++ c :: cs) pre.length := by simp [stands, inWord]
      simp [other]
    | false =>
      by_cases found : StandsAt keyword (c :: cs) 0
      · simp [tableAt?_eq spaced, found, stands, inWord, nameBehind_append]
      · simp [tableAt?_eq spaced, found, stands, inWord]

/-- A whole text is scanned for the first place that counts. -/
theorem findTable?_false_eq {cs : List Char} (spaced : Spaced cs) :
    findTable? keyword false cs =
      ((List.range cs.length).find? (StandsAt keyword cs ·)).map (nameBehind keyword cs) := by
  simpa [List.range_eq_range'] using findTable?_eq [] spaced

/-! ## Labels from words -/

/-- The label that the words of a statement give it. -/
def Label.derived (text : String) : Label :=
  match words text.toList with
  | [] => ⟨"unknown"⟩
  | first :: others =>
    let op := uppercase first
    let cs := line (first :: others)
    let keyword :=
      if op = "INSERT".toList then "INTO".toList
      else if op = "UPDATE".toList then "UPDATE".toList
      else "FROM".toList
    match (List.range cs.length).find? (StandsAt keyword cs ·) with
    | none => ⟨String.ofList op⟩
    | some place =>
      let table := (nameBehind keyword cs place).filter (· != '"')
      ⟨String.ofList (if table = [] then op else op ++ ' ' :: table)⟩

/-- The label of a statement is the one that its words give it. -/
theorem Label.ofText_eq_derived (text : String) : Label.ofText text = Label.derived text := by
  rw [Label.ofText, Label.derived, normalize_eq_line]
  cases all : words text.toList with
  | nil => rfl
  | cons first others =>
    have filled : line (first :: others) ≠ [] := line_ne_nil all
    have op : operation (line (first :: others)) = uppercase first := by
      rw [operation_eq, takeWhile_line]
      exact (words_filled (by rw [all]; exact List.mem_cons_self)).2
    have spaced : Spaced (line (first :: others)) := by
      rw [← all, ← normalize_eq_line]
      exact spaced_normalize _
    simp only [labelChars, op, tableKeyword, findTable?_false_eq spaced]
    cases (List.range (line (first :: others)).length).find? _ with
    | none => rfl
    | some place =>
      simp only [Option.map_some]
      generalize List.filter _ _ = table
      cases table with
      | nil => rfl
      | cons c cs => rfl

/-- Quotes of a written name are left out, and the schema stays. -/
example : Label.derived "insert\n into  \"a\".b (c)" = ⟨"INSERT a.b"⟩ := by decide +kernel

/-- A place with a name of quotes alone counts, and hides all others. -/
example : Label.derived "DELETE FROM \"\" FROM t" = ⟨"DELETE"⟩ := by decide +kernel

end SchemaPool.Sql
