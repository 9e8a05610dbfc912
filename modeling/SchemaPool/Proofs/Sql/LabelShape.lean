import Mathlib.Data.List.Basic
import SchemaPool.Proofs.Sql.Labelling

/-! # The shape of labels

A label goes into a log line, so it must neither break the line nor be taken for several words of
it.  Every label is the operation alone, or the operation, one space and a table name without
quotes; neither part holds a blank, and only a blank statement is labelled `unknown`
(`Label.ofText_canonical`).

The operation is in upper case, and some characters expand when they are put in upper case.  No
other character ever becomes a blank or a small letter of ASCII on the way
(`eq_of_mem_uppercaseChar`), which is a matter of the whole table of cases. -/

namespace SchemaPool.Sql

open SchemaPool.Text

/-! ## What upper case cannot bring about -/

/-- The blanks and the small letters of ASCII. -/
def unfit : CharRanges := ⟨(smallLetters.first, smallLetters.last) :: blankCharacters.ranges⟩

theorem unfit_of_isBlankChar {c : Char} (blank : isBlankChar c = true) :
    unfit.contains c = true := by
  rw [isBlankChar, CharRanges.contains_iff] at blank
  obtain ⟨range, member, within⟩ := blank
  exact CharRanges.contains_iff.2 ⟨range, List.mem_cons_of_mem _ member, within⟩

theorem covers_iff_isLower {c : Char} : smallLetters.covers c.toNat = true ↔ c.isLower = true := by
  delta Char.isLower
  simp only [CaseRun.covers, Bool.and_eq_true, decide_eq_true_eq, ge_iff_le,
    UInt32.le_iff_toNat_le, Char.toNat_val]
  simp [smallLetters, Nat.mod_one]

theorem unfit_of_isLower {c : Char} (lower : c.isLower = true) : unfit.contains c = true := by
  have within := covers_iff_isLower.2 lower
  simp only [CaseRun.covers, Bool.and_eq_true, decide_eq_true_eq] at within
  exact CharRanges.contains_iff.2 ⟨_, List.mem_cons_self, within.1⟩

theorem toNat_ofNat (n : Nat) : (Char.ofNat n).toNat = n ∨ (Char.ofNat n).toNat = 0 := by
  by_cases valid : n.isValidChar
  · left
    rw [Char.ofNat, dif_pos valid]
    rfl
  · right
    rw [Char.ofNat, dif_neg valid]
    rfl

theorem unfit_of_expansion {p : Nat × List Nat} (member : p ∈ caseExpansions) {d : Char}
    (expanded : d ∈ p.2.map Char.ofNat) : unfit.contains d = false := by
  have all : ∀ p ∈ caseExpansions, ∀ n ∈ p.2, unfit.contains (Char.ofNat n) = false := by
    decide +kernel
  obtain ⟨n, code, rfl⟩ := List.mem_map.1 expanded
  exact all p member n code

/-- A run has its upper case wholly below or wholly above each range of unfit characters. -/
theorem unfit_of_covers {run : CaseRun} (member : run ∈ caseRuns) {n : Nat}
    (covered : run.covers n = true) :
    unfit.contains (Char.ofNat (n + run.shift).toNat) = false := by
  have all : ∀ run ∈ caseRuns, ∀ range ∈ unfit.ranges,
      run.last + run.shift < range.1 ∨ range.2 < run.first + run.shift := by decide +kernel
  have positive : ∀ range ∈ unfit.ranges, 0 < range.1 := by decide
  simp only [CaseRun.covers, Bool.and_eq_true, decide_eq_true_eq] at covered
  rw [Bool.eq_false_iff, ne_eq, CharRanges.contains_iff]
  rintro ⟨range, ranged, within⟩
  have apart := all run member range ranged
  have start := positive range ranged
  have code := toNat_ofNat (n + run.shift).toNat
  omega

/-- An unfit character is the upper case of no other character, and of itself only if no run says
otherwise. -/
theorem eq_of_mem_uppercaseChar {c d : Char} (spared : unfit.contains d = true)
    (member : d ∈ uppercaseChar c) : d = c ∧ ∀ run ∈ caseRuns, run.covers c.toNat = false := by
  unfold uppercaseChar at member
  split at member
  · next codes expansion =>
    obtain ⟨before, after, all, -⟩ := List.lookup_eq_some_iff.1 expansion
    have listed : (c.toNat, codes) ∈ caseExpansions := by simp [all]
    simp [unfit_of_expansion listed member] at spared
  · split at member
    · next run found =>
      rw [List.mem_singleton.1 member,
        unfit_of_covers (List.mem_of_find?_eq_some found)
          (List.find?_some (p := (CaseRun.covers · c.toNat)) found)] at spared
      cases spared
    · next missing =>
      exact ⟨List.mem_singleton.1 member, fun run listed => by
        simpa using List.find?_eq_none.1 missing run listed⟩

theorem isBlankChar_of_mem_uppercase {cs : List Char} (filled : ∀ c ∈ cs, isBlankChar c = false) :
    ∀ d ∈ uppercase cs, isBlankChar d = false := by
  intro d member
  obtain ⟨c, given, mapped⟩ := List.mem_flatMap.1 member
  cases blank : isBlankChar d with
  | false => rfl
  | true =>
    have same := (eq_of_mem_uppercaseChar (unfit_of_isBlankChar blank) mapped).1
    rw [← blank, same]
    exact filled c given

theorem isLower_of_mem_uppercase (cs : List Char) : ∀ d ∈ uppercase cs, d.isLower = false := by
  intro d member
  obtain ⟨c, -, mapped⟩ := List.mem_flatMap.1 member
  cases lower : d.isLower with
  | false => rfl
  | true =>
    obtain ⟨rfl, missed⟩ := eq_of_mem_uppercaseChar (unfit_of_isLower lower) mapped
    have covered := covers_iff_isLower.2 lower
    rw [missed smallLetters List.mem_cons_self] at covered
    cases covered

theorem uppercaseChar_ne_nil (c : Char) : uppercaseChar c ≠ [] := by
  have filled : ∀ p ∈ caseExpansions, p.2 ≠ [] := by decide
  unfold uppercaseChar
  split
  · next codes expansion =>
    obtain ⟨before, after, all, -⟩ := List.lookup_eq_some_iff.1 expansion
    have listed : (c.toNat, codes) ∈ caseExpansions := by simp [all]
    simpa using filled _ listed
  · split <;> simp

theorem uppercase_ne_nil {cs : List Char} (filled : cs ≠ []) : uppercase cs ≠ [] := by
  cases cs with
  | nil => exact absurd rfl filled
  | cons c cs => simp [uppercaseChar_ne_nil]

/-! ## Operation and table -/

/-- The characters of a table name once its quotes are left out. -/
def isTableLetter (c : Char) : Bool := c.isAlphanum || c ∈ ['_', '.', '\u017f', '\u212a']

theorem isTableLetter_of_isNamePart {c : Char} (part : isNamePart c = true) (other : c ≠ '"') :
    isTableLetter c = true := by
  simp_all [isNamePart, isTableLetter]

theorem toNat_of_isAlphanum {c : Char} (basic : c.isAlphanum = true) :
    48 ≤ c.toNat ∧ c.toNat ≤ 122 := by
  have bounds : '0'.val.toNat = 48 ∧ '9'.val.toNat = 57 ∧ 'A'.val.toNat = 65 ∧
      'Z'.val.toNat = 90 ∧ 'a'.val.toNat = 97 ∧ 'z'.val.toNat = 122 := by decide
  delta Char.isAlphanum Char.isAlpha Char.isUpper Char.isLower Char.isDigit at basic
  simp only [Bool.or_eq_true, Bool.and_eq_true, decide_eq_true_eq, UInt32.le_iff_toNat_le,
    ge_iff_le] at basic
  rw [← Char.toNat_val]
  omega

theorem isBlankChar_of_isTableLetter {c : Char} (letter : isTableLetter c = true) :
    isBlankChar c = false := by
  rw [isTableLetter, Bool.or_eq_true, decide_eq_true_eq] at letter
  cases letter with
  | inl basic =>
    have apart : ∀ range ∈ blankCharacters.ranges, range.2 < 48 ∨ 122 < range.1 := by decide
    have within := toNat_of_isAlphanum basic
    rw [isBlankChar, Bool.eq_false_iff, ne_eq, CharRanges.contains_iff]
    rintro ⟨range, ranged, blank⟩
    have outside := apart range ranged
    omega
  | inr mark =>
    have marks : ['_', '.', '\u017f', '\u212a'].all (!isBlankChar ·) = true := by decide
    simpa using List.all_eq_true.1 marks c mark

theorem isTableLetter_of_findTable? {keyword cs written : List Char} (spaced : Spaced cs)
    (found : findTable? keyword false cs = some written) :
    ∀ c ∈ written.filter (· != '"'), isTableLetter c = true := by
  rw [findTable?_false_eq spaced] at found
  obtain ⟨place, -, rfl⟩ := Option.map_eq_some_iff.1 found
  intro c member
  obtain ⟨named, other⟩ := List.mem_filter.1 member
  exact isTableLetter_of_isNamePart (List.mem_takeWhile_imp named) (by simpa using other)

/-- An operation, with the name of a table behind it if there is one. -/
def joined (op table : List Char) : List Char := op ++ if table = [] then [] else ' ' :: table

/-- What the parts of a label have in common, whatever the statement. -/
structure Parts (op table : List Char) : Prop where
  begun : op ≠ []
  filled : ∀ c ∈ op, isBlankChar c = false
  letters : ∀ c ∈ table, isTableLetter c = true

namespace Parts

variable {op table : List Char}

theorem compact (parts : Parts op table) : ∀ c ∈ table, isBlankChar c = false :=
  fun c member => isBlankChar_of_isTableLetter (parts.letters c member)

theorem space_notMem_op (parts : Parts op table) : ' ' ∉ op := fun member => by
  simpa [isBlankChar_space] using parts.filled ' ' member

theorem space_notMem_table (parts : Parts op table) : ' ' ∉ table := fun member => by
  simpa [isBlankChar_space] using parts.compact ' ' member

theorem eq_space (parts : Parts op table) {c : Char} (member : c ∈ joined op table)
    (blank : isBlankChar c = true) : c = ' ' := by
  rw [joined, List.mem_append] at member
  cases member with
  | inl first => simp [parts.filled c first] at blank
  | inr later =>
    split at later
    · cases later
    · cases later with
      | head => rfl
      | tail _ later => simp [parts.compact c later] at blank

theorem count_space (parts : Parts op table) : (joined op table).count ' ' ≤ 1 := by
  rw [joined, List.count_append, List.count_eq_zero.2 parts.space_notMem_op]
  split <;> simp [List.count_eq_zero.2 parts.space_notMem_table]

/-- A label is cut at its space in one way only. -/
theorem eq_of_joined (parts : Parts op table) {op' table' : List Char}
    (same : joined op table = op' ++ ' ' :: table') : op' = op ∧ table' = table ∧ table ≠ [] := by
  rw [joined] at same
  split at same
  · have member : ' ' ∈ op ++ [] := by simp [same]
    exact absurd (by simpa using member) parts.space_notMem_op
  · next some =>
    obtain ⟨rfl, -, rfl⟩ :=
      (List.append_cons_inj_of_notMem parts.space_notMem_op parts.space_notMem_table).1 same
    exact ⟨rfl, rfl, some⟩

end Parts

theorem labelChars_eq_joined {cs : List Char} (spaced : Spaced cs) :
    ∃ table, (∀ c ∈ table, isTableLetter c = true) ∧
      labelChars cs = joined (operation cs) table := by
  rw [labelChars]
  cases found : findTable? (tableKeyword (operation cs)) false cs with
  | none => exact ⟨[], by simp [joined]⟩
  | some written =>
    refine ⟨written.filter (· != '"'), isTableLetter_of_findTable? spaced found, ?_⟩
    cases named : written.filter (· != '"') <;> simp [joined, named]

/-- The first word of a statement is its operation. -/
theorem operation_line {cs first : List Char} {others : List (List Char)}
    (all : words cs = first :: others) :
    operation (line (first :: others)) = uppercase first := by
  have member : first ∈ words cs := by simp [all]
  rw [operation_eq, takeWhile_line (words_filled member).2]

theorem words_eq_nil_iff {cs : List Char} :
    words cs = [] ↔ ∀ c ∈ cs, isBlankChar c = true := by
  induction cs with
  | nil => simp [words]
  | cons c cs ih =>
    cases blank : isBlankChar c with
    | true => simp [words_blank, blank, ih]
    | false =>
      have some : words (c :: cs) ≠ [] := by
        cases cs with
        | nil => simp [words_singleton blank]
        | cons d ds =>
          cases next : isBlankChar d with
          | true => simp [words_end blank next]
          | false =>
            obtain ⟨w, ws, -, outer⟩ := words_within blank next ds
            simp [outer]
      simp [some, blank]

/-- Only the label of a blank statement has an operation with small letters. -/
theorem Label.toList_ofText (text : String) : ∃ op table,
    (Label.ofText text).text.toList = joined op table ∧ Parts op table ∧
      if words text.toList = [] then op = "unknown".toList ∧ table = []
      else ∀ c ∈ op, c.isLower = false := by
  rw [Label.ofText, normalize_eq_line]
  cases all : words text.toList with
  | nil =>
    have plain : "unknown".toList.all (!isBlankChar ·) = true := by decide
    have filled : ∀ c ∈ "unknown".toList, isBlankChar c = false := fun c member => by
      simpa using List.all_eq_true.1 plain c member
    exact ⟨"unknown".toList, [], rfl, ⟨by simp, filled, by simp⟩, by simp⟩
  | cons first others =>
    have spaced := spaced_normalize text.toList
    have member : first ∈ words text.toList := by simp [all]
    obtain ⟨some, filled⟩ := words_filled member
    rw [normalize_eq_line, all] at spaced
    obtain ⟨table, letters, shape⟩ := labelChars_eq_joined spaced
    rw [operation_line all] at shape
    refine ⟨uppercase first, table, ?_,
      ⟨uppercase_ne_nil some, isBlankChar_of_mem_uppercase filled, letters⟩, ?_⟩
    · split
      · exact absurd ‹_› (line_ne_nil all)
      · simpa using shape
    · simpa using isLower_of_mem_uppercase first

/-! ## Labels in a log line -/

/-- A label holds no blank but at most one space.  The space stands between an operation, in which
there are no small letters of ASCII, and the name of a table, in which there are no quotes; neither
is empty.  The label is `unknown` just if the statement is blank, and statements of the same words
have the same label, whatever blanks stand between and around the words. -/
theorem Label.ofText_canonical (text : String) :
    let label := (Label.ofText text).text.toList
    (∀ c ∈ label, isBlankChar c = true → c = ' ') ∧ label.count ' ' ≤ 1 ∧
    (∀ op table, label = op ++ ' ' :: table →
      op ≠ [] ∧ (∀ c ∈ op, c.isLower = false) ∧
        table ≠ [] ∧ ∀ c ∈ table, isTableLetter c = true) ∧
    (label = "unknown".toList ↔ ∀ c ∈ text.toList, isBlankChar c = true) ∧
    ∀ other, words other.toList = words text.toList → Label.ofText other = Label.ofText text := by
  intro label
  obtain ⟨op, table, shape, parts, small⟩ := Label.toList_ofText text
  change label = _ at shape
  rw [shape]
  refine ⟨fun c => parts.eq_space, parts.count_space, fun op' table' same => ?_, ?_,
    fun other same => ?_⟩
  · obtain ⟨rfl, rfl, some⟩ := parts.eq_of_joined same
    have given : words text.toList ≠ [] := by
      intro blank
      rw [if_pos blank] at small
      exact some small.2
    rw [if_neg given] at small
    exact ⟨parts.begun, small, some, parts.letters⟩
  · rw [← words_eq_nil_iff]
    constructor
    · intro same
      by_contra given
      rw [if_neg given] at small
      obtain ⟨c, op, rfl⟩ := List.exists_cons_of_ne_nil parts.begun
      obtain rfl : c = 'u' := (List.cons.inj same).1
      exact absurd (small 'u' List.mem_cons_self) (by decide)
    · intro blank
      rw [if_pos blank] at small
      simp [joined, small]
  · rw [Label.ofText, Label.ofText, normalize_eq_line, normalize_eq_line, same]

/-- An operation that expands in upper case and a table with a letter beyond ASCII, between blanks
of several kinds. -/
theorem Label.ofText_canonical_of_expanding :
    let label := Label.ofText "\u2003ﬁnd\u00a0 fRom\u2028\"ſtock\".\"items\" "
    label.text.toList = "FIND".toList ++ ' ' :: "ſtock.items".toList ∧
    (∀ c ∈ "FIND".toList, c.isLower = false) ∧
    (∀ c ∈ "ſtock.items".toList, isTableLetter c = true) ∧
    Label.ofText "ﬁnd fRom \"ſtock\".\"items\"" = label := by
  have shape : (Label.ofText "\u2003ﬁnd\u00a0 fRom\u2028\"ſtock\".\"items\" ").text.toList =
      "FIND".toList ++ ' ' :: "ſtock.items".toList := by decide +kernel
  obtain ⟨-, -, split, -, alike⟩ :=
    Label.ofText_canonical "\u2003ﬁnd\u00a0 fRom\u2028\"ſtock\".\"items\" "
  obtain ⟨-, small, -, letters⟩ := split _ _ shape
  exact ⟨shape, small, letters, alike _ (by decide +kernel)⟩

end SchemaPool.Sql
