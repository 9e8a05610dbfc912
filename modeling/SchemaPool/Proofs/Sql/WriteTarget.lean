import SchemaPool.Proofs.Sql.LabelShape
import SchemaPool.Proofs.Sql.Quoting
import SchemaPool.Proofs.Text.Trimming

/-! # Reading back the table of a write

A statement that deletes, inserts or updates names its table right behind its first words.  When
the table is written as a quoted identifier, the label of the statement is the operation and the
name that was quoted, without the quotes in it (`label_reads_back_quoted`), whatever the rest of
the statement says.

Put in upper case, a text without double blanks begins with the words themselves, and so all
questions about its beginning are questions about these words (`findTable?_of_lead`). -/

namespace SchemaPool.Sql

open SchemaPool.Text

/-! ## The words of a statement in letters of either case -/

/-- The text consists of these words, in letters of either case, with blanks behind each. -/
inductive Spells : List String → List Char → Prop where
  | nil : Spells [] []
  | cons {word : String} {words : List String} {w gap cs : List Char}
      (letters : w.map Char.toUpper = word.toList) (parted : gap ≠ [])
      (blank : ∀ c ∈ gap, isBlankChar c = true) (rest : Spells words cs) :
      Spells (word :: words) (w ++ gap ++ cs)

/-- A word of capital letters of ASCII. -/
def isKeyword (word : String) : Bool := word.toList ≠ [] && word.toList.all Char.isUpper

theorem toNat_of_isUpper {c : Char} (capital : c.isUpper = true) : c.toNat < 128 := by
  have basic : c.isAlphanum = true := by
    delta Char.isAlphanum Char.isAlpha
    rw [capital]
    rfl
  have bounds := toNat_of_isAlphanum basic
  omega

theorem isBlankChar_of_toUpper {c : Char} (capital : c.toUpper.isUpper = true) :
    isBlankChar c = false := by
  have all : ∀ n : Fin 128, (Char.ofNat n).toUpper.isUpper = true →
      isBlankChar (Char.ofNat n) = false := by decide
  simpa [capital] using all ⟨c.toNat, ascii_of_toUpper (toNat_of_isUpper capital)⟩

/-! ## Squeezing -/

theorem squeeze_filled {cs : List Char} (some : cs ≠ [])
    (filled : ∀ c ∈ cs, isBlankChar c = false) (inGap : Bool) (rest : List Char) :
    squeeze inGap (cs ++ rest) = cs ++ squeeze false rest := by
  induction cs generalizing inGap with
  | nil => exact absurd rfl some
  | cons c cs ih =>
    simp only [List.forall_mem_cons] at filled
    rw [List.cons_append, squeeze, filled.1]
    cases cs with
    | nil => rfl
    | cons d ds => simpa using ih (by simp) filled.2 false

theorem squeeze_true_gap {gap : List Char} (blank : ∀ c ∈ gap, isBlankChar c = true)
    (rest : List Char) : squeeze true (gap ++ rest) = squeeze true rest := by
  induction gap with
  | nil => rfl
  | cons c gap ih =>
    simp only [List.forall_mem_cons] at blank
    simp [squeeze, blank.1, ih blank.2]

theorem squeeze_false_gap {gap : List Char} (parted : gap ≠ [])
    (blank : ∀ c ∈ gap, isBlankChar c = true) (rest : List Char) :
    squeeze false (gap ++ rest) = ' ' :: squeeze true rest := by
  cases gap with
  | nil => exact absurd rfl parted
  | cons c gap =>
    simp only [List.forall_mem_cons] at blank
    simp [squeeze, blank.1, squeeze_true_gap blank.2]

/-- Once the blanks are squeezed, the text of some words is these words with one space behind each,
but for the case of letters. -/
theorem squeeze_spelled {words : List String} {begun : List Char}
    (keywords : ∀ word ∈ words, isKeyword word = true) (spells : Spells words begun) :
    ∃ front, front.map Char.toUpper = phrase words ∧
      ∀ rest, squeeze true (begun ++ rest) = front ++ squeeze true rest := by
  induction spells with
  | nil => exact ⟨[], rfl, fun _ => rfl⟩
  | @cons word words w gap cs letters parted blank _ ih =>
    simp only [List.forall_mem_cons] at keywords
    obtain ⟨front, same, squeezed⟩ := ih keywords.2
    simp only [isKeyword, Bool.and_eq_true, decide_eq_true_eq, List.all_eq_true] at keywords
    have some : w ≠ [] := by
      rintro rfl
      exact keywords.1.1 letters.symm
    have filled : ∀ c ∈ w, isBlankChar c = false := fun c member =>
      isBlankChar_of_toUpper (keywords.1.2 _ (letters ▸ List.mem_map_of_mem member))
    refine ⟨w ++ ' ' :: front, ?_, fun rest => ?_⟩
    · simp [letters, same, phrase]
    · rw [List.append_assoc, List.append_assoc, squeeze_filled some filled,
        squeeze_false_gap parted blank, squeezed, List.append_assoc, List.cons_append]

/-! ## Operation and table -/

theorem operation_of_upper {cs : List Char} {word : String} {more : List Char}
    (keyword : isKeyword word = true) (upper : cs.map Char.toUpper = word.toList ++ ' ' :: more) :
    operation cs = word.toList := by
  obtain ⟨w, gap, rfl, letters, behind⟩ := List.map_eq_append_iff.1 upper
  obtain ⟨s, cs, rfl, space, -⟩ := List.map_eq_cons_iff.1 behind
  obtain rfl := eq_space_of_toUpper space
  simp only [isKeyword, Bool.and_eq_true, decide_eq_true_eq, List.all_eq_true] at keyword
  have capital : ∀ c ∈ w, c.toUpper.isUpper = true := fun c member =>
    keyword.2 _ (letters ▸ List.mem_map_of_mem member)
  have within : ∀ c ∈ w, (c != ' ') = true := by
    intro c member
    have other : c ≠ ' ' := by
      rintro rfl
      exact absurd (capital ' ' member) (by decide)
    simpa using other
  have first : (w ++ ' ' :: cs).takeWhile (· != ' ') = w := by
    simp [List.takeWhile_append_of_pos within]
  have ascii : ∀ c ∈ w.map Char.toUpper, c.toNat < 128 := fun c member =>
    toNat_of_isUpper (keyword.2 c (letters ▸ member))
  rw [operation_eq, first, uppercase_of_toUpper ascii, letters]

theorem phrase_concat (words : List String) (word : String) :
    phrase (words ++ [word]) = phrase words ++ word.toList ++ [' '] := by
  simp [phrase]

theorem getLast?_phrase (words : List String) : ∀ c ∈ (phrase words).getLast?, c = ' ' := by
  rcases List.eq_nil_or_concat words with rfl | ⟨before, word, rfl⟩
  · simp [phrase]
  · rw [List.concat_eq_append, phrase_concat]
    simp

/-- A keyword behind some words does not stand among them, unless it is spelled there. -/
theorem not_standsAt_of_lead {lead keyword front : List Char}
    (upper : front.map Char.toUpper = lead ++ keyword ++ [' '])
    (early : ∀ place < lead.length,
      ((lead ++ keyword ++ [' ']).drop place).take keyword.length ≠ keyword)
    (tail : List Char) {place : Nat} (before : place < lead.length) :
    ¬ StandsAt keyword (front ++ tail) place := by
  intro stands
  apply early place before
  have size := congrArg List.length upper
  simp only [List.length_map, List.length_append, List.length_singleton] at size
  have fits : keyword.length ≤ (front.drop place).length := by
    rw [List.length_drop]
    omega
  rw [← upper, ← List.map_drop, ← List.map_take, ← List.take_append_of_le_length fits,
    ← List.drop_append_of_le_length (by omega)]
  exact stands.1

theorem standsAt_zero {keyword w tail : List Char} (letters : w.map Char.toUpper = keyword)
    (named : tail.head?.any isNamePart = true) : StandsAt keyword (w ++ ' ' :: tail) 0 := by
  have width : w.length = keyword.length := by rw [← letters, List.length_map]
  have next : (w ++ ' ' :: tail)[w.length + 1]? = tail.head? := by
    simp [List.getElem?_append_right, List.head?_eq_getElem?]
  simp [StandsAt, ← width, letters, next, named]

/-- A keyword behind some words has the table that stands behind it, unless it is spelled before. -/
theorem findTable?_of_lead {lead keyword front tail : List Char}
    (upper : front.map Char.toUpper = lead ++ keyword ++ [' '])
    (parted : ∀ c ∈ lead.getLast?, c = ' ')
    (early : ∀ place < lead.length,
      ((lead ++ keyword ++ [' ']).drop place).take keyword.length ≠ keyword)
    (spaced : Spaced (front ++ tail)) (named : tail.head?.any isNamePart = true) :
    findTable? keyword false (front ++ tail) = some (tail.takeWhile isNamePart) := by
  have none (place : Nat) (before : place < lead.length) :=
    not_standsAt_of_lead upper early tail before
  obtain ⟨begun, gap, rfl, words, behind⟩ := List.map_eq_append_iff.1 upper
  obtain ⟨pre, w, rfl, before, letters⟩ := List.map_eq_append_iff.1 words
  obtain ⟨s, rfl, space⟩ := List.map_eq_singleton_iff.1 behind
  obtain rfl := eq_space_of_toUpper space
  have reached : pre.length = lead.length := by rw [← before, List.length_map]
  have width : w.length = keyword.length := by rw [← letters, List.length_map]
  -- What stands before the keyword ends with a space, if it is anything at all.
  have outside : pre.getLast?.any isWordCharacter = false := by
    cases last : pre.getLast? with
    | none => rfl
    | some c =>
      have gap : c.toUpper = ' ' := parted _ (by simp [← before, last])
      obtain rfl := eq_space_of_toUpper gap
      decide +kernel
  have whole : pre ++ w ++ [' '] ++ tail = pre ++ (w ++ ' ' :: tail) := by simp
  rw [whole] at none spaced ⊢
  have found : (List.range (pre ++ (w ++ ' ' :: tail)).length).find?
      (StandsAt keyword (pre ++ (w ++ ' ' :: tail)) ·) = some pre.length := by
    rw [List.find?_range_eq_some]
    have inside : pre.length < (pre ++ (w ++ ' ' :: tail)).length := by
      simp only [List.length_append, List.length_cons]
      omega
    refine ⟨?_, List.mem_range.2 inside, fun place before => ?_⟩
    · simpa using (standsAt_append keyword pre _).2 ⟨outside, standsAt_zero letters named⟩
    · simpa using none place (reached ▸ before)
  have read : nameBehind keyword (w ++ ' ' :: tail) 0 = tail.takeWhile isNamePart := by
    simp [nameBehind, ← width]
  rw [findTable?_false_eq spaced, found, Option.map_some, nameBehind_append, read]

/-! ## Quoted tables -/

/-- The statements that begin with these words and this keyword have the operation, and their table
is looked for right behind the keyword. -/
structure Introduces (op : String) (lead : List String) (keyword : String) : Prop where
  keywords : ∀ word ∈ lead ++ [keyword], isKeyword word = true
  first : (lead ++ [keyword]).head? = some op
  table : tableKeyword op.toList = keyword.toList
  early : ∀ place < (phrase lead).length,
    ((phrase (lead ++ [keyword])).drop place).take keyword.toList.length ≠ keyword.toList

theorem filter_doubleQuotes (name : List Char) :
    (doubleQuotes name).filter (· != '"') = name.filter (· != '"') := by
  induction name with
  | nil => rfl
  | cons c cs ih => by_cases quote : c = '"' <;> simp [doubleQuotes, quote, ih]

theorem isBlankChar_of_isNamePart {c : Char} (part : isNamePart c = true) :
    isBlankChar c = false := by
  by_cases quote : c = '"'
  · rw [quote]
    decide
  · exact isBlankChar_of_isTableLetter (isTableLetter_of_isNamePart part quote)

theorem isNamePart_of_mem_quoteChars {name : List Char}
    (letters : ∀ c ∈ name, isNamePart c = true) :
    ∀ c ∈ quoteChars name, isNamePart c = true := by
  have quote : isNamePart '"' = true := by decide
  have doubled : ∀ c ∈ doubleQuotes name, isNamePart c = true := by
    induction name with
    | nil => simp [doubleQuotes]
    | cons d name ih =>
      simp only [List.forall_mem_cons] at letters
      by_cases same : d = '"' <;> simpa [doubleQuotes, same, quote, letters.1] using ih letters.2
  intro c member
  simp only [quoteChars, List.cons_append, List.mem_cons, List.mem_append, List.not_mem_nil,
    or_false] at member
  rcases member with rfl | member | rfl
  · exact quote
  · exact doubled c member
  · exact quote

theorem head?_squeeze_false {rest : List Char} (ends : ∀ c ∈ rest.head?, isNamePart c = false) :
    ∀ c ∈ (squeeze false rest).head?, isNamePart c = false := by
  cases rest with
  | nil => simp [squeeze]
  | cons d rest =>
    have space : isNamePart ' ' = false := by decide
    cases blank : isBlankChar d with
    | true => simp [squeeze, blank, space]
    | false => simpa [squeeze, blank] using ends

/-- Behind the words of a statement, a quoted table stays what it is when the blanks are squeezed,
and the rest of the statement still begins with no character of a name. -/
theorem normalize_spelled {words : List String} {begun name rest : List Char}
    (keywords : ∀ word ∈ words, isKeyword word = true) (spells : Spells words begun)
    (letters : ∀ c ∈ name, isNamePart c = true) (ends : ∀ c ∈ rest.head?, isNamePart c = false) :
    ∃ front tail, front.map Char.toUpper = phrase words ∧
      (∀ c ∈ tail.head?, isNamePart c = false) ∧
      normalize (begun ++ quoteChars name ++ rest) = front ++ (quoteChars name ++ tail) := by
  obtain ⟨front, same, squeezed⟩ := squeeze_spelled keywords spells
  have filled : ∀ c ∈ quoteChars name, isBlankChar c = false := fun c member =>
    isBlankChar_of_isNamePart (isNamePart_of_mem_quoteChars letters c member)
  have quote : isBlankChar '"' = false := by decide
  refine ⟨front, trimRight (squeeze false rest), same,
    fun c first => head?_squeeze_false ends c (head?_trimRight first), ?_⟩
  rw [normalize, trimChars, trimLeft_squeeze_false, List.append_assoc, squeezed,
    squeeze_filled (by simp [quoteChars]) filled]
  -- The text up to the closing quote is out of reach of the trimming.
  have last := trimRight_append quote (front ++ '"' :: doubleQuotes name) (squeeze false rest)
  simpa [quoteChars] using last

section

variable {op keyword : String} {lead : List String} {front : List Char}

theorem Introduces.operation_eq (introduces : Introduces op lead keyword)
    (upper : front.map Char.toUpper = phrase (lead ++ [keyword])) (behind : List Char) :
    operation (front ++ behind) = op.toList := by
  obtain ⟨others, words⟩ := List.head?_eq_some_iff.1 introduces.first
  have begins : (front ++ behind).map Char.toUpper =
      op.toList ++ ' ' :: (phrase others ++ behind.map Char.toUpper) := by
    rw [List.map_append, upper, words]
    simp [phrase]
  exact operation_of_upper (introduces.keywords op (by simp [words])) begins

theorem Introduces.findTable?_eq (introduces : Introduces op lead keyword)
    (upper : front.map Char.toUpper = phrase (lead ++ [keyword])) {name tail : List Char}
    (letters : ∀ c ∈ name, isNamePart c = true) (stops : ∀ c ∈ tail.head?, isNamePart c = false)
    (spaced : Spaced (front ++ (quoteChars name ++ tail))) :
    findTable? (tableKeyword op.toList) false (front ++ (quoteChars name ++ tail)) =
      some (quoteChars name) := by
  have early := introduces.early
  rw [phrase_concat] at upper early
  have opened : (quoteChars name ++ tail).head?.any isNamePart = true := by
    simp [quoteChars, isNamePart]
  have written : tail.takeWhile isNamePart = [] := by
    cases tail with
    | nil => rfl
    | cons c tail => simp [stops c rfl]
  rw [introduces.table, findTable?_of_lead upper (getLast?_phrase lead) early spaced opened,
    List.takeWhile_append_of_pos (isNamePart_of_mem_quoteChars letters), written,
    List.append_nil]

end

theorem ofText_introduced {op keyword begun name rest : String} {lead : List String}
    (introduces : Introduces op lead keyword) (spells : Spells (lead ++ [keyword]) begun.toList)
    (letters : ∀ c ∈ name.toList, isNamePart c = true) (named : ∃ c ∈ name.toList, c ≠ '"')
    (ends : ∀ c ∈ rest.toList.head?, isNamePart c = false) :
    Label.ofText (begun ++ String.ofList (quoteChars name.toList) ++ rest) =
      ⟨op ++ " " ++ String.ofList (name.toList.filter (· != '"'))⟩ := by
  obtain ⟨front, tail, upper, stops, normal⟩ :=
    normalize_spelled introduces.keywords spells letters ends
  have spaced := spaced_normalize (begun.toList ++ quoteChars name.toList ++ rest.toList)
  rw [normal] at spaced
  have found := introduces.findTable?_eq upper letters stops spaced
  have table : (quoteChars name.toList).filter (· != '"') = name.toList.filter (· != '"') := by
    simp [quoteChars, filter_doubleQuotes]
  have text : (begun ++ String.ofList (quoteChars name.toList) ++ rest).toList =
      begun.toList ++ quoteChars name.toList ++ rest.toList := by simp
  rw [Label.ofText, text, normal]
  split
  · next empty => exact absurd empty (by simp [quoteChars])
  · rw [labelChars]
    simp only [introduces.operation_eq upper, found, Option.map_some, table]
    cases target : name.toList.filter (· != '"') with
    | nil =>
      obtain ⟨c, member, other⟩ := named
      exact absurd (by simpa using List.filter_eq_nil_iff.1 target c member) other
    | cons c cs =>
      rw [Label.mk.injEq, ← String.toList_inj]
      simp

/-- Let a statement begin with the words `DELETE FROM`, `INSERT INTO` or `UPDATE`, in letters of
either case and with any blanks behind each, and go on with a quoted name of which some character
is no quote, and then with anything that begins with no character of a name.  Its label is the
operation and the name without its quotes. -/
theorem label_reads_back_quoted {begun name rest : String}
    (letters : ∀ c ∈ name.toList, isNamePart c = true) (named : ∃ c ∈ name.toList, c ≠ '"')
    (ends : ∀ c ∈ rest.toList.head?, isNamePart c = false) :
    ∃ q, quote name = .ok q ∧
      let label := Label.ofText (begun ++ q ++ rest)
      let table := String.ofList (name.toList.filter (· != '"'))
      (Spells ["DELETE", "FROM"] begun.toList → label = ⟨"DELETE " ++ table⟩) ∧
      (Spells ["INSERT", "INTO"] begun.toList → label = ⟨"INSERT " ++ table⟩) ∧
      (Spells ["UPDATE"] begun.toList → label = ⟨"UPDATE " ++ table⟩) := by
  have filled : isBlank name = false := by
    obtain ⟨c, member, -⟩ := named
    exact isBlank_eq_false_iff.2 ⟨c, member, isBlankChar_of_isNamePart (letters c member)⟩
  refine ⟨_, quote_of_not_blank filled, fun spells => ?_, fun spells => ?_, fun spells => ?_⟩
  · have deletion : Introduces "DELETE" ["DELETE"] "FROM" :=
      ⟨by decide, rfl, by decide, by decide⟩
    exact ofText_introduced deletion spells letters named ends
  · have insertion : Introduces "INSERT" ["INSERT"] "INTO" :=
      ⟨by decide, rfl, by decide, by decide⟩
    exact ofText_introduced insertion spells letters named ends
  · have update : Introduces "UPDATE" [] "UPDATE" := ⟨by decide, rfl, by decide, by decide⟩
    exact ofText_introduced update spells letters named ends

/-- An update of a table with quotes in its name, from another table. -/
theorem label_reads_back_quoted_of_update :
    Spells ["UPDATE"] "upDate\t\u2003".toList ∧
    ∃ q, quote "s.\"t\"" = .ok q ∧ q = "\"s.\"\"t\"\"\"" ∧
      Label.ofText ("upDate\t\u2003" ++ q ++ "\nset n = 1 FROM other") = ⟨"UPDATE s.t"⟩ := by
  have letters : "s.\"t\"".toList.all isNamePart = true := by decide
  have blank : "\t\u2003".toList.all isBlankChar = true := by decide
  have ends : ∀ c ∈ "\nset n = 1 FROM other".toList.head?, isNamePart c = false := by
    intro c first
    cases first
    decide
  have spelled : Spells ["UPDATE"] ("upDate".toList ++ "\t\u2003".toList ++ []) :=
    .cons (by decide) (by decide) (List.all_eq_true.1 blank) .nil
  obtain ⟨q, quoted, -, -, updated⟩ :=
    label_reads_back_quoted (List.all_eq_true.1 letters) ⟨'s', by decide, by decide⟩ ends
  refine ⟨spelled, q, quoted, ?_, updated spelled⟩
  rw [← (quote_eq_ok_iff.1 quoted).2]
  decide

end SchemaPool.Sql
