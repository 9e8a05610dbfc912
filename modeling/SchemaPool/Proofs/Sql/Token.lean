import SchemaPool.Schema.Name

/-! # The tokens of a statement

What a database makes of the text of a statement: words, quoted identifiers and single
characters, with blanks between them.  A quoted identifier begins with a quote and ends with
the first quote that is not doubled; inside it nothing but quotes means anything.  One that is
never closed spoils the whole statement.

The main result is that a quoted name is read back whole (`tokens?_quoteChars`): whatever
characters the name has, its identifier ends neither before nor after its last quote. -/

namespace SchemaPool.Sql

/-- A token of a statement. -/
inductive Token where
  | word (text : String)
  | identifier (name : String)
  | symbol (c : Char)
deriving DecidableEq, Repr

namespace Token

def isSpace (c : Char) : Bool := c ∈ [' ', '\t', '\n', '\x0b', '\x0c', '\r']

/-- The characters of unquoted words; all letters beyond the basic ones are among them. -/
def isWordPart (c : Char) : Bool := c.isAlphanum || c == '_' || c == '$' || 0x80 ≤ c.toNat

/-- The name up to the first quote that is not doubled, and what follows that quote. -/
def closing? : List Char → Option (List Char × List Char)
  | [] => none
  | '"' :: '"' :: cs => (closing? cs).map fun (name, rest) => ('"' :: name, rest)
  | '"' :: cs => some ([], cs)
  | c :: cs => (closing? cs).map fun (name, rest) => (c :: name, rest)

theorem length_lt_of_closing? {cs name rest : List Char} (closed : closing? cs = some (name, rest)) :
    rest.length < cs.length := by
  fun_induction closing? cs generalizing name with
  | case1 => cases closed
  | case2 cs ih =>
    obtain ⟨⟨name', rest'⟩, found, same⟩ := Option.map_eq_some_iff.1 closed
    cases same
    have shorter := ih found
    simp only [List.length_cons]
    omega
  | case3 cs =>
    cases closed
    exact Nat.lt_succ_self _
  | case4 c cs _ _ ih =>
    obtain ⟨⟨name', rest'⟩, found, same⟩ := Option.map_eq_some_iff.1 closed
    cases same
    exact Nat.lt_succ_of_lt (ih found)

end Token

open Token

/-- The tokens of a text, unless a quoted identifier in it is never closed. -/
def tokens? : List Char → Option (List Token)
  | [] => some []
  | c :: cs =>
    if isSpace c then tokens? cs
    else if c = '"' then
      match _closed : closing? cs with
      | none => none
      | some (name, rest) => (tokens? rest).map (.identifier (String.ofList name) :: ·)
    else if isWordPart c then
      (tokens? (cs.dropWhile isWordPart)).map
        (.word (String.ofList (c :: cs.takeWhile isWordPart)) :: ·)
    else (tokens? cs).map (.symbol c :: ·)
termination_by cs => cs.length
decreasing_by
  · exact Nat.lt_succ_self _
  · exact Nat.lt_succ_of_lt (length_lt_of_closing? _closed)
  · exact Nat.lt_succ_of_le (List.dropWhile_suffix isWordPart).length_le
  · exact Nat.lt_succ_self _

/-! ## Words and blanks -/

theorem tokens?_space {c : Char} (space : isSpace c = true) (cs : List Char) :
    tokens? (c :: cs) = tokens? cs := by
  rw [tokens?, if_pos space]

theorem tokens?_symbol {c : Char} (space : isSpace c = false) (quote : c ≠ '"')
    (part : isWordPart c = false) (cs : List Char) :
    tokens? (c :: cs) = (tokens? cs).map (.symbol c :: ·) := by
  rw [tokens?, space, part]
  simp [quote]

/-- A word that is not empty. -/
def isWord (text : String) : Bool := text.toList ≠ [] && text.toList.all isWordPart

theorem isSpace_eq_false_of_isWordPart {c : Char} (part : isWordPart c = true) :
    isSpace c = false ∧ c ≠ '"' := by
  constructor
  · cases space : isSpace c with
    | false => rfl
    | true =>
      simp only [isSpace, List.mem_cons, List.not_mem_nil, or_false, decide_eq_true_eq] at space
      rcases space with rfl | rfl | rfl | rfl | rfl | rfl <;> exact absurd part (by decide)
  · intro quote
    subst quote
    exact absurd part (by decide)

/-- A word ends with the first character that cannot belong to it. -/
theorem tokens?_word {text : String} (word : isWord text = true) {rest : List Char}
    (ends : ∀ c ∈ rest.head?, isWordPart c = false) :
    tokens? (text.toList ++ rest) = (tokens? rest).map (.word text :: ·) := by
  have begun : rest.takeWhile isWordPart = [] ∧ rest.dropWhile isWordPart = rest := by
    cases rest with
    | nil => exact ⟨rfl, rfl⟩
    | cons c cs =>
      have stops : isWordPart c = false := ends c rfl
      simp [stops]
  simp only [isWord, Bool.and_eq_true, decide_eq_true_eq] at word
  obtain ⟨filled, parts⟩ := word
  cases chars : text.toList with
  | nil => exact absurd chars filled
  | cons c cs =>
    rw [chars, List.all_cons, Bool.and_eq_true] at parts
    obtain ⟨first, others⟩ := parts
    obtain ⟨space, quote⟩ := isSpace_eq_false_of_isWordPart first
    have all : ∀ d ∈ cs, isWordPart d = true := List.all_eq_true.1 others
    have taken : (cs ++ rest).takeWhile isWordPart = cs := by
      rw [List.takeWhile_append_of_pos all, begun.1, List.append_nil]
    have left : (cs ++ rest).dropWhile isWordPart = rest := by
      rw [List.dropWhile_append_of_pos all, begun.2]
    have whole : String.ofList (c :: cs) = text := by rw [← chars, String.ofList_toList]
    rw [List.cons_append, tokens?, if_neg (by simp [space]), if_neg quote, if_pos first, taken,
      left, whole]

/-- The words of a phrase, each with a blank after it. -/
def phrase (words : List String) : List Char := words.flatMap fun word => word.toList ++ [' ']

theorem tokens?_phrase {words : List String} (all : ∀ word ∈ words, isWord word = true)
    (rest : List Char) :
    tokens? (phrase words ++ rest) = (tokens? rest).map (words.map .word ++ ·) := by
  induction words with
  | nil => simp [phrase]
  | cons word words ih =>
    have first : phrase (word :: words) ++ rest =
        word.toList ++ ' ' :: (phrase words ++ rest) := by simp [phrase]
    have ends : ∀ c ∈ (' ' :: (phrase words ++ rest)).head?, isWordPart c = false := by
      intro c blank
      cases blank
      decide
    rw [first, tokens?_word (all word List.mem_cons_self) ends, tokens?_space (by decide),
      ih fun word member => all word (List.mem_cons_of_mem _ member), Option.map_map]
    rfl

/-! ## Quoted identifiers -/

/-- Doubled quotes never close the identifier, and the quote after them does, provided that no
other quote follows it. -/
theorem closing?_doubleQuotes (name : List Char) {rest : List Char}
    (ends : rest.head? ≠ some '"') :
    closing? (doubleQuotes name ++ '"' :: rest) = some (name, rest) := by
  induction name with
  | nil =>
    cases rest with
    | nil => rfl
    | cons c cs =>
      have other : c ≠ '"' := fun same => ends (by rw [same]; rfl)
      simp [doubleQuotes, closing?, other]
  | cons c cs ih =>
    by_cases quote : c = '"'
    · simp [doubleQuotes, quote, closing?, ih]
    · simp [doubleQuotes, quote, closing?, ih]

/-- A quoted name is one token, which is the name, and reading goes on right after it. -/
theorem tokens?_quoteChars (name : String) {rest : List Char} (ends : rest.head? ≠ some '"') :
    tokens? (quoteChars name.toList ++ rest) = (tokens? rest).map (.identifier name :: ·) := by
  have opened : quoteChars name.toList ++ rest =
      '"' :: (doubleQuotes name.toList ++ '"' :: rest) := by simp [quoteChars]
  rw [opened, tokens?, if_neg (by decide), if_pos rfl]
  split
  · next unclosed =>
    rw [closing?_doubleQuotes _ ends] at unclosed
    cases unclosed
  · next name' rest' closed =>
    rw [closing?_doubleQuotes _ ends] at closed
    cases closed
    rw [String.ofList_toList]

end SchemaPool.Sql
