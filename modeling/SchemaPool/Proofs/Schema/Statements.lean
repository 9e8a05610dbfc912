import SchemaPool.Proofs.Sql.Token
import SchemaPool.Schema.Name

/-! # The statements made from a schema name

A schema name comes from outside and may hold quotes, semicolons, commas and anything else.
What a database reads in the statements made from it is fixed all the same: the words of the
statement, the trimmed name as one identifier, and the default schema after it where the
search path has a second entry (`statements_of_ofString`). -/

namespace SchemaPool.SchemaName

open SchemaPool.Sql SchemaPool.Text

/-- A statement that is made from the name. -/
def Makes (s : SchemaName) (text : String) : Prop :=
  s.searchPathStatement = .ok text ∨ s.createStatement = .ok (some text)

/-- What is to be read in the statement of a session. -/
def searchPathTokens (name : String) : List Token :=
  [.word "SET", .word "search_path", .word "TO", .identifier name] ++
    if name = defaultText then [] else [.symbol ',', .word defaultText]

/-- What is to be read in the statement that creates the schema. -/
def creationTokens (name : String) : List Token :=
  [.word "CREATE", .word "SCHEMA", .word "IF", .word "NOT", .word "EXISTS", .identifier name]

theorem isDefault_eq_true_iff {s : SchemaName} : s.isDefault = true ↔ s.text = defaultText := by
  rw [isDefault, beq_iff_eq]

theorem text_of_ofString {n : String} {s : SchemaName} (named : ofString n = .ok s) :
    s.text = trim n := by
  unfold ofString at named
  split at named
  · cases named
  · cases named
    rfl

theorem tokens?_fallback : tokens? ", public".toList = some [.symbol ',', .word defaultText] := by
  have ends : ∀ c ∈ ([] : List Char).head?, Token.isWordPart c = false := nofun
  have last : tokens? (defaultText.toList ++ []) = _ := tokens?_word (by decide) ends
  rw [List.append_nil] at last
  show tokens? (',' :: ' ' :: defaultText.toList) = _
  rw [tokens?_symbol (by decide) (by decide) (by decide), tokens?_space (by decide), last, tokens?]
  rfl

/-- A statement that begins with some words and goes on with a quoted name. -/
theorem tokens?_phrase_quoted {words : List String} {begun : String}
    (phrased : begun.toList = phrase words) (all : ∀ word ∈ words, isWord word = true)
    (name : String) (rest : List Char) (ends : rest.head? ≠ some '"') :
    tokens? ((begun ++ String.ofList (quoteChars name.toList)).toList ++ rest) =
      (tokens? rest).map (words.map .word ++ .identifier name :: ·) := by
  have chars : (begun ++ String.ofList (quoteChars name.toList)).toList ++ rest =
      phrase words ++ (quoteChars name.toList ++ rest) := by
    rw [String.toList_append, phrased, String.toList_ofList, List.append_assoc]
  rw [chars, tokens?_phrase all, tokens?_quoteChars name ends, Option.map_map]
  rfl

theorem tokens?_searchPathStatement {s : SchemaName} {text : String}
    (stated : s.searchPathStatement = .ok text) :
    tokens? text.toList = some (searchPathTokens s.text) := by
  have begun : "SET search_path TO ".toList = phrase ["SET", "search_path", "TO"] := by decide
  have read := tokens?_phrase_quoted begun (by decide) s.text
  rw [searchPathStatement_eq, Except.ok.injEq] at stated
  by_cases standard : s.isDefault = true
  · have same : s.text = defaultText := isDefault_eq_true_iff.1 standard
    have last := read [] (by simp)
    rw [List.append_nil, tokens?] at last
    rw [← stated, if_pos standard, last]
    simp [searchPathTokens, same]
  · have other : s.text ≠ defaultText := fun same => standard (isDefault_eq_true_iff.2 same)
    -- The comma after the identifier is no quote, so the identifier's last quote stands alone.
    have followed := read ", public".toList (by decide)
    rw [← String.toList_append, tokens?_fallback] at followed
    rw [← stated, if_neg standard, followed]
    simp [searchPathTokens, other]

theorem tokens?_createStatement {s : SchemaName} {text : String}
    (created : s.createStatement = .ok (some text)) :
    tokens? text.toList = some (creationTokens s.text) := by
  have begun : "CREATE SCHEMA IF NOT EXISTS ".toList =
      phrase ["CREATE", "SCHEMA", "IF", "NOT", "EXISTS"] := by decide
  have read := tokens?_phrase_quoted begun (by decide) s.text [] (by simp)
  rw [List.append_nil, tokens?] at read
  rw [createStatement_eq, Except.ok.injEq] at created
  split at created
  · cases created
  · rw [← Option.some.inj created, read]
    rfl

/-- A statement is read back to the one name that it can have been made from. -/
theorem text_eq_of_makes {s t : SchemaName} {text : String} (first : s.Makes text)
    (second : t.Makes text) : s.text = t.text := by
  cases first with
  | inl first =>
    have read := tokens?_searchPathStatement first
    cases second with
    | inl second =>
      rw [tokens?_searchPathStatement second] at read
      simp only [searchPathTokens, Option.some.injEq, List.cons_append, List.cons.injEq,
        Token.identifier.injEq] at read
      exact read.2.2.2.1.symm
    | inr second =>
      rw [tokens?_createStatement second] at read
      simp [searchPathTokens, creationTokens] at read
  | inr first =>
    have read := tokens?_createStatement first
    cases second with
    | inl second =>
      rw [tokens?_searchPathStatement second] at read
      simp [searchPathTokens, creationTokens] at read
    | inr second =>
      rw [tokens?_createStatement second] at read
      simp only [creationTokens, Option.some.injEq, List.cons.injEq, Token.identifier.injEq,
        and_true, true_and] at read
      exact read.symm

/-- Whatever name is accepted, both its statements can be made.  The session's statement is read
as the words `SET search_path TO` and the trimmed name as one identifier, followed by a comma and
the default schema just if the name is another one.  There is a statement that creates the schema
just if it is not the default, read as the words `CREATE SCHEMA IF NOT EXISTS` and the same
identifier.  No statement is made from two names that differ when trimmed. -/
theorem statements_of_ofString {n : String} {s : SchemaName} (named : ofString n = .ok s) :
    (∃ path, s.searchPathStatement = .ok path ∧
      tokens? path.toList = some
        ([.word "SET", .word "search_path", .word "TO", .identifier (trim n)] ++
          if trim n = "public" then [] else [.symbol ',', .word "public"])) ∧
    (∃ create, s.createStatement = .ok create ∧ (create = none ↔ trim n = "public") ∧
      ∀ text ∈ create, tokens? text.toList = some
        [.word "CREATE", .word "SCHEMA", .word "IF", .word "NOT", .word "EXISTS",
          .identifier (trim n)]) ∧
    ∀ m t text, ofString m = .ok t → trim m ≠ trim n → s.Makes text → ¬ t.Makes text := by
  have name : s.text = trim n := text_of_ofString named
  refine ⟨?_, ?_, ?_⟩
  · refine ⟨_, searchPathStatement_eq s, ?_⟩
    rw [← name]
    exact tokens?_searchPathStatement (searchPathStatement_eq s)
  · refine ⟨_, createStatement_eq s, ?_, ?_⟩
    · have standard := isDefault_eq_true_iff (s := s)
      rw [name] at standard
      show _ ↔ trim n = defaultText
      rw [← standard]
      split <;> simp_all
    · intro text made
      rw [← name]
      apply tokens?_createStatement
      rw [createStatement_eq, Option.mem_def.1 made]
  · intro m t text named' differs made made'
    apply differs
    rw [← name, ← text_of_ofString named']
    exact text_eq_of_makes made' made

/-- A name that tries to end its statement, with quotes at both ends, stays one identifier. -/
theorem statements_of_ofString_of_hostile : ∃ s path,
    ofString " \"\"; DROP TABLE users; --\" " = .ok s ∧ s.searchPathStatement = .ok path ∧
      path = "SET search_path TO \"\"\"\"\"; DROP TABLE users; --\"\"\", public" ∧
      tokens? path.toList = some
        [.word "SET", .word "search_path", .word "TO",
          .identifier "\"\"; DROP TABLE users; --\"", .symbol ',', .word "public"] := by
  have trimmed : trim " \"\"; DROP TABLE users; --\" " = "\"\"; DROP TABLE users; --\"" := by
    decide +kernel
  cases named : ofString " \"\"; DROP TABLE users; --\" " with
  | error f =>
    rw [ofString, dif_neg (by rw [trimmed]; decide)] at named
    cases named
  | ok s =>
    obtain ⟨⟨path, stated, read⟩, -⟩ := statements_of_ofString named
    refine ⟨s, path, rfl, stated, ?_, ?_⟩
    · have name := text_of_ofString named
      rw [trimmed] at name
      rw [searchPathStatement_eq, isDefault, name, Except.ok.injEq] at stated
      rw [← stated]
      decide +kernel
    · rw [read, trimmed]
      decide +kernel

end SchemaPool.SchemaName
