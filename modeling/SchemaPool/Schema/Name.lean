import SchemaPool.Failure.Basic
import SchemaPool.Text.Blank

/-! # Schema names

An identifier is written between double quotes and every quote inside it is
doubled, so that any text that is not blank can name a schema or a table and
none can end the identifier early.

The name of the schema in which unqualified table names are looked up is trimmed
and not empty, and both are part of the type, so that its quoted form always
exists. -/

/-! ## Quoted identifiers -/

namespace SchemaPool.Sql

open SchemaPool.Text (isBlank)

def doubleQuotes : List Char → List Char
  | [] => []
  | c :: cs => if c = '"' then '"' :: '"' :: doubleQuotes cs else c :: doubleQuotes cs

def quoteChars (cs : List Char) : List Char := '"' :: doubleQuotes cs ++ ['"']

/-- The quoted identifier of a name, which must not be blank. -/
def quote (name : String) : Except Failure String :=
  if isBlank name then .error (.invalidArgument .blankIdentifier)
  else .ok (String.ofList (quoteChars name.toList))

theorem quote_of_not_blank {name : String} (h : isBlank name = false) :
    quote name = .ok (String.ofList (quoteChars name.toList)) := by
  simp [quote, h]

end SchemaPool.Sql

/-! ## Names -/

namespace SchemaPool

open SchemaPool.Text (trim isBlank trim_trim trim_eq_empty_iff)

/-- A trimmed and nonempty schema name. -/
structure SchemaName where
  text : String
  trimmed : trim text = text
  nonempty : text ≠ ""

namespace SchemaName

instance : DecidableEq SchemaName := fun a b =>
  if h : a.text = b.text then
    .isTrue (by cases a; cases b; cases h; rfl)
  else .isFalse (fun hab => h (congrArg text hab))

def ofString (s : String) : Except Failure SchemaName :=
  if h : trim s = "" then .error (.invalidArgument .blankSchema)
  else .ok ⟨trim s, trim_trim s, h⟩

/-- The schema of a database that was never told about schemas. -/
def defaultText : String := "public"

theorem trim_defaultText : trim defaultText = defaultText := by decide +kernel

def standard : SchemaName := ⟨defaultText, trim_defaultText, by decide⟩

def isDefault (n : SchemaName) : Bool := n.text == defaultText

theorem isBlank_text (n : SchemaName) : isBlank n.text = false := by
  have h := n.nonempty
  rw [← n.trimmed] at h
  simpa using fun hb => h (trim_eq_empty_iff.2 hb)

def quoted (n : SchemaName) : Except Failure String := Sql.quote n.text

/-- The statement that creates the schema; the default schema needs none. -/
def createStatement (n : SchemaName) : Except Failure (Option String) :=
  if n.isDefault then .ok none
  else n.quoted.map fun name => some ("CREATE SCHEMA IF NOT EXISTS " ++ name)

/-- The statement by which a session looks tables up in the schema first, and in
the default schema after it. -/
def searchPathStatement (n : SchemaName) : Except Failure String :=
  n.quoted.map fun name =>
    if n.isDefault then "SET search_path TO " ++ name
    else "SET search_path TO " ++ name ++ ", public"

/-- Quoting cannot fail, because a name is never blank. -/
theorem quoted_eq (n : SchemaName) :
    n.quoted = .ok (String.ofList (Sql.quoteChars n.text.toList)) :=
  Sql.quote_of_not_blank n.isBlank_text

theorem createStatement_eq (n : SchemaName) :
    n.createStatement = .ok (if n.isDefault then none
      else some ("CREATE SCHEMA IF NOT EXISTS " ++
        String.ofList (Sql.quoteChars n.text.toList))) := by
  rw [createStatement, quoted_eq]
  split <;> rfl

/-- Only the default schema needs no creation. -/
theorem isDefault_of_createStatement {n : SchemaName} {create : Option String}
    (created : n.createStatement = .ok create) : n.isDefault = create.isNone := by
  rw [createStatement_eq] at created
  cases created
  cases n.isDefault <;> rfl

theorem searchPathStatement_eq (n : SchemaName) :
    n.searchPathStatement = .ok (if n.isDefault then
        "SET search_path TO " ++ String.ofList (Sql.quoteChars n.text.toList)
      else "SET search_path TO " ++ String.ofList (Sql.quoteChars n.text.toList) ++
        ", public") := by
  rw [searchPathStatement, quoted_eq]
  rfl

end SchemaName

/-- Whether a failed creation only means that somebody else created the schema
first.  Two sessions may both find the schema missing; the slower one is then
refused by the catalog's unique index or told that the schema already exists. -/
def QueryError.isLostRace : QueryError → Bool
  | .database .uniqueViolation _ => true
  | .database _ message => Text.occursIn "already exists".toList message.toList
  | _ => false

end SchemaPool
