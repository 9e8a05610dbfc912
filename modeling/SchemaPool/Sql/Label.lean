import SchemaPool.Text.Blank
import SchemaPool.Text.Display
import SchemaPool.Text.Search
import SchemaPool.Text.Uppercase
import SchemaPool.Text.WordCharacter

/-! # Labels of statements

A log line names a statement by a short label: the operation, in upper case,
and the table it works on.  The label of a text that holds no statement at all
is `unknown`.

The table is looked for after a keyword that depends on the operation, in the
text with its blanks squeezed.  Only the first place where the keyword stands at
the beginning of a word and has something like a table name behind it counts. -/

namespace SchemaPool.Sql

open SchemaPool.Text

/-- A short name of a statement for the log. -/
structure Label where
  text : String
deriving DecidableEq, Repr

def Label.unknown : Label := ⟨"unknown"⟩

def Label.ofName (name : String) : Label := ⟨name⟩

def Label.view (l : Label) : String := "QueryLabel(" ++ quoted l.text ++ ")"

/-! ## Squeezing -/

/-- The text with every run of blanks replaced by one space; `inGap` says that a
space for the current run has been written. -/
def squeeze (inGap : Bool) : List Char → List Char
  | [] => []
  | c :: cs =>
    if isBlankChar c then
      if inGap then squeeze true cs else ' ' :: squeeze true cs
    else c :: squeeze false cs

def normalize (cs : List Char) : List Char := trimChars (squeeze false cs)

/-! ## The operation -/

/-- What follows a keyword, in upper or lower case letters of ASCII, at the
beginning of a text. -/
def afterKeyword? : List Char → List Char → Option (List Char)
  | [], cs => some cs
  | _ :: _, [] => none
  | k :: ks, c :: cs => if c.toUpper = k then afterKeyword? ks cs else none

/-- The operation of a normalized text: its first word in upper case.  A list of
named subqueries is recognized by its own keyword. -/
def operation (cs : List Char) : List Char :=
  match afterKeyword? "WITH ".toList cs with
  | some _ => "WITH".toList
  | none => uppercase (cs.takeWhile (· != ' '))

def tableKeyword (op : List Char) : List Char :=
  if op = "INSERT".toList then "INTO".toList
  else if op = "UPDATE".toList then "UPDATE".toList
  else "FROM".toList

/-! ## The table -/

/-- The characters of a table name, with the quotes and dots of its written form.
The long s and the Kelvin sign count as the letters that they are case variants
of. -/
def isTableChar (c : Char) : Bool :=
  ('A' ≤ c && c ≤ 'Z') || ('a' ≤ c && c ≤ 'z') || ('0' ≤ c && c ≤ '9') ||
    c == '_' || c == '.' || c == '"' || c == '\u017f' || c == '\u212a'

/-- The written table name at the beginning of a text that starts with the
keyword, blanks and at least one character of a table name. -/
def tableAt? (keyword cs : List Char) : Option (List Char) :=
  match afterKeyword? keyword cs with
  | none => none
  | some [] => none
  | some (gap :: rest) =>
    if isBlankChar gap then
      match (trimLeft rest).takeWhile isTableChar with
      | [] => none
      | table => some table
    else none

/-- The written table name at the first place where one stands; `inWord` says
that the character before the text is a word character. -/
def findTable? (keyword : List Char) (inWord : Bool) : List Char → Option (List Char)
  | [] => none
  | c :: cs =>
    match if inWord then none else tableAt? keyword (c :: cs) with
    | some table => some table
    | none => findTable? keyword (isWordCharacter c) cs

def labelChars (cs : List Char) : List Char :=
  let op := operation cs
  match (findTable? (tableKeyword op) false cs).map (·.filter (· != '"')) with
  | some (c :: table) => op ++ ' ' :: c :: table
  | _ => op

/-- The label derived from the text of a statement. -/
def Label.ofText (text : String) : Label :=
  match normalize text.toList with
  | [] => Label.unknown
  | cs => ⟨String.ofList (labelChars cs)⟩

end SchemaPool.Sql
