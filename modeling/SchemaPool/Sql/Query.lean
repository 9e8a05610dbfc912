import SchemaPool.Failure.Basic
import SchemaPool.Sql.Label

/-! # Described queries

A query carries the text to run and, optionally, a name for the log.  The name
never takes part in running it. -/

namespace SchemaPool.Sql

open SchemaPool.Text (isBlank)

/-- A statement with an optional name. -/
structure Query where
  name : Option String
  text : Option String
deriving DecidableEq, Repr

namespace Query

def empty : Query := ⟨none, none⟩

def ofText (text : String) : Query := ⟨none, some text⟩

def named (name : String) : Query := ⟨some name, none⟩

def withName (q : Query) (name : String) : Query := { q with name := some name }

def withText (q : Query) (text : String) : Query := { q with text := some text }

/-- The text to run, which must not be blank. -/
def sql (q : Query) : Except Failure String :=
  match q.text with
  | some text => if isBlank text then .error (.invalidArgument .blankStatement) else .ok text
  | none => .error (.invalidArgument .blankStatement)

/-- The label for the log: the name if there is one, else what the text shows. -/
def label (q : Query) : Label :=
  match q.name with
  | some name => if name = "" then ofTextLabel else Label.ofName name
  | none => ofTextLabel
where
  -- The label that the text gives.
  ofTextLabel : Label :=
    match q.text with
    | some text => Label.ofText text
    | none => Label.unknown

end Query

end SchemaPool.Sql
