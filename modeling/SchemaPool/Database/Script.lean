import SchemaPool.Failure.Database
import SchemaPool.Text.Search

/-! # Scripted databases

How a database behaves is written down as a script: what becomes of each attempt
to connect, and rules for the statements.  A statement is answered by the first
rule that fits it and has uses left.

Everything that a script describes comes to an end: a database that does not
answer is one that answers later than anybody waits who waits for a limited time
(`never`).  Whoever waits for it without a limit is past what a script can
describe. -/

namespace SchemaPool

open SchemaPool.Text (occursIn)

/-- An error as the server reports it. -/
structure ServerError where
  code : String
  message : String
deriving DecidableEq, Repr

def ServerError.toQueryError (e : ServerError) : QueryError :=
  .database (.ofCode e.code) e.message

/-- Later than any limit that can be set, in nanoseconds: limits are given in seconds by a number
of 64 bits. -/
def never : Nat := UInt64.size * 1000000000

/-- Whether something that lasts so many nanoseconds is late under a limit. -/
def isLate (nanos : Nat) (limit : Option Nat) : Bool := limit.any (· < nanos)

/-- What never comes is late for whoever waits for a limited time. -/
theorem isLate_never (limit : Option UInt64) :
    isLate never (limit.map (·.toNat * 1000000000)) = limit.isSome := by
  cases limit with
  | none => rfl
  | some seconds =>
    have sooner : seconds.toNat * 1000000000 < never :=
      Nat.mul_lt_mul_of_pos_right seconds.toNat_lt_size (by decide)
    rw [isLate, Option.map_some, Option.any_some, decide_eq_true sooner]
    rfl

/-- What becomes of an attempt to connect. -/
inductive Reception where
  | accepted
  | refused (error : ServerError)
deriving DecidableEq, Repr

/-- An attempt to connect: the time it takes and the real time that it costs, both
in nanoseconds, and what becomes of it. -/
structure Attempt where
  nanos : Nat
  realNanos : Nat
  reception : Reception
deriving DecidableEq, Repr

/-- An attempt about which the script says nothing. -/
def Attempt.plain : Attempt := ⟨0, 0, .accepted⟩

/-- The rows of an answer under their columns, and the number of rows that the
statement affected. -/
structure Table where
  columns : List String
  rows : List (List (Option String))
  affected : Nat
deriving DecidableEq, Repr

/-- What a statement is answered. -/
inductive Reply where
  | table (table : Table)
  | refused (error : ServerError)
  -- The connection is lost instead of an answer.
  | lost
deriving DecidableEq, Repr

/-- An answer with the time it takes, and whether the connection is lost right
after it. -/
structure Reaction where
  nanos : Nat
  reply : Reply
  losesAfter : Bool
deriving DecidableEq, Repr

def Reaction.plain : Reaction := ⟨0, .table ⟨[], [], 0⟩, false⟩

/-- A rule: the statements it fits and how they are answered. -/
structure Rule where
  -- A piece of text that the statement must contain.
  needle : String
  -- The only connection it is for, if it is for one.
  connection : Option Nat
  -- How many more statements it answers, if there is an end to it.
  uses : Option Nat
  reaction : Reaction
deriving DecidableEq, Repr

namespace Rule

def fits (r : Rule) (connection : Nat) (text : String) : Bool :=
  occursIn r.needle.toList text.toList && r.connection.all (· == connection) &&
    r.uses.all (0 < ·)

def used (r : Rule) : Rule := { r with uses := r.uses.map (· - 1) }

/-- The answer of the first rule that fits, and the rules after it. -/
def answer (connection : Nat) (text : String) : List Rule → Reaction × List Rule
  | [] => (.plain, [])
  | r :: rs =>
    if r.fits connection text then (r.reaction, r.used :: rs)
    else
      let (reaction, rest) := answer connection text rs
      (reaction, r :: rest)

end Rule

/-- A scripted database: the attempts to come, in order, the number of those made,
and the rules. -/
structure Server where
  script : List Attempt
  attempts : Nat
  rules : List Rule
deriving DecidableEq, Repr

namespace Server

def ofScript (script : List Attempt) (rules : List Rule) : Server := ⟨script, 0, rules⟩

def connect (s : Server) : Attempt × Nat × Server :=
  ((s.script[s.attempts]?).getD .plain, s.attempts, { s with attempts := s.attempts + 1 })

def react (s : Server) (connection : Nat) (text : String) : Reaction × Server :=
  let (reaction, rules) := Rule.answer connection text s.rules
  (reaction, { s with rules })

end Server

end SchemaPool
