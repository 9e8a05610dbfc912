import SchemaPool.Database.Script
import SchemaPool.Json.Basic

/-! # Scripts of databases as structured values

A script is an object with the lists `connects` and `rules`.  Whatever is missing
has its plain meaning: no time, no error, no limit.  What hangs lasts longer than
any limit. -/

namespace SchemaPool

namespace Json

/-- The value of a member, where null means that there is none. -/
def given? (v : Json) (name : String) : Option Json :=
  match v.field? name with
  | some null => none
  | other => other

def natOrZero (v : Json) (name : String) : Nat := ((v.given? name).bind nat?).getD 0

def textOrEmpty (v : Json) (name : String) : String := ((v.given? name).bind str?).getD ""

def isSet (v : Json) (name : String) : Bool := ((v.given? name).bind bool?).getD false

def itemsOrNone (v : Json) (name : String) : List Json := ((v.given? name).bind items?).getD []

end Json

def ServerError.ofJson (v : Json) : ServerError := ⟨v.textOrEmpty "code", v.textOrEmpty "message"⟩

/-- The time that something takes, in nanoseconds. -/
def Json.lasting (v : Json) : Nat := if v.isSet "hang" then never else v.natOrZero "us" * 1000

def Attempt.ofJson (v : Json) : Attempt where
  nanos := v.lasting
  realNanos := v.natOrZero "real_ms" * 1000000
  reception :=
    match v.given? "error" with
    | some e => .refused (.ofJson e)
    | none => .accepted

def Reaction.ofJson (v : Json) : Reaction where
  nanos := v.lasting
  reply :=
    if v.isSet "close" then .lost
    else
      match v.given? "error" with
      | some e => .refused (.ofJson e)
      | none =>
        let rows := (v.itemsOrNone "rows").map fun row => (row.items?.getD []).map Json.str?
        .table
          { columns := (v.itemsOrNone "columns").filterMap Json.str?
            rows
            affected := ((v.given? "affected").bind Json.nat?).getD rows.length }
  losesAfter := v.isSet "close_after"

def Rule.ofJson (v : Json) : Rule where
  needle := v.textOrEmpty "match"
  connection := (v.given? "conn").bind Json.nat?
  uses := (v.given? "times").bind Json.nat?
  reaction := .ofJson v

def Server.ofJson (v : Json) : Server :=
  .ofScript ((v.itemsOrNone "connects").map Attempt.ofJson)
    ((v.itemsOrNone "rules").map Rule.ofJson)

end SchemaPool
