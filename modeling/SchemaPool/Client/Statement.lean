import SchemaPool.Client.Basic

/-! # Statements on a connection

A statement is known to the driver before it reaches the database and after its
answer has come back, also when the connection is lost.  A described query is one
labelled unit; a transaction's statements stand for themselves. -/

namespace SchemaPool

open SchemaPool.Sql (Query)

/-- A statement as it is sent, and as the driver shows it to the timer. -/
structure Statement where
  text : String
  shown : String
deriving DecidableEq, Repr

namespace Statement

def plain (text : String) : Statement := ⟨text, text⟩

/-- A statement that is shown with its list of values. -/
def withBinds (text binds : String) : Statement := ⟨text, text ++ bindMark ++ "[" ++ binds ++ "]"⟩

def built (text : String) : Statement := withBinds text ""

def check : Statement := withBinds "SELECT $1" "1"

end Statement

def Reply.result : Reply → Except QueryError Table
  | .table t => .ok t
  | .refused error => .error error.toQueryError
  | .lost => .error .connectionLost

def Reaction.loses (r : Reaction) : Bool :=
  r.losesAfter ||
    match r.reply with
    | .lost => true
    | _ => false

def errorText {α : Type} : Except QueryError α → Option String
  | .ok _ => none
  | .error e => some e.message

namespace Client

def finish {α : Type} (link : Link) (shown : String) (result : Except QueryError α) :
    ClientM Link := do
  let (timed, report) := link.timed.finishStatement (← now) shown (errorText result)
  deliver report
  return { link with timed }

def react (link : Link) (text : String) : ClientM Reaction := do
  let c ← get
  let (reaction, server) := c.around.server.react link.number text
  set { c with around := { c.around with server } }
  record (.sent link.number text)
  return reaction

/-- Sends a statement and waits for its answer, but no longer than the limit; there
is no result if that is reached first. -/
def sendWithin (limit : Option Nat) (link : Link) (s : Statement) :
    ClientM (Link × Option (Except QueryError Table)) := do
  let link := { link with timed := link.timed.startStatement (← now) s.shown }
  if link.lost then
    let result := .error .connectionLost
    return (← finish link s.shown result, some result)
  let reaction ← react link s.text
  if isLate reaction.nanos limit then
    pass (limit.getD 0)
    return (link, none)
  pass reaction.nanos
  let result := reaction.reply.result
  let link ← finish { link with lost := reaction.loses } s.shown result
  return (link, some result)

def send (link : Link) (s : Statement) : ClientM (Link × Except QueryError Table) := do
  -- Without a limit there is always a result.
  let (link, result) ← sendWithin none link s
  return (link, result.getD (.error .connectionLost))

def batch (link : Link) (text : String) : ClientM (Link × Except QueryError Unit) := do
  let (link, result) ← send link (.plain text)
  return (link, result.map fun _ => ())

/-- Sends a statement of the query builder; the result is the number of affected
rows. -/
def execute (link : Link) (text : String) : ClientM (Link × Except QueryError Nat) := do
  let (link, result) ← send link (.built text)
  return (link, result.map (·.affected))

/-! ## Rows -/

def readColumn (columns : List String) (name : String) (row : List (Option String)) :
    Except QueryError String :=
  match columns.findIdx? (· == name) with
  | none =>
    .error (.deserialization ("Column \x60" ++ name ++ "\x60 was not present in query"))
  | some i =>
    match (row[i]?).join with
    | some value => .ok value
    | none => .error (.deserialization "Unexpected null for non-null column")

def readColumns (names : List String) (t : Table) : Except QueryError (List (List String)) :=
  t.rows.mapM fun row => names.mapM fun name => readColumn t.columns name row

/-- Sends a statement of the query builder; the result is the texts in some columns
of its rows. -/
def load (names : List String) (link : Link) (text : String) :
    ClientM (Link × Except QueryError (List (List String))) := do
  let (link, result) ← send link (.built text)
  return (link, result.bind (readColumns names))

/-! ## Labelled units -/

/-- Runs a piece of work on a connection as one labelled unit. -/
def runUnit {α : Type} (link : Link) (query : Query)
    (work : Link → ClientM (Link × Except QueryError α)) (rows : α → Produced) :
    ClientM (Link × Except QueryError α) := do
  let (timed, u) := link.timed.openUnit (← now)
  let (link, result) ← work { link with timed }
  let outcome :=
    match result with
    | .ok a => Outcome.completed (rows a).rowCount
    | .error e => Outcome.failed e.message
  let (timed, report) := link.timed.closeUnit u (← now) query outcome
  deliver report
  return ({ link with timed }, result)

def runQuery {α : Type} (link : Link) (query : Query)
    (work : Link → String → ClientM (Link × Except QueryError α)) (rows : α → Produced) :
    ClientM (Link × Except Failure α) := do
  match query.sql with
  | .error f => return (link, .error f)
  | .ok text =>
    let (link, result) ← runUnit link query (fun link => work link text) rows
    return (link, result.mapError Failure.query)

def executeQuery (link : Link) (query : Query) : ClientM (Link × Except Failure Nat) :=
  runQuery link query execute .count

def loadQuery (names : List String) (link : Link) (query : Query) :
    ClientM (Link × Except Failure (List (List String))) :=
  runQuery link query (load names) fun rows => .rows rows.length

/-! ## Transactions -/

/-- Statements up to the first that fails; the result is the number of rows that
all of them affected. -/
def executeAll (link : Link) (total : Nat) :
    List String → ClientM (Link × Except QueryError Nat)
  | [] => return (link, .ok total)
  | text :: texts => do
    match ← execute link text with
    | (link, .ok n) => executeAll link (total + n) texts
    | (link, .error e) => return (link, .error e)

/-- Ends a transaction whose body has failed: with the body's failure if the
changes could be rolled back, else with the reason why not. -/
def rollback (link : Link) (f : Failure) : ClientM (Link × Except Failure Nat) := do
  match ← batch link "ROLLBACK" with
  | (link, .ok ()) => return (link, .error f)
  | (link, .error e) => return ({ link with stuck := true }, .error (.query e))

/-- Runs statements in a transaction, which is committed if all of them succeed and
the caller does not call it off, and rolled back otherwise. -/
def transaction (link : Link) (body : List String) (callOff : Option String) :
    ClientM (Link × Except Failure Nat) := do
  if link.stuck then return (link, .error (.query .brokenTransaction))
  match ← batch link "BEGIN" with
  | (link, .error e) => return (link, .error (.query e))
  | (link, .ok ()) =>
    match ← executeAll link 0 body, callOff with
    | (link, .error e), _ => rollback link (.query e)
    | (link, .ok _), some reason => rollback link (.unexpected reason)
    | (link, .ok total), none =>
      match ← batch link "COMMIT" with
      | (link, .ok ()) => return (link, .ok total)
      | (link, .error e) => return (link, .error (.query e))

end Client

end SchemaPool
