import SchemaPool.Client.Statement

/-! # Borrowing connections

A connection is lent from those at rest if one of them passes its check, and is
opened anew otherwise.  Every new connection has its session prepared before
anybody gets it; a connection that is lent again does not.

From the moment at which a caller may have a connection until it has one, or has
failed to get one, nothing else happens: checking the connections at rest, opening
a new one and handing it over are one step.  So a close finds callers that still
wait or that already have their connection, never one in between. -/

namespace SchemaPool

/-- A connection that has been lent, and the real time that opening it cost, in
nanoseconds. -/
structure Lent where
  link : Link
  realNanos : Nat

namespace Client

/-- The setup of a new connection's session. -/
def prepare (link : Link) : ClientM Link := do
  let setup := (← get).setup
  note [⟨.trace, .connection, "Preparing session for new pooled connection",
    [("hook", .text "post_create"), ("schema", .text setup.schema.text),
      ("is_broken", .flag link.isBroken)]⟩]
  let (timed, entries) := setup.instrument link.timed
  note entries
  let (link, result) ← batch { link with timed } setup.statement
  record (.prepared link.number result.isOk)
  let (setup, entry) := setup.conclude result
  modify fun c => { c with setup }
  note [entry]
  return link

def attemptEntry (server : String) (refusal : Option ServerError) : LogEntry :=
  match refusal with
  | none =>
    ⟨.debug, .connection, "Opened a connection for the schema pool",
      [("hook", .text "setup_callback"), ("server", .text server)]⟩
  | some e =>
    ⟨.error, .connection, "Could not open a connection for the schema pool",
      [("hook", .text "setup_callback"), ("server", .text server), ("error", .text e.message)]⟩

def openLink : ClientM (Except AcquireError Lent) := do
  let c ← get
  let (attempt, number, server) := c.around.server.connect
  set { c with around := { c.around with server } }
  if isLate attempt.nanos c.borrowLimit then
    pass (c.borrowLimit.getD 0)
    return .error (.timeout .create)
  pass attempt.nanos
  match attempt.reception with
  | .refused e =>
    note [attemptEntry c.settings.maskedUrl (some e)]
    return .error (.connect (.setup e.toQueryError))
  | .accepted =>
    note [attemptEntry c.settings.maskedUrl none]
    record (.opened number)
    let link ← prepare (.new number)
    return .ok ⟨link, attempt.realNanos⟩

/-- Checks a connection at rest; one that fails is of no more use. -/
def checkLink (link : Link) : ClientM (Option Link) := do
  note [⟨.trace, .connection, "Returning schema connection to the pool",
    [("hook", .text "pre_recycle"), ("instrumented", .flag link.timed.timing.isTimed),
      ("is_broken", .flag link.isBroken), ("recycle_count", .number link.recycled)]⟩]
  if link.isBroken then
    note [⟨.warn, .connection, "Schema connection returned broken",
      [("hook", .text "pre_recycle"), ("recycle_count", .number link.recycled)]⟩]
    return none
  match ← sendWithin (← get).checkLimit link .check with
  | (link, some (.ok _)) =>
    if link.isBroken then
      note [⟨.error, .connection, "Recycled schema connection is unusable",
        [("hook", .text "post_recycle"), ("instrumented", .flag link.timed.timing.isTimed),
          ("recycle_count", .number link.recycled)]⟩]
    return some { link with recycled := link.recycled + 1 }
  | _ => return none

/-- The first of the connections at rest that passes its check, with those behind
it. -/
def firstUsable : List Link → ClientM (Option Link × List Link)
  | [] => return (none, [])
  | link :: rest => do
    match ← checkLink link with
    | some link => return (some link, rest)
    | none =>
      record (.discarded link.number)
      firstUsable rest

def take : ClientM (Except AcquireError Lent) := do
  let (found, rest) ← firstUsable (← get).pool.idle
  modify fun c => { c with pool := { c.pool with idle := rest } }
  let result ←
    match found with
    | some link => pure (.ok ⟨link, 0⟩)
    | none => openLink
  match result with
  | .error e => return .error e
  | .ok lent =>
    record (.lent lent.link.number lent.link.timed.timing)
    modify fun c => { c with pool := { c.pool with lent := c.pool.lent + 1 } }
    return .ok lent

/-- Borrows a connection.  When all are lent out it waits as long as it may; a
caller that may wait for ever does not call. -/
def acquire : ClientM (Except AcquireError Lent) := do
  let c ← get
  if c.pool.closed then return .error .closed
  if c.pool.isExhausted then
    pass (c.borrowLimit.getD 0)
    return .error (.timeout .wait)
  take

def release (link : Link) : ClientM Unit := do
  record (.returned link.number)
  modify fun c => { c with pool := c.pool.giveBack link }

def borrowingEntry : LogEntry := ⟨.trace, .connection, "Acquiring connection from pool", []⟩

def noteBorrowed (result : Except AcquireError Lent) : ClientM (Except Failure Link) := do
  match result with
  | .error e =>
    note ([⟨.error, .connection, "Failed to acquire connection from pool",
      [("error", .text e.message)]⟩] ++ e.notes)
    return .error (.ofAcquire e)
  | .ok lent =>
    if 100000000 < lent.realNanos then
      note [⟨.warn, .connection, "Connection acquisition took longer than expected", []⟩]
    note [⟨.trace, .connection, "Connection acquired successfully", []⟩]
    return .ok lent.link

def borrow : ClientM (Except Failure Link) := do
  note [borrowingEntry]
  noteBorrowed (← acquire)

/-- Closes the pool: nothing is lent any more. -/
def close : ClientM Unit := do
  note [⟨.info, .client, "Closing database connection pool", []⟩]
  record .poolClosed
  modify fun c => { c with pool := c.pool.close }

def withLink {α : Type} (work : Link → ClientM (Link × Except Failure α)) :
    ClientM (Except Failure α) := do
  match ← borrow with
  | .error f => return .error f
  | .ok link =>
    let (timed, _) := link.timed.instrument (← get).setup.monitor
    let (link, result) ← work { link with timed }
    release link
    return result

def executeSql (query : Sql.Query) : ClientM (Except Failure Nat) :=
  withLink (executeQuery · query)

def loadSql (names : List String) (query : Sql.Query) :
    ClientM (Except Failure (List (List String))) :=
  withLink (loadQuery names · query)

end Client

end SchemaPool
