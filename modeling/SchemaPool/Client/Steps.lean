import SchemaPool.Client.Command

/-! # What users of a client do

The steps that users take, one after another, with named slots for the connections that they
have borrowed.  Another user's step can fall into a borrowing only while the borrower still waits
for a connection to come free (`Meanwhile`); what it does then to get that connection is not
divided further. -/

namespace SchemaPool

open SchemaPool.Sql (Query)

/-- What happens while somebody waits for a connection. -/
inductive Meanwhile where
  -- Nothing; the caller gives up.
  | nothing
  -- The connection in a slot is given back.
  | release (slot : String)
  -- The pool is closed.
  | close
  -- Nanoseconds pass, and then the caller gives up.
  | pass (nanos : Nat)
deriving DecidableEq, Repr

/-- A step of a user.  Queries run on the connection in a slot, or on one borrowed
for them alone. -/
inductive UserStep where
  | borrow (slot : String) (meanwhile : Meanwhile)
  | release (slot : String)
  | execute (slot : Option String) (query : Query)
  | load (slot : Option String) (query : Query)
  | batch (slot : String) (text : String)
  | built (slot : String) (text : String)
  | run (slot : String) (query : Query) (text : String)
  | transaction (slot : String) (body : List String) (callOff : Option String)
  | instrument (slot : String)
  | inspect (slot : String)
  | command (command : Command)
  | close
  | pass (nanos : Nat)
  | describe
  | info
deriving Repr

/-- What a step answers. -/
inductive UserAnswer where
  | nothing
  -- There is no connection in the slot.
  | noSlot
  -- The call would wait for ever and was not made.
  | wouldBlock
  -- The caller gave up waiting; the pool's numbers while it waited.
  | pending (status : PoolStatus)
  | borrowed (link : Link) (waited : Option PoolStatus)
  | notBorrowed (failure : Failure) (waited : Option PoolStatus)
  | count (result : Except Failure Nat)
  | values (result : Except Failure (List String))
  | done (result : Except Failure Unit)
  | flag (value : Bool)
  | inspected (timed : TimedConnection)
  | printed (result : Except CommandFailure String)
  | text (value : String)
  | info (schema : SchemaName) (settings : Settings) (threshold : Threshold)

/-- A client and the connections that its users hold. -/
structure UserScene where
  client : Client
  slots : List (String × Link)

abbrev UserM := StateM UserScene

namespace UserScene

def act {α : Type} (x : ClientM α) : UserM α := do
  let s ← get
  let (a, client) := x s.client
  set { s with client }
  return a

def fill (slot : String) (link : Link) : UserM Unit :=
  modify fun s => { s with slots := (slot, link) :: s.slots.filter (·.1 != slot) }

/-- Gives back the connection in a slot; tells whether there was one. -/
def vacate (slot : String) : UserM Bool := do
  let s ← get
  match s.slots.lookup slot with
  | none => return false
  | some link =>
    set { s with slots := s.slots.filter (·.1 != slot) }
    act (Client.release link)
    return true

def on {α : Type} (slot : String) (x : Link → ClientM (Link × α)) (answer : α → UserAnswer) :
    UserM UserAnswer := do
  match (← get).slots.lookup slot with
  | none => return .noSlot
  | some link =>
    let (link, a) ← act (x link)
    fill slot link
    return answer a

/-- Whether a caller would have to wait for a connection without limit. -/
def wouldBlock : UserM Bool := do
  let c := (← get).client
  return c.pool.isExhausted && c.borrowLimit.isNone

def call {α : Type} (x : ClientM α) (answer : α → UserAnswer) : UserM UserAnswer := do
  if ← wouldBlock then return .wouldBlock
  return answer (← act x)

/-- Stores a borrowed connection, after which the one that was there before is given
back. -/
def store (slot : String) (waited : Option PoolStatus) (result : Except AcquireError Lent) :
    UserM UserAnswer := do
  match ← act (Client.noteBorrowed result) with
  | .error f => return .notBorrowed f waited
  | .ok link =>
    let _ ← vacate slot
    fill slot link
    return .borrowed link waited

def borrow (slot : String) (meanwhile : Meanwhile) : UserM UserAnswer := do
  act (Client.note [Client.borrowingEntry])
  let c := (← get).client
  if !c.pool.isExhausted then
    store slot none (← act Client.acquire)
  else
    let waited := c.pool.status 1
    match meanwhile with
    | .nothing => return .pending waited
    | .release other =>
      if ← vacate other then store slot (some waited) (← act Client.acquire)
      else return .pending waited
    | .close =>
      act Client.close
      store slot (some waited) (← act Client.acquire)
    | .pass nanos =>
      act (Client.pass nanos)
      if c.borrowLimit.any (· ≤ nanos) then store slot (some waited) (.error (.timeout .wait))
      else return .pending waited

def valueColumn : List String := ["value"]

def column (result : Except Failure (List (List String))) : UserAnswer :=
  .values (result.map List.flatten)

def step : UserStep → UserM UserAnswer
  | .borrow slot meanwhile => borrow slot meanwhile
  | .release slot => do
    if ← vacate slot then return .nothing else return .noSlot
  | .execute (some slot) query => on slot (Client.executeQuery · query) .count
  | .execute none query => call (Client.executeSql query) .count
  | .load (some slot) query => on slot (Client.loadQuery valueColumn · query) column
  | .load none query => call (Client.loadSql valueColumn query) column
  | .batch slot text =>
    on slot (Client.batch · text) fun result => .done (result.mapError Failure.query)
  | .built slot text =>
    on slot (Client.execute · text) fun result => .count (result.mapError Failure.query)
  | .run slot query text =>
    on slot (fun link => Client.runUnit link query (Client.batch · text) fun _ => .nothing)
      fun result => .done (result.mapError Failure.query)
  | .transaction slot body callOff => on slot (Client.transaction · body callOff) .count
  | .instrument slot => do
    let w := (← get).client.setup.monitor
    on slot (fun link => do
      let (timed, changed) := link.timed.instrument w
      return ({ link with timed }, changed)) .flag
  | .inspect slot => on slot (fun link => return (link, link.timed)) .inspected
  | .command command => call (Client.dispatch command) .printed
  | .close => do
    act Client.close
    return .nothing
  | .pass nanos => do
    act (Client.pass nanos)
    return .nothing
  | .describe => return .text (← get).client.view
  | .info => do
    let c := (← get).client
    return .info c.schema c.settings c.setup.monitor.threshold

def drained (s : UserScene) : UserScene := { s with client := s.client.drained }

end UserScene

end SchemaPool
