import SchemaPool.Proofs.Client.Service

/-! # Clients that start at the same time

Several clients start on one database and need the same schema.  Their turns come in any order:
in a turn a client writes to its log, borrows a connection, or is answered.  The database first
looks for the schema that it is to create and inserts it in a later turn, when another client may
have been faster, and the slower one is then turned away.

Nothing of a start is written anew here: a racer that has the database for itself does what a
start does (`Racer.ending_start`), and its turns are pieces of that (`Racer.ending_turn`). -/

namespace SchemaPool

/-! ## The race -/

/-- The schema that a statement creates, as it is quoted there. -/
def createdSchema? (text : String) : Option String :=
  (Text.after? "CREATE SCHEMA IF NOT EXISTS ".toList text.toList).map String.ofList

/-- What a client does in the course of its start. -/
inductive Stage where
  | onward (left : Startup)
  -- A connection has been borrowed for a statement.
  | speaking (lent : Lent) (text : String)
      (next : Except AcquireError (Except QueryError Unit) → Startup)
  -- The schema has been looked for, and was not there.
  | inserting (lent : Lent) (text schema : String)
      (next : Except AcquireError (Except QueryError Unit) → Startup)

/-- A client that starts. -/
structure Racer where
  client : Client
  stage : Stage

/-- What the database notices of a turn. -/
inductive Act where
  | issued (text : String)
  | created (schema : String)
  -- The schema was not there when it was looked for, and then it was.
  | turnedAway (schema : String)
deriving DecidableEq, Repr

def Act.created? : Act → Option String
  | created schema => some schema
  | _ => none

/-- A turn of one of the clients, with the time that an answer takes and what the client is told
if it has lost the race. -/
structure Move where
  racer : Nat
  nanos : Nat
  refusal : ServerError

/-- Somebody who has lost a race is told so. -/
def ServerError.TurnsAway (e : ServerError) : Prop :=
  DatabaseErrorKind.ofCode e.code = .uniqueViolation ∨
    Text.occursIn "already exists".toList e.message.toList = true

/-- The clients, and what the database has noticed of each, in order. -/
structure Race where
  racers : List Racer
  history : List (Nat × Act)

namespace Racer

open Client (acquire note converse hold)

/-- A client before the first turn of its start. -/
def start (settings : Settings) (setup : SessionSetup) (around : Surroundings) : Racer :=
  ⟨.beginning settings setup (around.announce settings), .onward (.plan setup)⟩

def result? (r : Racer) : Option (Except Failure Unit) :=
  match r.stage with
  | .onward (.done result) => some result
  | _ => none

/-- The database answers, and the connection is given back. -/
def hear (lent : Lent) (text : String)
    (next : Except AcquireError (Except QueryError Unit) → Startup) (c : Client) : Racer :=
  let (result, c) := converse lent text c
  ⟨c, .onward (next (.ok result))⟩

/-- The reply is laid down before the database is asked. -/
def told (c : Client) (text : String) (nanos : Nat) (reply : Reply) : Client :=
  { c with around := { c.around with
      server := c.around.server.answering text ⟨nanos, reply, false⟩ } }

def created : Reply := .table ⟨[], [], 0⟩

/-- A turn of a client while there are these schemas, and what the database notices of it.  All
that clients have in common is the catalog: whatever else the database is asked, every client is
answered as its own script says. -/
def turn (m : Move) (catalog : List String) : Racer → Racer × List Act
  | ⟨c, .onward (.done result)⟩ => (⟨c, .onward (.done result)⟩, [])
  | ⟨c, .onward (.note entries next)⟩ => (⟨(note entries c).2, .onward next⟩, [])
  | ⟨c, .onward (.exchange text next)⟩ =>
    match acquire c with
    | (.error e, c) => (⟨c, .onward (next (.error e))⟩, [])
    | (.ok lent, c) => (⟨c, .speaking lent text next⟩, [])
  | ⟨c, .speaking lent text next⟩ =>
    match createdSchema? text with
    | none => (hear lent text next c, [.issued text])
    | some schema =>
      if schema ∈ catalog then (hear lent text next (told c text m.nanos created), [.issued text])
      else (⟨c, .inserting lent text schema next⟩, [.issued text])
  | ⟨c, .inserting lent text schema next⟩ =>
    if schema ∈ catalog then
      (hear lent text next (told c text m.nanos (.refused m.refusal)), [.turnedAway schema])
    else (hear lent text next (told c text m.nanos created), [.created schema])

/-! ### A racer on its own -/

/-- What becomes of a client that has the database for itself from now on. -/
def ending : Racer → Except Failure Unit × Client
  | ⟨c, .onward left⟩ => hold left c
  | ⟨c, .speaking lent text next⟩ => (do hold (next (.ok (← converse lent text)))) c
  | ⟨c, .inserting lent text _ next⟩ => (do hold (next (.ok (← converse lent text)))) c

/-- A client that starts comes to what its start comes to. -/
theorem ending_start {settings : Settings} {reporter : Reporter} {setup : SessionSetup}
    (around : Surroundings) (valid : settings.validate = .ok ())
    (asked : Client.setupFor settings reporter = .ok setup) :
    (start settings setup around).ending.1 = (Client.connect settings reporter around).result :=
  (Client.result_connect around valid asked).symm

/-- The catalog is asked about the statement that has been sent. -/
def consults (r : Racer) : Bool :=
  match r.stage with
  | .onward _ => false
  | .speaking _ text _ => (createdSchema? text).isSome
  | .inserting _ _ _ _ => true

/-- A turn in which the catalog is not asked is a part of the start that is held anyway. -/
theorem ending_turn (m : Move) (catalog : List String) {r : Racer} (plain : r.consults = false) :
    (r.turn m catalog).1.ending = r.ending := by
  obtain ⟨c, stage⟩ := r
  cases stage with
  | onward left =>
    cases left with
    | done result => rfl
    | note entries next => rfl
    | exchange text next =>
      show (turn m catalog ⟨c, .onward (.exchange text next)⟩).1.ending =
        hold (next ((Client.exchange text c).1)) (Client.exchange text c).2
      rw [Client.exchange_eq, turn]
      rcases acquire c with ⟨e | lent, c'⟩
      · rfl
      · rfl
  | speaking lent text next =>
    have none : createdSchema? text = none := by simpa [consults] using plain
    simp only [turn, none]
    rfl
  | inserting lent text schema next => cases plain

end Racer

namespace Race

/-- The schemas that there are. -/
def catalog (r : Race) : List String := r.history.filterMap fun event => event.2.created?

/-- The race after a turn of one of its racers. -/
def moved (r : Race) (i : Nat) (racer : Racer) (acts : List Act) : Race :=
  ⟨r.racers.set i racer, r.history ++ acts.map fun act => (i, act)⟩

def step (r : Race) (m : Move) : Race :=
  match r.racers[m.racer]? with
  | none => r
  | some racer =>
    let (racer, acts) := racer.turn m r.catalog
    r.moved m.racer racer acts

def run (r : Race) (moves : List Move) : Race := moves.foldl step r

/-- How often the schema has been created. -/
def creations (r : Race) (schema : String) : Nat := r.catalog.count schema

end Race

end SchemaPool
