import SchemaPool.Database.Script
import SchemaPool.Pool.Basic
import SchemaPool.Session.Setup
import SchemaPool.Settings.Basic
import SchemaPool.Timing.Timeline

/-! # Clients of a database

A client owns a pool of connections and the setup of their sessions.  Around it
are the database, the clock and the log.  What happens to the connections is kept
in a journal. -/

namespace SchemaPool

/-- A connection to the database. -/
structure Link where
  -- The number of the attempt that opened it.
  number : Nat
  timed : TimedConnection
  -- The client knows that the server is gone.
  lost : Bool
  -- A transaction could be neither committed nor rolled back.
  stuck : Bool
  -- How often it has been checked and lent again.
  recycled : Nat
deriving DecidableEq, Repr

namespace Link

def new (number : Nat) : Link := ⟨number, .new true, false, false, 0⟩

def isBroken (l : Link) : Bool := l.lost || l.stuck

def view (l : Link) : String :=
  (Text.FieldView.mk "PgConn" [("instrumented", toString l.timed.timing.isTimed)] false).render

end Link

/-- Where connections come from.  It is never shown, because the connection string
holds the password. -/
structure LinkSource where
  url : String

def LinkSource.view (_ : LinkSource) : String :=
  (Text.FieldView.mk "PgConnectionManager" [] false).render

/-- What happens to connections. -/
inductive Happening where
  | opened (link : Nat)
  -- The setup was run on it, and its statement was accepted or refused.
  | prepared (link : Nat) (accepted : Bool)
  -- It was given to a borrower, timed in this way.
  | lent (link : Nat) (timing : Timing)
  -- A statement reached the database.
  | sent (link : Nat) (text : String)
  | returned (link : Nat)
  -- It was found to be of no more use.
  | discarded (link : Nat)
  | poolClosed
deriving DecidableEq, Repr

def Happening.sent? : Happening → Option (Nat × String)
  | sent link text => some (link, text)
  | _ => none

/-- Everything around a client. -/
structure Surroundings where
  server : Server
  timeline : Timeline
  journal : List Happening

namespace Surroundings

def ofServer (server : Server) : Surroundings := ⟨server, .start, []⟩

def note (s : Surroundings) (entries : List LogEntry) : Surroundings :=
  { s with timeline := s.timeline.note entries }

/-- The statements that have reached the database, in order. -/
def statements (s : Surroundings) : List (Nat × String) := s.journal.filterMap Happening.sent?

def drained (s : Surroundings) : Surroundings :=
  { s with timeline := s.timeline.drained, journal := [] }

end Surroundings

/-- A client: its settings, the setup of its sessions and its pool, with everything
around it. -/
structure Client where
  settings : Settings
  setup : SessionSetup
  pool : Pool Link
  around : Surroundings

abbrev ClientM := StateM Client

namespace Client

def schema (c : Client) : SchemaName := c.setup.schema

/-- The time that opening or borrowing a connection may take, in nanoseconds. -/
def borrowLimit (c : Client) : Option Nat :=
  c.settings.connectionTimeout.map (·.toNat * 1000000000)

/-- The time that checking a connection may take, in nanoseconds. -/
def checkLimit (c : Client) : Option Nat := c.settings.idleTimeout.map (·.toNat * 1000000000)

def view (c : Client) : String :=
  let status := c.pool.status 0
  (Text.FieldView.mk "PgClient"
    [("database_url", Text.quoted c.settings.maskedUrl),
      ("schema", "SchemaName(" ++ Text.quoted c.schema.text ++ ")"),
      ("slow_query", c.setup.monitor.threshold.view),
      ("pool_max_connections", toString c.settings.maxConnections.toNat),
      ("pool_current_size", toString status.size),
      ("pool_available", toString status.available),
      ("pool_waiting", toString status.waiting)]
    true).render

def drained (c : Client) : Client := { c with around := c.around.drained }

/-! ## Elementary actions -/

def modifyAround (f : Surroundings → Surroundings) : ClientM Unit :=
  modify fun c => { c with around := f c.around }

def note (entries : List LogEntry) : ClientM Unit := modifyAround (·.note entries)

def pass (nanos : Nat) : ClientM Unit :=
  modifyAround fun s => { s with timeline := s.timeline.pass nanos }

def deliver (report : Option Report) : ClientM Unit :=
  modifyAround fun s => { s with timeline := s.timeline.deliver report }

def record (h : Happening) : ClientM Unit :=
  modifyAround fun s => { s with journal := s.journal ++ [h] }

def now : ClientM Nat := do return (← get).around.timeline.now

end Client

end SchemaPool
