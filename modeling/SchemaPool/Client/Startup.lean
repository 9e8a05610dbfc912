import SchemaPool.Client.Borrow
import SchemaPool.Settings.Validation

/-! # Starting a client

A client is handed out only when its settings are sound, its schema exists and the
session's statement has been accepted.  What the start does after the settings
have been checked is a dialogue with the database, written down before it is
held, so that it can also be held by many clients at once. -/

namespace SchemaPool

/-- What is left of a start. -/
inductive Startup where
  | done (result : Except Failure Unit)
  | note (entries : List LogEntry) (next : Startup)
  -- A connection is borrowed, one statement is sent on it, and it is given
  -- back.
  | exchange (text : String) (next : Except AcquireError (Except QueryError Unit) → Startup)

namespace Startup

def refuse (e : AcquireError) : Startup := .note e.notes (.done (.error (.ofAcquire e)))

/-- The session's statement is tried once. -/
def verify (setup : SessionSetup) : Startup :=
  .note [⟨.debug, .connection, "Verifying session configuration", []⟩] <|
    .exchange setup.statement fun
      | .error e => refuse e
      | .ok (.ok ()) => .done (.ok ())
      | .ok (.error e) =>
        .note [⟨.error, .connection, "Session configuration check failed",
          [("schema", .text setup.schema.text), ("error", .text e.message)]⟩] <|
          .done (.error (.query e))

/-- The schema is created, and then `next` follows.  Somebody else may create it at
the same time. -/
def provision (schema : SchemaName) (next : Startup) : Startup :=
  match schema.createStatement with
  | .error f => .done (.error f)
  | .ok none =>
    .note [⟨.debug, .schema, "Default schema, nothing to provision",
      [("schema", .text schema.text)]⟩] next
  | .ok (some statement) =>
    .exchange statement fun
      | .error e => refuse e
      | .ok (.ok ()) =>
        .note [⟨.info, .schema, "Schema provisioned", [("schema", .text schema.text)]⟩] next
      | .ok (.error e) =>
        if e.isLostRace then
          .note [⟨.debug, .schema, "Schema created concurrently by another initializer",
            [("schema", .text schema.text), ("error", .text e.message)]⟩] next
        else
          .note [⟨.error, .schema, "Failed to provision schema",
            [("schema", .text schema.text), ("error", .text e.message)]⟩] <|
            .done (.error (.query e))

def plan (setup : SessionSetup) : Startup := provision setup.schema (verify setup)

end Startup

namespace Client

def exchange (text : String) : ClientM (Except AcquireError (Except QueryError Unit)) := do
  match ← acquire with
  | .error e => return .error e
  | .ok lent =>
    let (link, result) ← batch lent.link text
    release link
    return .ok result

/-- Holds the dialogue of a start. -/
def hold : Startup → ClientM (Except Failure Unit)
  | .done result => return result
  | .note entries next => do
    note entries
    hold next
  | .exchange text next => do
    hold (next (← exchange text))

def readyEntry (c : Client) : LogEntry :=
  let seconds (name : String) (value : Option UInt64) : List (String × FieldValue) :=
    match value with
    | some n => [(name, .number n.toNat)]
    | none => []
  ⟨.info, .client, "Database client initialized successfully",
    [("schema", .text c.schema.text), ("slow_query", .text c.setup.monitor.threshold.display),
      ("max_connections", .number c.settings.maxConnections.toNat)] ++
    seconds "connection_timeout_secs" c.settings.connectionTimeout ++
    seconds "idle_timeout_secs" c.settings.idleTimeout⟩

/-- The setup of the sessions that sound settings ask for. -/
def setupFor (settings : Settings) (reporter : Reporter) : Except Failure SessionSetup := do
  let schema ← settings.schemaName
  SessionSetup.prepare schema { settings.monitor with reporter }

def beginning (settings : Settings) (setup : SessionSetup) (around : Surroundings) : Client :=
  ⟨settings, setup, .empty settings.maxConnections.toNat, around⟩

end Client

/-- What becomes of a start. -/
inductive Opening where
  | ready (client : Client)
  | refused (failure : Failure) (around : Surroundings)

namespace Opening

def client? : Opening → Option Client
  | ready client => some client
  | refused _ _ => none

def result : Opening → Except Failure Unit
  | ready _ => .ok ()
  | refused f _ => .error f

def around : Opening → Surroundings
  | ready client => client.around
  | refused _ around => around

@[simp] theorem client?_eq_some {opening : Opening} {client : Client} :
    opening.client? = some client ↔ opening = .ready client := by
  cases opening <;> simp [client?]

end Opening

def Surroundings.announce (s : Surroundings) (settings : Settings) : Surroundings :=
  (s.note [⟨.info, .client, "Initializing database client", []⟩]).note settings.validationNotes

def Client.connect (settings : Settings) (reporter : Reporter) (around : Surroundings) : Opening :=
  let around := around.announce settings
  match settings.validate with
  | .error f =>
    .refused f <| around.note
      [⟨.error, .client, "Invalid database configuration", [("error", .text f.message)]⟩]
  | .ok () =>
    match setupFor settings reporter with
    | .error f => .refused f around
    | .ok setup =>
      match hold (.plan setup) (beginning settings setup around) with
      | (.error f, c) => .refused f c.around
      | (.ok (), c) => .ready { c with around := c.around.note [c.readyEntry] }

namespace Client

/-- What sound settings ask for: the session's statement is that of their schema, and the monitor
is theirs. -/
theorem setupFor_ok {settings : Settings} {reporter : Reporter} {setup : SessionSetup}
    (asked : setupFor settings reporter = .ok setup) :
    settings.schemaName = .ok setup.schema ∧ setup.schema.searchPathStatement = .ok setup.statement ∧
      setup.monitor = { settings.monitor with reporter } ∧ setup.failures = 0 := by
  cases named : settings.schemaName with
  | error f => simp [setupFor, named, bind, Except.bind] at asked
  | ok schema =>
    cases stated : schema.searchPathStatement with
    | error f =>
      simp [setupFor, named, SessionSetup.prepare, stated, bind, Except.bind, Except.map] at asked
    | ok statement =>
      simp only [setupFor, named, SessionSetup.prepare, stated, bind, Except.bind, Except.map,
        Except.ok.injEq] at asked
      subst asked
      exact ⟨rfl, stated, rfl, rfl⟩

/-- Sound settings name a schema, and every schema has a statement. -/
theorem setupFor_of_valid {settings : Settings} (valid : settings.validate = .ok ())
    (reporter : Reporter) : ∃ setup, setupFor settings reporter = .ok setup := by
  cases named : settings.schemaName with
  | error f =>
    simp only [Settings.validate, Settings.checkTexts, named] at valid
    split at valid <;> cases valid
  | ok schema =>
    simp only [setupFor, named, SessionSetup.prepare, SchemaName.searchPathStatement_eq]
    exact ⟨_, rfl⟩

/-- A start with sound settings comes to what its dialogue comes to. -/
theorem connect_of_valid {settings : Settings} {reporter : Reporter} {setup : SessionSetup}
    (around : Surroundings) (valid : settings.validate = .ok ())
    (asked : setupFor settings reporter = .ok setup) :
    connect settings reporter around =
      match hold (.plan setup) (beginning settings setup (around.announce settings)) with
      | (.error f, c) => .refused f c.around
      | (.ok (), c) => .ready { c with around := c.around.note [c.readyEntry] } := by
  simp only [connect, valid, asked]

theorem result_connect {settings : Settings} {reporter : Reporter} {setup : SessionSetup}
    (around : Surroundings) (valid : settings.validate = .ok ())
    (asked : setupFor settings reporter = .ok setup) :
    (connect settings reporter around).result =
      (hold (.plan setup) (beginning settings setup (around.announce settings))).1 := by
  rw [connect_of_valid around valid asked]
  split
  · rename_i held
    rw [held]
    rfl
  · rename_i held
    rw [held]
    rfl

theorem journal_connect {settings : Settings} {reporter : Reporter} {setup : SessionSetup}
    (around : Surroundings) (valid : settings.validate = .ok ())
    (asked : setupFor settings reporter = .ok setup) :
    (connect settings reporter around).around.journal =
      (hold (.plan setup) (beginning settings setup (around.announce settings))).2.around.journal := by
  rw [connect_of_valid around valid asked]
  split
  · rename_i held
    rw [held]
    rfl
  · rename_i held
    rw [held]
    rfl

/-- A client is handed out only after its dialogue has come to a good end. -/
theorem connect_ready {settings : Settings} {reporter : Reporter} {around : Surroundings}
    {client : Client} (ready : connect settings reporter around = .ready client) :
    ∃ setup c, settings.validate = .ok () ∧ setupFor settings reporter = .ok setup ∧
      hold (.plan setup) (beginning settings setup (around.announce settings)) = (.ok (), c) ∧
      client = { c with around := c.around.note [c.readyEntry] } := by
  cases valid : settings.validate with
  | error f => simp [connect, valid] at ready
  | ok =>
    cases asked : setupFor settings reporter with
    | error f => simp [connect, valid, asked] at ready
    | ok setup =>
      rw [connect_of_valid around valid asked] at ready
      rcases held : hold (.plan setup) (beginning settings setup (around.announce settings)) with
        ⟨result, c⟩
      rw [held] at ready
      cases result with
      | error f => cases ready
      | ok =>
        cases ready
        exact ⟨setup, c, rfl, rfl, held, rfl⟩

end Client

end SchemaPool
