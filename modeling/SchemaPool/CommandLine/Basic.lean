import SchemaPool.Settings.Basic
import SchemaPool.Text.Numeral

/-! # What a command line says

A command line sets options and names a command.  An option that is not set there
takes its value from a variable of the environment, and one that is set nowhere
has its standard value. -/

namespace SchemaPool

/-- What the program is asked to do. -/
inductive Command where
  -- Report the schema in use.
  | check
  -- Run one statement, with an optional name for the log.
  | exec (name : Option String) (sql : String)
deriving DecidableEq, Repr

/-- A command with the settings for it. -/
structure Invocation where
  settings : Settings
  command : Command
deriving DecidableEq, Repr

/-- Why a command line asks for nothing that the program could do. -/
inductive UsageStop where
  | help
  | version
  -- Nothing at all was given, so help is due.
  | helpForNothing
  | optionRepeated
  | valueMissing
  | badValue
  | unknownArgument
  | unwantedValue
  | unknownCommand
  | commandMissing
  | argumentMissing
deriving DecidableEq, Repr

/-- The options. -/
inductive CliOption where
  | url
  | schema
  | slowQuery
  | maxConnections
  | connectionTimeout
  | idleTimeout
deriving DecidableEq, Repr

namespace CliOption

/-- All options, in the order in which the environment is asked for them. -/
def all : List CliOption := [url, schema, slowQuery, maxConnections, connectionTimeout, idleTimeout]

/-- The option's name on the command line, without the dashes. -/
def flag : CliOption → String
  | url => "postgres-url"
  | schema => "postgres-schema"
  | slowQuery => "postgres-slow-query-ms"
  | maxConnections => "postgres-max-connections"
  | connectionTimeout => "postgres-connection-timeout-secs"
  | idleTimeout => "postgres-idle-timeout-secs"

def variableName : CliOption → String
  | url => "POSTGRES_URL"
  | schema => "POSTGRES_SCHEMA"
  | slowQuery => "POSTGRES_SLOW_QUERY_MS"
  | maxConnections => "POSTGRES_MAX_CONNECTIONS"
  | connectionTimeout => "POSTGRES_CONNECTION_TIMEOUT_SECS"
  | idleTimeout => "POSTGRES_IDLE_TIMEOUT_SECS"

def ofFlag? (name : String) : Option CliOption := all.find? (·.flag == name)

end CliOption

/-- The options that have been set so far. -/
structure Draft where
  url : Option String
  schema : Option String
  slowQuery : Option Threshold
  maxConnections : Option UInt32
  connectionTimeout : Option UInt64
  idleTimeout : Option UInt64
deriving DecidableEq, Repr

namespace Draft

open SchemaPool.Text

def empty : Draft := ⟨none, none, none, none, none, none⟩

def has (d : Draft) : CliOption → Bool
  | .url => d.url.isSome
  | .schema => d.schema.isSome
  | .slowQuery => d.slowQuery.isSome
  | .maxConnections => d.maxConnections.isSome
  | .connectionTimeout => d.connectionTimeout.isSome
  | .idleTimeout => d.idleTimeout.isSome

def seconds? (text : String) : Option UInt64 := (unsigned? maxWord text.toList).map .ofNat

/-- A number of connections.  It may carry either sign as long as it is in range. -/
def connections? (text : String) : Option UInt32 :=
  match signed? text.toList with
  | some (.ofNat n) => if n ≤ maxHalfWord then some (.ofNat n) else none
  | _ => none

/-- Sets an option to what a text says; any text will do for the three options that
are not plain numbers. -/
def set? (d : Draft) (o : CliOption) (text : String) : Option Draft :=
  match o with
  | .url => some { d with url := some text }
  | .schema => some { d with schema := some text }
  | .slowQuery => some { d with slowQuery := some (.ofText text) }
  | .maxConnections => (connections? text).map fun n => { d with maxConnections := some n }
  | .connectionTimeout => (seconds? text).map fun n => { d with connectionTimeout := some n }
  | .idleTimeout => (seconds? text).map fun n => { d with idleTimeout := some n }

def put (d : Draft) (o : CliOption) (text : String) : Except UsageStop Draft :=
  if d.has o then .error .optionRepeated
  else
    match d.set? o text with
    | some d => .ok d
    | none => .error .badValue

/-- Sets what has not been set from the environment. -/
def fill (d : Draft) (environment : List (String × String)) : Except UsageStop Draft :=
  CliOption.all.foldlM (fun d o =>
    if d.has o then .ok d
    else
      match environment.lookup o.variableName with
      | none => .ok d
      | some text => d.put o text) d

def settings? (d : Draft) : Option Settings :=
  d.url.map fun url =>
    { Settings.new url with
      schema := d.schema.getD SchemaName.defaultText
      slowQuery := d.slowQuery.getD .disabled
      maxConnections := d.maxConnections.getD Settings.standardConnections
      connectionTimeout := d.connectionTimeout
      idleTimeout := d.idleTimeout }

end Draft

def Settings.entry (s : Settings) : LogEntry :=
  ⟨.info, .config, "Database configuration",
    [("postgres_url", .text s.maskedUrl), ("postgres_schema", .text s.schema),
      ("postgres_slow_query", .text s.slowQuery.display),
      ("postgres_max_connections", .number s.maxConnections.toNat),
      ("postgres_connection_timeout_secs",
        .text (Text.optional (s.connectionTimeout.map fun n => toString n.toNat))),
      ("postgres_idle_timeout_secs",
        .text (Text.optional (s.idleTimeout.map fun n => toString n.toNat)))]⟩

end SchemaPool
