import SchemaPool.Schema.Name
import SchemaPool.Text.Display
import SchemaPool.Text.Search
import SchemaPool.Timing.Monitor

/-! # Settings of the pool

The connection string, the schema, the slow-query threshold and the limits of the
pool.  Wherever settings are shown, the password in the connection string is
replaced by three stars. -/

namespace SchemaPool

open SchemaPool.Text

/-- The password mask of a connection string: what stands between the last colon
before the first at-sign and that at-sign becomes three stars. -/
def maskChars (url : List Char) : List Char :=
  match cut? ['@'] url with
  | none => url
  | some (credentials, rest) =>
    match cutLast? ':' credentials with
    | none => url
    | some (user, _) => user ++ ":***@".toList ++ rest

def maskUrl (url : String) : String := String.ofList (maskChars url.toList)

/-- The settings of a pool. -/
structure Settings where
  url : String
  schema : String
  slowQuery : Threshold
  maxConnections : UInt32
  -- Seconds to wait when opening or borrowing a connection.
  connectionTimeout : Option UInt64
  -- Seconds that checking an idle connection may take.
  idleTimeout : Option UInt64
deriving DecidableEq, Repr

namespace Settings

def standardConnections : UInt32 := 10

def new (url : String) : Settings :=
  ⟨url, SchemaName.defaultText, .disabled, standardConnections, none, none⟩

def maskedUrl (s : Settings) : String := maskUrl s.url

def schemaName (s : Settings) : Except Failure SchemaName := SchemaName.ofString s.schema

/-- The monitor for the threshold, reporting to the log. -/
def monitor (s : Settings) : Monitor := ⟨s.slowQuery, .log⟩

def display (s : Settings) : String :=
  s.maskedUrl ++ " schema=" ++ s.schema ++ " slow_query=" ++ s.slowQuery.display ++
    " max_connections=" ++ toString s.maxConnections.toNat

def view (s : Settings) : String :=
  (FieldView.mk "PgConfig"
    [("postgres_url", quoted s.maskedUrl), ("postgres_schema", quoted s.schema),
      ("postgres_slow_query_ms", s.slowQuery.view),
      ("postgres_max_connections", toString s.maxConnections.toNat),
      ("postgres_connection_timeout_secs",
        optional (s.connectionTimeout.map fun n => toString n.toNat)),
      ("postgres_idle_timeout_secs", optional (s.idleTimeout.map fun n => toString n.toNat))]
    true).render

end Settings

end SchemaPool
