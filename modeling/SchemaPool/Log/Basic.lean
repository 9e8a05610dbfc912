/-! # Log entries

A log entry has a level, the part of the program that wrote it, a message and
named fields in the order in which they were given. -/

namespace SchemaPool

/-- How serious a log entry is. -/
inductive Level where
  | trace
  | debug
  | info
  | warn
  | error
deriving DecidableEq, Repr

namespace Level

def rank : Level → Nat
  | trace => 0
  | debug => 1
  | info => 2
  | warn => 3
  | error => 4

def name : Level → String
  | trace => "TRACE"
  | debug => "DEBUG"
  | info => "INFO"
  | warn => "WARN"
  | error => "ERROR"

end Level

/-- The parts of the program that write to the log. -/
inductive LogTarget where
  | queries
  | connection
  | schema
  | client
  | command
  | config
  | shutdown
deriving DecidableEq, Repr

def LogTarget.name : LogTarget → String
  | queries => "strata_postgres::queries"
  | connection => "strata_postgres::connection"
  | schema => "strata_postgres::schema"
  | client => "strata_postgres::client"
  | command => "strata_cli::command"
  | config => "strata_cli::config"
  | shutdown => "strata_cli::shutdown"

/-- The value of a field. -/
inductive FieldValue where
  | text (value : String)
  | number (value : Nat)
  | flag (value : Bool)
deriving DecidableEq, Repr

def FieldValue.render : FieldValue → String
  | text value => value
  | number value => toString value
  | flag true => "true"
  | flag false => "false"

/-- One entry of the log. -/
structure LogEntry where
  level : Level
  target : LogTarget
  message : String
  fields : List (String × FieldValue)
deriving DecidableEq, Repr

def LogEntry.line (entry : LogEntry) : String :=
  " ".intercalate <|
    [entry.level.name, entry.target.name ++ ":", entry.message] ++
      entry.fields.map fun field => field.1 ++ "=" ++ field.2.render

end SchemaPool
