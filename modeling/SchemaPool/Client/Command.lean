import SchemaPool.Client.Startup
import SchemaPool.CommandLine.Basic

/-! # Commands run by a client

The check reads the schema that sessions resolve into and prints it; the other
command runs one statement and prints how many rows it affected.  A failed command
prints nothing. -/

namespace SchemaPool

/-- A failure with what was being done when it came about, and the messages of its
causes from the outside in. -/
structure CommandFailure where
  context : String
  causes : List String
deriving DecidableEq, Repr

namespace CommandFailure

def ofFailure (context : String) (f : Failure) : CommandFailure :=
  ⟨context, f.message :: f.cause?.toList⟩

def chain (f : CommandFailure) : List String := f.context :: f.causes

def root (f : CommandFailure) : String := f.causes.getLastD f.context

def display (f : CommandFailure) : String := ": ".intercalate f.chain

end CommandFailure

def sessionQuery : Sql.Query :=
  ⟨some "sessionCheck",
    some ("SELECT current_schema()::text AS current_schema, " ++
      "current_setting('search_path') AS search_path")⟩

def sessionColumns : List String := ["current_schema", "search_path"]

namespace Client

def check : ClientM (Except CommandFailure String) := do
  match ← loadSql sessionColumns sessionQuery with
  | .error f => return .error (.ofFailure "failed to read session settings" f)
  | .ok ([current, path] :: _) => do
    let c ← get
    let status := c.pool.status 0
    note [⟨.info, .command, "Database check passed",
      [("schema", .text c.schema.text), ("current_schema", .text current),
        ("search_path", .text path), ("pool_size", .number status.size),
        ("pool_available", .number status.available),
        ("pool_max_size", .number status.maxSize),
        ("session_failures", .number c.setup.failures)]⟩]
    return .ok ("schema: " ++ current ++ "\nsearch_path: " ++ path ++ "\n")
  | .ok _ => return .error ⟨"session check returned no rows", []⟩

def exec (name : Option String) (sql : String) : ClientM (Except CommandFailure String) := do
  let query : Sql.Query := ⟨name, some sql⟩
  note [⟨.debug, .command, "Executing statement", [("query", .text query.label.text)]⟩]
  match ← executeSql query with
  | .error f => return .error (.ofFailure "failed to execute statement" f)
  | .ok affected => return .ok (toString affected ++ "\n")

def dispatch : Command → ClientM (Except CommandFailure String)
  | .check => check
  | .exec name sql => exec name sql

end Client

end SchemaPool
