import SchemaPool.Text.Search

/-! # What a database answers when it refuses

Errors of statements and of connection attempts, each by its cause, and the text
in which they are shown. -/

namespace SchemaPool

/-- The kinds of errors that the server itself reports. -/
inductive DatabaseErrorKind where
  | uniqueViolation
  | foreignKeyViolation
  | unableToSendCommand
  | serializationFailure
  | readOnlyTransaction
  | restrictViolation
  | notNullViolation
  | checkViolation
  | exclusionViolation
  | closedConnection
  | unknown
deriving DecidableEq, Repr

def DatabaseErrorKind.ofCode (code : String) : DatabaseErrorKind :=
  match code with
  | "23505" => .uniqueViolation
  | "23503" => .foreignKeyViolation
  | "40001" => .serializationFailure
  | "25006" => .readOnlyTransaction
  | "23502" => .notNullViolation
  | "23514" => .checkViolation
  | _ => .unknown

/-- Why a statement, or the reading of its rows, failed. -/
inductive QueryError where
  | database (kind : DatabaseErrorKind) (message : String)
  | notFound
  | queryBuilder (message : String)
  | deserialization (message : String)
  | serialization (message : String)
  | rollbackRequested
  | alreadyInTransaction
  | notInTransaction
  | brokenTransaction
  -- A commit failed, and so did the rollback that it called for.
  | rollbackOnCommit (rollback commit : QueryError)
deriving Repr

def QueryError.message : QueryError → String
  | .database _ message => message
  | .notFound => "Record not found"
  | .queryBuilder message => message
  | .deserialization message => message
  | .serialization message => message
  | .rollbackRequested => "You have asked diesel to rollback the transaction"
  | .alreadyInTransaction => "Cannot perform this operation while a transaction is open"
  | .notInTransaction => "Cannot perform this operation outside of a transaction"
  | .brokenTransaction => "The transaction manager is broken"
  | .rollbackOnCommit rollback commit =>
    "Transaction rollback failed: " ++ rollback.message ++
      " (rollback attempted because of failure to commit: " ++ commit.message ++ ")"

def QueryError.kind? : QueryError → Option DatabaseErrorKind
  | .database kind _ => some kind
  | _ => none

/-- The statement could not be sent, or its answer not received. -/
def QueryError.connectionLost : QueryError := .database .unableToSendCommand "connection closed"

/-- Why a connection could not be opened or used. -/
inductive ConnectError where
  | badConnection (message : String)
  | invalidUrl (message : String)
  | setup (error : QueryError)
deriving Repr

def ConnectError.message : ConnectError → String
  | .badConnection message => message
  | .invalidUrl message => message
  | .setup error => error.message

/-- The part of an acquisition that took too long. -/
inductive Phase where
  -- Waiting for a connection that others hold.
  | wait
  -- Opening a new connection.
  | create
  -- Checking an idle connection.
  | recycle
deriving DecidableEq, Repr

/-- Why the pool lent no connection. -/
inductive AcquireError where
  | timeout (phase : Phase)
  | query (error : QueryError)
  | connect (error : ConnectError)
  | closed
  | noRuntime
  -- A step after the opening of a connection refused it.
  | hook (message : String)
deriving Repr

def AcquireError.message : AcquireError → String
  | .timeout .wait => "Timeout occurred while waiting for a slot to become available"
  | .timeout .create => "Timeout occurred while creating a new object"
  | .timeout .recycle => "Timeout occurred while recycling an object"
  | .query error => "Error occurred while creating a new object: " ++ error.message
  | .connect error => "Error occurred while creating a new object: " ++ error.message
  | .closed => "Pool has been closed"
  | .noRuntime => "No runtime specified"
  | .hook message => "`post_create` hook failed: " ++ message

end SchemaPool
