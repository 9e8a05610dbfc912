import SchemaPool.Failure.Database
import SchemaPool.Log.Basic

/-! # Failures of pool operations

Every operation of the pool fails with one of seven kinds of failure.  Each keeps
its cause; the text shown to people, whether a retry may help, and what an
operator can do are functions of the failure. -/

namespace SchemaPool

/-- An argument that is empty or blank where a text is needed. -/
inductive ArgumentFault where
  | blankIdentifier
  | blankStatement
  | blankSchema
  | blankUrl
  | other (message : String)
deriving DecidableEq, Repr

def ArgumentFault.message : ArgumentFault → String
  | blankIdentifier => "identifier must be a non-empty string"
  | blankStatement => "query text cannot be empty"
  | blankSchema => "schema name cannot be empty"
  | blankUrl => "connection string cannot be empty"
  | other message => message

/-- The settings that have to lie within a range. -/
inductive Limit where
  | maxConnections
  | connectionTimeout
  | idleTimeout
deriving DecidableEq, Repr

namespace Limit

def name : Limit → String
  | maxConnections => "max_connections"
  | connectionTimeout => "connection_timeout_secs"
  | idleTimeout => "idle_timeout_secs"

def least : Limit → Nat
  | maxConnections => 2
  | connectionTimeout => 1
  | idleTimeout => 30

def greatest : Limit → Nat
  | maxConnections => 16
  | connectionTimeout => 300
  | idleTimeout => 3600

def allows (l : Limit) (value : Nat) : Bool := l.least ≤ value && value ≤ l.greatest

end Limit

/-- A setting that cannot be used. -/
inductive SettingFault where
  | outOfRange (limit : Limit) (value : Nat)
  | other (message : String)
deriving DecidableEq, Repr

def SettingFault.message : SettingFault → String
  | outOfRange limit value =>
    limit.name ++ " is " ++ toString value ++ ", expected " ++ toString limit.least ++ "..=" ++
      toString limit.greatest
  | other message => message

/-- Why an operation of the pool failed. -/
inductive Failure where
  | invalidArgument (fault : ArgumentFault)
  | config (fault : SettingFault)
  | timeout (phase : Phase)
  | connection (error : ConnectError)
  | query (error : QueryError)
  | closed
  | unexpected (message : String)
deriving Repr

def Phase.activity : Phase → String
  | wait => "waiting for a pooled connection"
  | create => "opening a connection"
  | recycle => "recycling a connection"

def Phase.hint : Phase → String
  | wait =>
    "All pooled connections stayed busy; raise POSTGRES_MAX_CONNECTIONS or shorten transactions"
  | create =>
    "Opening a connection took too long; check POSTGRES_URL and that the server is reachable"
  | recycle => "Recycling an idle connection took too long; the server may have dropped it"

namespace Failure

def message : Failure → String
  | invalidArgument fault => "Invalid argument: " ++ fault.message
  | config fault => "Configuration error: " ++ fault.message
  | timeout phase => "Timed out while " ++ phase.activity
  | connection error => "Database connection error: " ++ error.message
  | query error => "Database query error: " ++ error.message
  | closed => "Connection pool is closed"
  | unexpected message => "Unexpected error: " ++ message

def cause? : Failure → Option String
  | connection error => some error.message
  | query error => some error.message
  | _ => none

/-- Whether trying again may help: only after a timeout or a dropped connection. -/
def isTransient : Failure → Bool
  | timeout _ => true
  | connection (.badConnection _) => true
  | _ => false

def isPermanent (f : Failure) : Bool := !f.isTransient

def hint? : Failure → Option String
  | timeout phase => some phase.hint
  | invalidArgument _ => some "Check POSTGRES_URL, POSTGRES_SCHEMA and the pool settings"
  | config _ => some "Check POSTGRES_URL, POSTGRES_SCHEMA and the pool settings"
  | _ => none

def ofAcquire : AcquireError → Failure
  | .timeout phase => timeout phase
  | .query error => query error
  | .connect error => connection error
  | .closed => closed
  | .noRuntime => unexpected "connection pool was built without a runtime"
  | .hook message => unexpected message

end Failure

def AcquireError.notes : AcquireError → List LogEntry
  | .hook message =>
    [⟨.warn, .connection, "Post-create hook failed", [("error", .text message)]⟩]
  | _ => []

/-! ## Operations one after the other

When a step of many succeeds, all steps before it have, and what it was given is what they came
to. -/

theorem ok_bind {ε α β : Type} (a : α) (f : α → Except ε β) :
    ((Except.ok a : Except ε α) >>= f) = f a := rfl

theorem bind_eq_ok_iff {ε α β : Type} {x : Except ε α} {f : α → Except ε β} {b : β} :
    x.bind f = .ok b ↔ ∃ a, x = .ok a ∧ f a = .ok b := by
  cases x with
  | error e => exact iff_of_false nofun fun ⟨_, absurd, _⟩ => nomatch absurd
  | ok a =>
    refine ⟨fun same => ⟨a, rfl, same⟩, ?_⟩
    rintro ⟨_, ⟨⟩, same⟩
    exact same

theorem bind_error_ne_ok {ε α β : Type} {x : Except ε α} {e : ε} {b : β} :
    (x.bind fun _ => .error e) ≠ .ok b := by
  cases x <;> nofun

theorem map_eq_ok_iff {ε α β : Type} {x : Except ε α} {f : α → β} {b : β} :
    x.map f = .ok b ↔ ∃ a, x = .ok a ∧ f a = b := by
  cases x <;> simp [Except.map]

theorem mapError_eq_ok_iff {ε ε' α : Type} {x : Except ε α} {f : ε → ε'} {a : α} :
    x.mapError f = .ok a ↔ x = .ok a := by
  cases x with
  | error e => exact iff_of_false nofun nofun
  | ok b =>
    constructor
    · rintro ⟨⟩
      rfl
    · rintro ⟨⟩
      rfl

end SchemaPool
