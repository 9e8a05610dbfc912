import SchemaPool.Settings.Basic

/-! # Checking settings

Settings are checked before any connection is attempted: the two texts first,
then the numbers against their limits.  A connection string of an unknown scheme
is only remarked upon. -/

namespace SchemaPool.Settings

open SchemaPool.Text

def checkLimit (limit : Limit) (value : Nat) : Except Failure Unit :=
  if limit.allows value then .ok () else .error (.config (.outOfRange limit value))

def checkOptional (limit : Limit) : Option UInt64 → Except Failure Unit
  | some value => checkLimit limit value.toNat
  | none => .ok ()

def hasScheme (s : Settings) : Bool :=
  beginsWith "postgres://".toList s.url.toList || beginsWith "postgresql://".toList s.url.toList

def checkTexts (s : Settings) : Except Failure Unit := do
  if isBlank s.url then throw (.invalidArgument .blankUrl)
  let _ ← s.schemaName

def checkNumbers (s : Settings) : Except Failure Unit := do
  checkLimit .maxConnections s.maxConnections.toNat
  checkOptional .connectionTimeout s.connectionTimeout
  checkOptional .idleTimeout s.idleTimeout

def validate (s : Settings) : Except Failure Unit := do
  s.checkTexts
  s.checkNumbers

def validationNotes (s : Settings) : List LogEntry :=
  match s.checkTexts with
  | .error _ => []
  | .ok () =>
    if s.hasScheme then []
    else
      [⟨.warn, .connection, "Connection string has no postgres:// scheme",
        [("database_url", .text s.maskedUrl)]⟩]

theorem checkLimit_eq_ok_iff {limit : Limit} {value : Nat} :
    checkLimit limit value = .ok () ↔ limit.allows value = true := by
  cases allowed : limit.allows value <;> simp [checkLimit, allowed]

/-- A pool with sound settings may have connections. -/
theorem allows_maxConnections_of_valid {s : Settings} (valid : s.validate = .ok ()) :
    Limit.maxConnections.allows s.maxConnections.toNat = true := by
  rw [← checkLimit_eq_ok_iff]
  cases texts : s.checkTexts with
  | error f => simp [validate, texts, bind, Except.bind] at valid
  | ok =>
    cases checked : checkLimit .maxConnections s.maxConnections.toNat with
    | error f => simp [validate, texts, checkNumbers, checked, bind, Except.bind] at valid
    | ok => rfl

end SchemaPool.Settings
