import SchemaPool.Json.Basic
import SchemaPool.Settings.Basic
import SchemaPool.Text.Numeral

/-! # Settings as structured values

Settings are written as an object with one member per setting.  They are read
from such an object, where everything but the connection string may be left out,
nothing may be given twice and unknown members are ignored, or from an array of
the settings in their order, of which the last may be left out. -/

namespace SchemaPool

def Threshold.toJson (t : Threshold) : Json := .ofNat t.millis.toNat

def Json.word? : Json → Option UInt64
  | .int (.ofNat n) => if n ≤ Text.maxWord then some (.ofNat n) else none
  | _ => none

def Json.halfWord? : Json → Option UInt32
  | .int (.ofNat n) => if n ≤ Text.maxHalfWord then some (.ofNat n) else none
  | _ => none

def Json.optionalWord? : Json → Option (Option UInt64)
  | .null => some none
  | v => v.word?.map some

def Threshold.ofJson? (v : Json) : Option Threshold := v.word?.map Threshold.mk

def SchemaName.toJson (n : SchemaName) : Json := .str n.text

/-- The schema name that a structured value gives: none for a value that is not a
text, else a name or the failure to make one. -/
def SchemaName.ofJson? (v : Json) : Option (Except Failure SchemaName) :=
  v.str?.map SchemaName.ofString

namespace Settings

/-- The names of the fields, in their order. -/
def fieldNames : List String :=
  ["postgres_url", "postgres_schema", "postgres_slow_query_ms", "postgres_max_connections",
    "postgres_connection_timeout_secs", "postgres_idle_timeout_secs"]

def toJson (s : Settings) : Json :=
  .obj
    [("postgres_url", .str s.url), ("postgres_schema", .str s.schema),
      ("postgres_slow_query_ms", s.slowQuery.toJson),
      ("postgres_max_connections", .ofNat s.maxConnections.toNat),
      ("postgres_connection_timeout_secs",
        .ofOption (fun n => .ofNat n.toNat) s.connectionTimeout),
      ("postgres_idle_timeout_secs", .ofOption (fun n => .ofNat n.toNat) s.idleTimeout)]

/-- The settings read from the values given for them, in order; a value that is
not given has its standard. -/
def ofValues? (url schema slowQuery maxConnections connectionTimeout idleTimeout : Option Json) :
    Option Settings := do
  let given {α : Type} (value : Option Json) (read : Json → Option α) (standard : α) : Option α :=
    match value with
    | some v => read v
    | none => some standard
  let url ← (← url).str?
  let schema ← given schema Json.str? SchemaName.defaultText
  let slowQuery ← given slowQuery Threshold.ofJson? .disabled
  let maxConnections ← given maxConnections Json.halfWord? standardConnections
  let connectionTimeout ← given connectionTimeout Json.optionalWord? none
  let idleTimeout ← given idleTimeout Json.optionalWord? none
  some ⟨url, schema, slowQuery, maxConnections, connectionTimeout, idleTimeout⟩

/-- No field is given twice. -/
def GivenOnce (members : List (String × Json)) : Prop :=
  ∀ name ∈ fieldNames, (members.map Prod.fst).count name ≤ 1

instance (members : List (String × Json)) : Decidable (GivenOnce members) :=
  inferInstanceAs (Decidable (∀ name ∈ fieldNames, (members.map Prod.fst).count name ≤ 1))

def ofJson? : Json → Option Settings
  | .obj members =>
    if GivenOnce members then
      ofValues? (members.lookup "postgres_url") (members.lookup "postgres_schema")
        (members.lookup "postgres_slow_query_ms") (members.lookup "postgres_max_connections")
        (members.lookup "postgres_connection_timeout_secs")
        (members.lookup "postgres_idle_timeout_secs")
    else none
  | .arr items =>
    if items.length ≤ 6 then
      ofValues? items[0]? items[1]? items[2]? items[3]? items[4]? items[5]?
    else none
  | _ => none

end Settings

end SchemaPool
