import SchemaPool.Proofs.Client.Protocol
import SchemaPool.Proofs.Schema.Statements

/-! # Lost races and the name of the schema

Whether a refused creation has lost a race is told from the text of the refusal, and that text
may quote the name of the schema.  The text counts as a whole, so a name can supply the words
that are looked for, or letters of them.

When nothing but the name can have brought these words about, a refusal is taken for a lost race
just if the name takes part in spelling them (`isLostRace_database_iff`).  A start with such a
name goes on after the refusal and may succeed without a schema
(`Client.refused_creation_overlooked`); with any other name it ends there and returns the refusal
(`Client.creation_refused_unless_spelled`). -/

namespace SchemaPool

/-! ## A phrase and a name within a text -/

/-- Somewhere in the text the phrase is spelled with at least one character of the name. -/
def SpelledWith (phrase before name after : List Char) : Prop :=
  ∃ place < before.length + name.length, before.length < place + phrase.length ∧
    phrase <+: (before ++ name ++ after).drop place

instance (phrase before name after : List Char) :
    Decidable (SpelledWith phrase before name after) :=
  inferInstanceAs (Decidable (∃ place < before.length + name.length, _))

variable {phrase before name after : List Char}

/-- A phrase that occurs neither before the name nor after it occurs only with its help. -/
theorem infix_iff_spelledWith (left : ¬ phrase <:+: before) (right : ¬ phrase <:+: after) :
    phrase <:+: before ++ name ++ after ↔ SpelledWith phrase before name after := by
  constructor
  · rintro ⟨front, back, text⟩
    have found : phrase <+: (before ++ name ++ after).drop front.length := by
      rw [← text, List.append_assoc, List.drop_left]
      exact List.prefix_append _ _
    refine ⟨front.length, Nat.lt_of_not_le fun behind => ?_, Nat.lt_of_not_le fun ahead => ?_,
      found⟩
    · -- The phrase would begin behind the name.
      apply right
      have passed : (before ++ name).length ≤ front.length := by simpa using behind
      rw [List.drop_append, List.drop_eq_nil_of_le passed, List.nil_append] at found
      exact found.isInfix.trans (List.drop_suffix _ _).isInfix
    · -- The phrase would end before the name.
      apply left
      rw [List.append_assoc, List.drop_append_of_le_length (by omega)] at found
      have fits : phrase.length ≤ (before.drop front.length).length := by
        rw [List.length_drop]
        omega
      exact (List.prefix_of_prefix_length_le found (List.prefix_append _ _) fits).isInfix.trans
        (List.drop_suffix _ _).isInfix
  · rintro ⟨place, -, -, found⟩
    exact found.isInfix.trans (List.drop_suffix _ _).isInfix

/-! ## Which refusals are taken for lost races -/

/-- The words by which a refusal of any other kind is taken for a lost race. -/
def existsWords : List Char := "already exists".toList

/-- A refusal that quotes the name between two texts without the words is taken for a lost race
just if the name takes part in spelling them. -/
theorem isLostRace_database_iff {kind : DatabaseErrorKind} (other : kind ≠ .uniqueViolation)
    {before name after : String} (left : ¬ existsWords <:+: before.toList)
    (right : ¬ existsWords <:+: after.toList) :
    (QueryError.database kind (before ++ name ++ after)).isLostRace = true ↔
      SpelledWith existsWords before.toList name.toList after.toList := by
  rw [← infix_iff_spelledWith left right, ← Text.occursIn_iff, ← String.toList_append,
    ← String.toList_append]
  cases kind with
  | uniqueViolation => exact absurd rfl other
  | _ => rfl

namespace Exchange

/-- The kind and the message of the database's refusal of the statement. -/
def refusal? (x : Exchange) : Option (DatabaseErrorKind × String) :=
  match x.answer with
  | .ok (.error (.database kind message)) => some (kind, message)
  | _ => none

theorem answer_of_refusal? {x : Exchange} {kind : DatabaseErrorKind} {message : String}
    (refused : x.refusal? = some (kind, message)) :
    x.answer = .ok (.error (.database kind message)) := by
  rw [refusal?] at refused
  split at refused
  · next answer =>
    cases refused
    exact answer
  · cases refused

end Exchange

namespace Client

variable {settings : Settings} {reporter : Reporter} {setup : SessionSetup}

/-- The exchanges of a start. -/
def openingExchanges (settings : Settings) (setup : SessionSetup) (around : Surroundings) :
    List Exchange :=
  transcribe (.plan setup) (beginning settings setup (around.announce settings))

theorem text_ne_statement_of_creates (asked : setupFor settings reporter = .ok setup)
    {text : String} (creates : setup.schema.createStatement = .ok (some text)) :
    text ≠ setup.statement := by
  intro same
  have plain := createsSchema_of_searchPathStatement (setupFor_ok asked).2.1
  rw [← same, createsSchema_of_createStatement creates] at plain
  cases plain

/-- The creation comes first.  If it does not let the start go on, nothing follows it; otherwise
the session's statement is tried, and decides. -/
theorem openingExchanges_of_creation (around : Surroundings) (valid : settings.validate = .ok ())
    (asked : setupFor settings reporter = .ok setup) {x : Exchange}
    (made : x ∈ openingExchanges settings setup around)
    (creates : setup.schema.createStatement = .ok (some x.text)) :
    ∃ rest, openingExchanges settings setup around = x :: rest ∧
      match x.failure? setup.statement with
      | some f => rest = [] ∧ (connect settings reporter around).result = .error f
      | none => ∃ y, rest = [y] ∧ y.text = setup.statement ∧
          (connect settings reporter around).result =
            (y.failure? setup.statement).elim (.ok ()) .error := by
  have differs := text_ne_statement_of_creates asked creates
  have other : ∀ text ∈ some x.text, text ≠ setup.statement := by
    intro text same
    cases same
    exact differs
  have follows := hold_follows (.plan setup)
    (beginning settings setup (around.announce settings))
  rw [← result_connect around valid asked] at follows
  rcases Startup.provision_follows creates other follows with ⟨none, -⟩ | ⟨y, rest, all, -, goes⟩
  · cases none
  change openingExchanges settings setup around = y :: rest at all
  cases failed : y.failure? setup.statement with
  | some f =>
    rw [failed] at goes
    rw [all, goes.1, List.mem_singleton] at made
    subst made
    rw [failed]
    exact ⟨rest, all, goes⟩
  | none =>
    rw [failed] at goes
    obtain ⟨z, verified, text, result⟩ := Startup.verify_follows goes
    rw [all, verified] at made
    obtain rfl | rfl : x = y ∨ x = z := by simpa using made
    · rw [failed]
      exact ⟨rest, all, z, verified, text, result⟩
    · exact absurd text differs

/-- A refusal of the creation ends the start and is its result, unless it is taken for a lost
race. -/
theorem result_of_refused_creation (around : Surroundings) (valid : settings.validate = .ok ())
    (asked : setupFor settings reporter = .ok setup) {x : Exchange}
    (made : x ∈ openingExchanges settings setup around)
    (creates : setup.schema.createStatement = .ok (some x.text)) {e : QueryError}
    (refused : x.answer = .ok (.error e)) :
    if e.isLostRace then
      ∃ y, openingExchanges settings setup around = [x, y] ∧ y.text = setup.statement ∧
        (connect settings reporter around).result =
          (y.failure? setup.statement).elim (.ok ()) .error
    else
      openingExchanges settings setup around = [x] ∧
        (connect settings reporter around).result = .error (.query e) := by
  have differs := text_ne_statement_of_creates asked creates
  obtain ⟨rest, all, goes⟩ := openingExchanges_of_creation around valid asked made creates
  cases race : e.isLostRace with
  | true =>
    have passed : x.failure? setup.statement = none := by
      simp [Exchange.failure?, refused, differs, race]
    rw [passed] at goes
    obtain ⟨y, rfl, text, result⟩ := goes
    exact ⟨y, all, text, result⟩
  | false =>
    have failed : x.failure? setup.statement = some (.query e) := by
      simp [Exchange.failure?, refused, race]
    rw [failed] at goes
    obtain ⟨rfl, result⟩ := goes
    exact ⟨all, result⟩

/-- Let the database refuse to create the schema, with an error of another kind than a violated
index, whose message quotes the name of the schema between two texts without the words
`already exists`.  Unless the name takes part in spelling these words, the refusal is no lost
race: the start sends nothing more and returns it.  If the name does, the refusal is overlooked:
the session's statement is tried, and the start succeeds just if that is accepted, though nobody
has created the schema. -/
theorem creation_refused_unless_spelled (around : Surroundings)
    (valid : settings.validate = .ok ()) (asked : setupFor settings reporter = .ok setup)
    {x : Exchange} (made : x ∈ openingExchanges settings setup around)
    (creates : setup.schema.createStatement = .ok (some x.text))
    {kind : DatabaseErrorKind} {before after : String}
    (refused : x.refusal? = some (kind, before ++ setup.schema.text ++ after))
    (other : kind ≠ .uniqueViolation) (left : ¬ existsWords <:+: before.toList)
    (right : ¬ existsWords <:+: after.toList) :
    let e := QueryError.database kind (before ++ setup.schema.text ++ after)
    let spelled := SpelledWith existsWords before.toList setup.schema.text.toList after.toList
    (e.isLostRace = true ↔ spelled) ∧
    (¬ spelled → openingExchanges settings setup around = [x] ∧
      (connect settings reporter around).result = .error (.query e)) ∧
    (spelled → ∃ y, openingExchanges settings setup around = [x, y] ∧
      y.text = setup.statement ∧
      (connect settings reporter around).result =
        (y.failure? setup.statement).elim (.ok ()) .error) := by
  intro e spelled
  have race : e.isLostRace = true ↔ spelled := isLostRace_database_iff other left right
  have outcome := result_of_refused_creation around valid asked made creates
    (Exchange.answer_of_refusal? refused)
  refine ⟨race, fun unspelled => ?_, fun spelled => ?_⟩
  · rwa [if_neg fun lost => unspelled (race.1 lost)] at outcome
  · rwa [if_pos (race.2 spelled)] at outcome

/-- A database that accepts no schema of that name. -/
def unacceptable (name : String) : Surroundings :=
  .ofServer (.ofScript [] [⟨"CREATE", none, none,
    ⟨0, .refused ⟨"42939", "unacceptable schema name \"" ++ name ++ "\""⟩, false⟩⟩])

def settingsFor (name : String) : Settings :=
  { Settings.new "postgres://localhost/app" with schema := name }

/-- The texts and the refusals of the exchanges that the start with a name makes there. -/
def attempted (name : String) : List (String × Option (DatabaseErrorKind × String)) :=
  match setupFor (settingsFor name) .log with
  | .error _ => []
  | .ok setup => (openingExchanges (settingsFor name) setup (unacceptable name)).map
      fun x => (x.text, x.refusal?)

/-- A name that comes close to the words is refused like any other. -/
theorem creation_refused_of_near_miss :
    attempted "pg_already_exists" = [("CREATE SCHEMA IF NOT EXISTS \"pg_already_exists\"",
      some (.unknown, "unacceptable schema name \"" ++ "pg_already_exists" ++ "\""))] ∧
    (connect (settingsFor "pg_already_exists") .log (unacceptable "pg_already_exists")).result =
      .error (.query (.database .unknown
        ("unacceptable schema name \"" ++ "pg_already_exists" ++ "\""))) := by
  have tried : attempted "pg_already_exists" =
      [("CREATE SCHEMA IF NOT EXISTS \"pg_already_exists\"",
        some (.unknown, "unacceptable schema name \"" ++ "pg_already_exists" ++ "\""))] := by
    decide +kernel
  refine ⟨tried, ?_⟩
  rw [attempted] at tried
  split at tried
  · cases tried
  · next setup asked =>
    obtain ⟨x, all, same⟩ := List.map_eq_singleton_iff.1 tried
    obtain ⟨text, refused⟩ := Prod.mk.inj same
    have name : setup.schema.text = "pg_already_exists" := by
      rw [SchemaName.text_of_ofString (setupFor_ok asked).1]
      decide +kernel
    have creates : setup.schema.createStatement = .ok (some x.text) := by
      rw [SchemaName.createStatement_eq, SchemaName.isDefault, name, text]
      exact congrArg Except.ok (by decide +kernel)
    have quoted : x.refusal? = some (.unknown,
        "unacceptable schema name \"" ++ setup.schema.text ++ "\"") := by rw [refused, name]
    have left : ¬ existsWords <:+: "unacceptable schema name \"".toList := by
      rw [← Text.occursIn_iff]
      decide +kernel
    have right : ¬ existsWords <:+: "\"".toList := by
      rw [← Text.occursIn_iff]
      decide +kernel
    have ends := creation_refused_unless_spelled (unacceptable "pg_already_exists") rfl asked
      (all ▸ List.mem_singleton_self x) creates quoted (by decide) left right
    rw [name] at ends
    exact (ends.2.1 (by decide +kernel)).2

/-- The name alone makes the refusal pass for a lost race, and the client is handed out although
the only creation has been refused. -/
theorem refused_creation_overlooked :
    ¬ existsWords <:+: "unacceptable schema name \"".toList ∧ ¬ existsWords <:+: "\"".toList ∧
    (QueryError.database .unknown
      ("unacceptable schema name \"" ++ "pg_ already exists" ++ "\"")).isLostRace = true ∧
    attempted "pg_ already exists" =
      [("CREATE SCHEMA IF NOT EXISTS \"pg_ already exists\"",
          some (.unknown, "unacceptable schema name \"" ++ "pg_ already exists" ++ "\"")),
        ("SET search_path TO \"pg_ already exists\", public", none)] ∧
    (connect (settingsFor "pg_ already exists") .log
      (unacceptable "pg_ already exists")).client?.isSome = true := by
  rw [← Text.occursIn_iff, ← Text.occursIn_iff]
  decide +kernel

end Client

end SchemaPool
