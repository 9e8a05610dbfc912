import SchemaPool.Proofs.CommandLine.Drafts
import SchemaPool.Proofs.Settings.ThresholdText

/-! # Where settings come from

An option is set by its text on the command line, or else by its variable in the environment
(`textsFrom`).  A command line that is spelled well is accepted just if no option is set twice on
it and the texts make up settings, which are then these (`Invocation.parse_eq_ok_iff`).  Settings
can be written out as options in any order, and come back unchanged
(`Invocation.parse_assignments`).  All of it together is `Invocation.parse_takes_sources`. -/

namespace SchemaPool

open SchemaPool.Text

variable {args : List String} {sets : List (CliOption × String)} {command : Command}
  {environment : List (String × String)}

/-! ## Command lines and environments -/

/-- The text for an option: what it is set to, or else what its variable is. -/
def textsFrom (sets : List (CliOption × String)) (environment : List (String × String))
    (o : CliOption) : Option String :=
  (sets.lookup o).or (environment.lookup o.variableName)

theorem Draft.putAll_empty_eq_ok_iff {d : Draft} : Draft.empty.putAll sets = .ok d ↔
    (sets.map Prod.fst).Nodup ∧ Admissible (sets.lookup ·) ∧ d = .of (sets.lookup ·) := by
  have none : Admissible fun _ => none := fun _ => rfl
  refine (Draft.putAll_of_eq_ok_iff none).trans (and_congr_right fun distinct => ?_)
  refine and_congr ⟨fun all o => ?_, fun admissible set member => ⟨rfl, ?_⟩⟩ (by simp)
  · refine (Option.all_eq_true _ _).2 fun text texts => ?_
    exact (all (o, text) ((lookup_eq_some_iff_mem distinct).1 texts)).2
  · refine (Option.all_eq_true _ _).1 (admissible set.1) set.2 ?_
    exact (lookup_eq_some_iff_mem distinct).2 member

/-- The command with the settings for it, if these are complete. -/
def Draft.invocation (d : Draft) (command : Command) : Except UsageStop Invocation :=
  match d.settings? with
  | some settings => .ok ⟨settings, command⟩
  | none => .error .argumentMissing

theorem Draft.invocation_eq_ok_iff {d : Draft} {invocation : Invocation} :
    d.invocation command = .ok invocation ↔
      invocation.command = command ∧ d.settings? = some invocation.settings := by
  obtain ⟨settings, command'⟩ := invocation
  rw [Draft.invocation]
  cases d.settings? <;> simp [and_comm, eq_comm]

theorem Invocation.parse_of_spells (spells : Spells args sets command) :
    parse args environment = Draft.empty.putAll sets >>= fun d =>
      d.fill environment >>= (·.invocation command) := by
  have present (o : CliOption) : Held.nothing ≠ .awaiting o := nofun
  rw [parse, Draft.read_of_spells spells present]
  simp only [bind_assoc]
  rfl

theorem Invocation.parse_eq_ok_iff (spells : Spells args sets command) {invocation : Invocation} :
    parse args environment = .ok invocation ↔ invocation.command = command ∧
      (sets.map Prod.fst).Nodup ∧ invocation.settings.Takes (textsFrom sets environment) := by
  rw [parse_of_spells spells]
  constructor
  · intro parsed
    obtain ⟨d, put, parsed⟩ := bind_eq_ok_iff.1 parsed
    obtain ⟨distinct, admissible, rfl⟩ := Draft.putAll_empty_eq_ok_iff.1 put
    obtain ⟨d, filled, parsed⟩ := bind_eq_ok_iff.1 parsed
    obtain ⟨all, rfl⟩ := (Draft.fill_of_eq_ok_iff admissible fun _ => rfl).1 filled
    obtain ⟨named, set⟩ := Draft.invocation_eq_ok_iff.1 parsed
    exact ⟨named, distinct, Settings.takes_iff.2 ⟨all, set⟩⟩
  · rintro ⟨named, distinct, takes⟩
    obtain ⟨all, set⟩ := Settings.takes_iff.1 takes
    have admissible : Admissible (sets.lookup ·) := all.of_or
    refine bind_eq_ok_iff.2 ⟨_, Draft.putAll_empty_eq_ok_iff.2 ⟨distinct, admissible, rfl⟩, ?_⟩
    refine bind_eq_ok_iff.2 ⟨_, (Draft.fill_of_eq_ok_iff admissible fun _ => rfl).2 ⟨all, rfl⟩, ?_⟩
    exact Draft.invocation_eq_ok_iff.2 ⟨named, set⟩

theorem Invocation.parse_congr (spells : Spells args sets command)
    {environment' : List (String × String)}
    (agree : ∀ o ∉ sets.map Prod.fst,
      environment.lookup o.variableName = environment'.lookup o.variableName) :
    parse args environment = parse args environment' := by
  rw [parse_of_spells spells, parse_of_spells spells]
  cases put : Draft.empty.putAll sets with
  | error e => rfl
  | ok d =>
    obtain ⟨-, admissible, rfl⟩ := Draft.putAll_empty_eq_ok_iff.1 put
    have same : textsFrom sets environment = textsFrom sets environment' := by
      funext o
      cases texts : sets.lookup o with
      | some text => simp [textsFrom, texts]
      | none =>
        have unset : o ∉ sets.map Prod.fst := lookup_eq_none_iff_not_mem.1 texts
        simp [textsFrom, texts, agree o unset]
    rw [ok_bind, ok_bind, Draft.fill_of admissible fun o => congrFun same o,
      Draft.fill_of admissible fun _ => rfl]
    rfl

theorem Invocation.exists_spells_of_parse {invocation : Invocation}
    (parsed : parse args environment = .ok invocation) :
    ∃ sets, Spells args sets invocation.command := by
  rw [parse] at parsed
  obtain ⟨⟨d, named⟩, read, parsed⟩ := bind_eq_ok_iff.1 parsed
  obtain ⟨d', -, parsed⟩ := bind_eq_ok_iff.1 parsed
  cases named with
  | none => cases parsed
  | some command =>
    obtain ⟨rfl, -⟩ := Draft.invocation_eq_ok_iff.1 parsed
    exact Draft.exists_spells_of_read Held.isPlain_nothing read

theorem Settings.exists_takes_iff {given : CliOption → Option String} :
    (∃ s : Settings, s.Takes given) ↔ (given .url).isSome = true ∧ Admissible given := by
  simp only [takes_iff, exists_and_left, Draft.settings?, ← Option.isSome_iff_exists,
    Option.isSome_map]
  exact and_comm

/-- Any text will do for the threshold. -/
theorem admissible_congr {given given' : CliOption → Option String}
    (alike : ∀ o, o ≠ .slowQuery → given o = given' o) : Admissible given ↔ Admissible given' := by
  refine forall_congr' fun o => ?_
  by_cases reporting : o = .slowQuery
  · subst reporting
    have any (texts : Option String) : texts.all CliOption.slowQuery.admits = true :=
      (Option.all_eq_true _ _).2 fun _ _ => rfl
    rw [any, any]
  · rw [alike o reporting]

theorem Invocation.accepted_iff (spells : Spells args sets command) :
    (∃ invocation, parse args environment = .ok invocation) ↔ (sets.map Prod.fst).Nodup ∧
      (textsFrom sets environment .url).isSome = true ∧ Admissible (textsFrom sets environment) := by
  rw [← Settings.exists_takes_iff]
  constructor
  · rintro ⟨invocation, parsed⟩
    obtain ⟨-, distinct, takes⟩ := (parse_eq_ok_iff spells).1 parsed
    exact ⟨distinct, invocation.settings, takes⟩
  · rintro ⟨distinct, s, takes⟩
    exact ⟨⟨s, command⟩, (parse_eq_ok_iff spells).2 ⟨rfl, distinct, takes⟩⟩

/-! ## Settings written out as options -/

theorem Draft.seconds?_toString (n : UInt64) : seconds? (toString n.toNat) = some n := by
  have bound : n.toNat ≤ maxWord := Nat.le_of_lt_succ n.toNat_lt
  rw [seconds?, unsigned?_eq_some_iff.2 ⟨.bare (isDigits_toString n.toNat), bound⟩]
  simp

theorem Draft.timeout_toString (timeout : Option UInt64) :
    (timeout.map fun n => toString n.toNat).elim (some none)
      (fun text => (seconds? text).map some) = some timeout := by
  cases timeout with
  | none => rfl
  | some n => exact congrArg (Option.map some) (seconds?_toString n)

theorem Draft.connections?_toString (n : UInt32) : connections? (toString n.toNat) = some n := by
  have bound : n.toNat ≤ maxHalfWord := Nat.le_of_lt_succ n.toNat_lt
  rw [connections?, signed?_of_isDigits (isDigits_toString n.toNat)]
  simp [bound]

theorem Threshold.ofText_toString (t : Threshold) : ofText (toString t.millis.toNat) = t := by
  have numeral : IsPaddedNumeral (toString t.millis.toNat).toList t.millis.toNat := by
    simpa using IsPaddedNumeral.padded (.bare (isDigits_toString t.millis.toNat))
      (List.forall_mem_nil _) (List.forall_mem_nil _)
  rw [ofText_of_isPaddedNumeral numeral t.millis.toNat_lt, UInt64.ofNat_toNat]

namespace Settings

/-- The text that sets an option to the value that it has. -/
def text? (s : Settings) : CliOption → Option String
  | .url => some s.url
  | .schema => some s.schema
  | .slowQuery => some (toString s.slowQuery.millis.toNat)
  | .maxConnections => some (toString s.maxConnections.toNat)
  | .connectionTimeout => s.connectionTimeout.map fun n => toString n.toNat
  | .idleTimeout => s.idleTimeout.map fun n => toString n.toNat

/-- The options that are to be set, with the texts for them. -/
def assignments (s : Settings) : List (CliOption × String) :=
  CliOption.all.filterMap fun o => (s.text? o).map (o, ·)

theorem nodup_assignments (s : Settings) : (s.assignments.map Prod.fst).Nodup := by
  have distinct : CliOption.all.Nodup := by decide
  rw [assignments, List.map_filterMap, List.Nodup, List.pairwise_filterMap]
  refine distinct.imp fun other p one p' another => ?_
  simp only [Option.map_map, Option.map_eq_some_iff, Function.comp] at one another
  obtain ⟨-, -, rfl⟩ := one
  obtain ⟨-, -, rfl⟩ := another
  exact other

theorem lookup_assignments (s : Settings) (o : CliOption) :
    s.assignments.lookup o = s.text? o := by
  ext text
  rw [lookup_eq_some_iff_mem s.nodup_assignments]
  simp [assignments, o.mem_all]

theorem takes_text? (s : Settings) : s.Takes s.text? where
  url := rfl
  schema := rfl
  slowQuery := Threshold.ofText_toString s.slowQuery
  maxConnections := Draft.connections?_toString s.maxConnections
  connectionTimeout := Draft.timeout_toString s.connectionTimeout
  idleTimeout := Draft.timeout_toString s.idleTimeout

end Settings

/-- The arguments that name a command, with the name of a statement behind an equals sign. -/
def Command.arguments : Command → List String
  | check => ["check"]
  | exec name sql => "exec" :: ((name.map (Word.assigning "name")).toList ++ [sql])

theorem spells_arguments (plain : ∀ name sql, command = .exec name sql → Word.IsPlain sql) :
    Spells command.arguments [] command := by
  cases command with
  | check => exact .check
  | exec name sql =>
    have statement : ExecSpells [sql] none (some sql) := .statement (plain name sql rfl) .nothing
    cases name with
    | none => exact .exec statement
    | some name => exact .exec (.attached name statement)

theorem Spells.assigning (spells : Spells args [] command) (sets : List (CliOption × String)) :
    Spells (sets.map (fun set => Word.assigning set.1.flag set.2) ++ args) sets command := by
  induction sets with
  | nil => exact spells
  | cons set sets ih => exact .attached set.1 set.2 ih

namespace Invocation

/-- Settings that are spelled out on the command line, in any order, are read as they are. -/
theorem parse_assignments {s : Settings} (order : sets.Perm s.assignments)
    (unset : ∀ o, s.text? o = none → environment.lookup o.variableName = none)
    (plain : ∀ name sql, command = .exec name sql → Word.IsPlain sql) :
    parse (sets.map (fun set => Word.assigning set.1.flag set.2) ++ command.arguments)
      environment = .ok ⟨s, command⟩ := by
  have distinct : (sets.map Prod.fst).Nodup :=
    (order.map Prod.fst).nodup_iff.2 s.nodup_assignments
  have texts : textsFrom sets environment = s.text? := by
    funext o
    rw [textsFrom, lookup_eq_of_perm distinct order, s.lookup_assignments]
    cases text : s.text? o with
    | none => exact unset o text
    | some text => rfl
  refine (parse_eq_ok_iff ((spells_arguments plain).assigning sets)).2 ⟨rfl, distinct, ?_⟩
  rw [texts]
  exact s.takes_text?

/-- Settings that are spelled out on the command line, in any order, are read as they are, with
the command.  Of all command lines, exactly those are read that set no option twice, with the
settings that take each option from the command line, or else from its variable, or else have the
standard value.  The variable of an option that is set on the command line is not looked at, and
no text for the threshold keeps a command line from being read. -/
theorem parse_takes_sources :
    (∀ (s : Settings) (command : Command) (sets : List (CliOption × String))
      (environment : List (String × String)), sets.Perm s.assignments →
      (∀ o, s.text? o = none → environment.lookup o.variableName = none) →
      (∀ name sql, command = .exec name sql → Word.IsPlain sql) →
      parse (sets.map (fun set => Word.assigning set.1.flag set.2) ++ command.arguments)
        environment = .ok ⟨s, command⟩) ∧
    (∀ (args : List String) (environment : List (String × String)) (invocation : Invocation),
      parse args environment = .ok invocation →
      ∃ sets, Spells args sets invocation.command ∧ (sets.map Prod.fst).Nodup ∧
        invocation.settings.Takes (textsFrom sets environment)) ∧
    (∀ (args : List String) (sets : List (CliOption × String)) (command : Command)
      (environment : List (String × String)) (s : Settings), Spells args sets command →
      (parse args environment = .ok ⟨s, command⟩ ↔
        (sets.map Prod.fst).Nodup ∧ s.Takes (textsFrom sets environment))) ∧
    (∀ (args : List String) (sets : List (CliOption × String)) (command : Command)
      (environment environment' : List (String × String)), Spells args sets command →
      (∀ o ∉ sets.map Prod.fst,
        environment.lookup o.variableName = environment'.lookup o.variableName) →
      parse args environment = parse args environment') ∧
    ∀ (args args' : List String) (sets sets' : List (CliOption × String))
      (command command' : Command) (environment environment' : List (String × String)),
      Spells args sets command → Spells args' sets' command' →
      (sets.map Prod.fst).Nodup → (sets'.map Prod.fst).Nodup →
      (∀ o, o ≠ .slowQuery → textsFrom sets environment o = textsFrom sets' environment' o) →
      ((∃ invocation, parse args environment = .ok invocation) ↔
        ∃ invocation, parse args' environment' = .ok invocation) := by
  refine ⟨fun s command sets environment => parse_assignments,
    fun args environment invocation parsed => ?_,
    fun args sets command environment s spells => ?_,
    fun args sets command environment environment' spells agree => parse_congr spells agree,
    fun args args' sets sets' command command' environment environment' spells spells' distinct
      distinct' alike => ?_⟩
  · obtain ⟨sets, spells⟩ := exists_spells_of_parse parsed
    obtain ⟨-, distinct, takes⟩ := (parse_eq_ok_iff spells).1 parsed
    exact ⟨sets, spells, distinct, takes⟩
  · rw [parse_eq_ok_iff spells]
    exact and_iff_right rfl
  · rw [accepted_iff spells, accepted_iff spells', alike .url nofun, admissible_congr alike]
    exact and_congr_left fun _ => iff_of_true distinct distinct'

/-- Options in another order, with variables beside them that are not numbers, and texts for the
threshold that are not numbers either. -/
theorem parse_takes_sources_of_unparsable :
    let s : Settings := ⟨"postgres://db", "public", ⟨250⟩, 10, none, some 60⟩
    let args := ["--postgres-idle-timeout-secs=60", "--postgres-max-connections=10",
      "--postgres-slow-query-ms=250", "--postgres-schema=public", "--postgres-url=postgres://db",
      "exec", "--name=purge", "DELETE FROM sessions"]
    let environment := [("POSTGRES_MAX_CONNECTIONS", "many"), ("POSTGRES_IDLE_TIMEOUT_SECS", "")]
    parse args environment = .ok ⟨s, .exec (some "purge") "DELETE FROM sessions"⟩ ∧
    parse args environment = parse args [] ∧
    (∃ sets, Spells args sets (.exec (some "purge") "DELETE FROM sessions") ∧
      (sets.map Prod.fst).Nodup ∧ s.Takes (textsFrom sets environment)) ∧
    parse ["--postgres-slow-query-ms", "soon", "check"] [("POSTGRES_URL", "postgres://db")] =
      .ok ⟨.new "postgres://db", .check⟩ ∧
    ∃ invocation, parse ["check"]
      [("POSTGRES_URL", "postgres://db"), ("POSTGRES_SLOW_QUERY_MS", "never")] =
      .ok invocation := by
  intro s args environment
  obtain ⟨written, accepted, sources, unread, lenient⟩ := parse_takes_sources
  let command : Command := .exec (some "purge") "DELETE FROM sessions"
  let sets := s.assignments.reverse
  have plain : ∀ name sql, command = .exec name sql → Word.IsPlain sql := by
    intro name sql same
    obtain ⟨-, rfl⟩ := Command.exec.inj same
    decide
  have whole :
      args = sets.map (fun set => Word.assigning set.1.flag set.2) ++ command.arguments := by
    decide
  have spells : Spells args sets command := whole ▸ (spells_arguments plain).assigning sets
  have parsed : parse args environment = .ok ⟨s, command⟩ := by
    rw [whole]
    refine written s command sets environment (List.reverse_perm _) (fun o unset => ?_) plain
    cases o with
    | connectionTimeout => rfl
    | _ => cases unset
  have soon : Spells ["--postgres-slow-query-ms", "soon", "check"] [(.slowQuery, "soon")] .check :=
    .separate .slowQuery (by decide) .check
  have disabled := (sources _ _ _ [("POSTGRES_URL", "postgres://db")] (.new "postgres://db") soon).2
    ⟨by decide, rfl, rfl, rfl, rfl, rfl, rfl⟩
  refine ⟨parsed, unread args sets command environment [] spells fun o outside => ?_,
    accepted args environment _ parsed, disabled, ?_⟩
  · cases o with
    | connectionTimeout => rfl
    | _ => exact absurd (by decide) outside
  · refine (lenient _ _ _ _ _ _ _ _ soon .check (by decide) (by decide) fun o other => ?_).1
      ⟨_, disabled⟩
    cases o with
    | slowQuery => exact absurd rfl other
    | _ => rfl

end Invocation

end SchemaPool
