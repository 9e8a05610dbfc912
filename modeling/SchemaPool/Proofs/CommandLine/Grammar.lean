import SchemaPool.Proofs.CommandLine.Words

/-! # How command lines are spelled

A command line is spelled from options with their texts, behind an equals sign or as the next
argument, and a command.  What is spelled so is read so (`Draft.read_of_spells`,
`ExecDraft.read_of_spells`), and whatever is read as a command has been spelled so
(`Draft.exists_spells_of_read`, `ExecDraft.exists_spells_of_read`).  A value that the reader holds
back is no obstacle: when it comes to be looked at, it is as if it had been read just before. -/

namespace SchemaPool

/-! ## Values that are held back -/

/-- The arguments that have been read without the option's value being looked at. -/
def Held.words {o : Type} (flag : o → String) : Held o → List String
  | nothing => []
  | awaiting option => [Word.bare (flag option)]
  | value option text => [Word.bare (flag option), text]

/-- What is held as a value is a plain argument. -/
def Held.IsPlain {o : Type} (held : Held o) : Prop :=
  ∀ option text, held = value option text → Word.IsPlain text

theorem Held.isPlain_nothing {o : Type} : (nothing : Held o).IsPlain := nofun

theorem Held.isPlain_awaiting {o : Type} (option : o) : (awaiting option).IsPlain := nofun

theorem Held.isPlain_value {o : Type} (option : o) {text : String} (plain : Word.IsPlain text) :
    (value option text).IsPlain := by
  rintro _ _ ⟨⟩
  exact plain

/-! ## The arguments of a statement -/

@[simp] theorem Word.ofString_name (text : String) :
    ofString (assigning "name" text) = .long "name" (some text) :=
  ofString_assigning (by decide) text

@[simp] theorem Word.ofString_bare_name : ofString (bare "name") = .long "name" none := by decide

@[simp] theorem Word.ofString_dashes : ofString "--" = .dashes := rfl

/-- The arguments of a statement, with the name and the statement that they give. -/
inductive ExecSpells : List String → Option String → Option String → Prop where
  | nothing : ExecSpells [] none none
  | attached {args : List String} {sql : Option String} (text : String)
      (rest : ExecSpells args none sql) :
      ExecSpells (Word.assigning "name" text :: args) (some text) sql
  | separate {args : List String} {sql : Option String} {text : String}
      (plain : Word.IsPlain text) (rest : ExecSpells args none sql) :
      ExecSpells (Word.bare "name" :: text :: args) (some text) sql
  | statement {args : List String} {name : Option String} {text : String}
      (plain : Word.IsPlain text) (rest : ExecSpells args name none) :
      ExecSpells (text :: args) name (some text)
  -- Behind two dashes there is nothing but the statement.
  | dashes (sql : Option String) : ExecSpells ("--" :: sql.toList) none sql

namespace ExecDraft

variable {d d₁ : ExecDraft} {held : Held Unit} {args : List String} {name sql : Option String}
  {arg text : String} {c : Command}

/-- What has been read and what is still given make up the command, and nothing is given twice. -/
structure Completes (d : ExecDraft) (name sql : Option String) (c : Command) : Prop where
  nameOnce : d.name = none ∨ name = none
  sqlOnce : d.sql = none ∨ sql = none
  command : ∃ statement, d.sql.or sql = some statement ∧ c = .exec (d.name.or name) statement

theorem settle_nothing (d : ExecDraft) : d.settle .nothing = .ok d := rfl

theorem settle_value_eq_ok_iff :
    d.settle (.value () text) = .ok d₁ ↔ d.name = none ∧ d₁ = { d with name := some text } := by
  change d.putName text = .ok d₁ ↔ _
  cases fresh : d.name <;> simp [putName, fresh, eq_comm]

theorem putName_eq_ok_iff :
    d.putName text = .ok d₁ ↔ d.name = none ∧ d₁ = { d with name := some text } :=
  settle_value_eq_ok_iff

theorem sql_of_settle (settled : d.settle held = .ok d₁) : d₁.sql = d.sql := by
  cases held with
  | nothing => cases settled; rfl
  | awaiting => cases settled
  | value _ text =>
    obtain ⟨-, rfl⟩ := settle_value_eq_ok_iff.1 settled
    rfl

theorem putPlain_eq_ok_iff {d₂ : ExecDraft} : d.putPlain held text = .ok d₂ ↔
    ∃ d₁, d.settle held = .ok d₁ ∧ d₁.sql = none ∧ d₂ = { d₁ with sql := some text } := by
  rw [putPlain]
  cases settled : d.settle held with
  | error e => split <;> simp [Except.map]
  | ok d₁ =>
    have same := sql_of_settle settled
    cases fresh : d.sql <;> simp [Except.map, same, fresh, eq_comm]

theorem finish_eq_ok_iff : d.finish held = .ok c ↔
    ∃ d₁, d.settle held = .ok d₁ ∧ d₁.Completes none none c := by
  refine bind_eq_ok_iff.trans (exists_congr fun d₁ => and_congr_right fun _ => ?_)
  constructor
  · intro finished
    split at finished
    · next statement given =>
      cases finished
      exact ⟨.inr rfl, .inr rfl, statement, by simp [given], by simp⟩
    · cases finished
  · rintro ⟨-, -, statement, given, rfl⟩
    rw [Option.or_none] at given
    simp [given]

theorem completes_named_iff : d.Completes (some text) sql c ↔
    d.name = none ∧ Completes ⟨some text, d.sql⟩ none sql c := by
  constructor
  · intro completes
    have fresh : d.name = none := completes.nameOnce.resolve_right nofun
    exact ⟨fresh, .inr rfl, completes.sqlOnce, by simpa [fresh] using completes.command⟩
  · rintro ⟨fresh, completes⟩
    exact ⟨.inl fresh, completes.sqlOnce, by simpa [fresh] using completes.command⟩

theorem completes_stated_iff : d.Completes name (some text) c ↔
    d.sql = none ∧ Completes ⟨d.name, some text⟩ name none c := by
  constructor
  · intro completes
    have fresh : d.sql = none := completes.sqlOnce.resolve_right nofun
    exact ⟨fresh, completes.nameOnce, .inr rfl, by simpa [fresh] using completes.command⟩
  · rintro ⟨fresh, completes⟩
    exact ⟨completes.nameOnce, .inl fresh, by simpa [fresh] using completes.command⟩

theorem readPlain_eq_ok_iff : d.readPlain held args = .ok c ↔
    ∃ d₁ sql, d.settle held = .ok d₁ ∧ args = Option.toList sql ∧ d₁.Completes none sql c := by
  constructor
  · intro read
    cases args with
    | nil =>
      obtain ⟨d₁, settled, completes⟩ := finish_eq_ok_iff.1 read
      exact ⟨d₁, none, settled, rfl, completes⟩
    | cons arg args =>
      obtain ⟨d₂, put, read⟩ := bind_eq_ok_iff.1 read
      obtain ⟨d₁, settled, fresh, rfl⟩ := putPlain_eq_ok_iff.1 put
      cases args with
      | nil =>
        obtain ⟨d₂, settled₂, completes⟩ := finish_eq_ok_iff.1 read
        cases settled₂
        exact ⟨d₁, some arg, settled, rfl, completes_stated_iff.2 ⟨fresh, completes⟩⟩
      | cons arg' args => cases read
  · rintro ⟨d₁, sql, settled, rfl, completes⟩
    cases sql with
    | none => exact finish_eq_ok_iff.2 ⟨d₁, settled, completes⟩
    | some text =>
      obtain ⟨fresh, completes⟩ := completes_stated_iff.1 completes
      exact bind_eq_ok_iff.2 ⟨_, putPlain_eq_ok_iff.2 ⟨d₁, settled, fresh, rfl⟩,
        finish_eq_ok_iff.2 ⟨_, rfl, completes⟩⟩

/-- Arguments with the name and the statement that are missing are read as the command. -/
theorem read_of_spells (spells : ExecSpells args name sql) (settled : d.settle held = .ok d₁)
    (completes : d₁.Completes name sql c) : d.read held args = .ok c := by
  induction spells generalizing d held d₁ with
  | nothing =>
    rw [read, finish_eq_ok_iff]
    exact ⟨d₁, settled, completes⟩
  | attached text rest ih =>
    obtain ⟨fresh, completes⟩ := completes_named_iff.1 completes
    have put : d₁.putName text = .ok ⟨some text, d₁.sql⟩ := putName_eq_ok_iff.2 ⟨fresh, rfl⟩
    simp only [read, Word.ofString_name, settled, ok_bind, put]
    exact ih (settle_nothing _) completes
  | separate plain rest ih =>
    obtain ⟨fresh, completes⟩ := completes_named_iff.1 completes
    simp only [read, Word.ofString_bare_name, settled, ok_bind, Word.ofString_eq_plain_iff.2 plain]
    exact ih (settle_value_eq_ok_iff.2 ⟨fresh, rfl⟩) completes
  | @statement _ _ text plain rest ih =>
    obtain ⟨fresh, completes⟩ := completes_stated_iff.1 completes
    have put : d.putPlain held text = .ok ⟨d₁.name, some text⟩ :=
      putPlain_eq_ok_iff.2 ⟨d₁, settled, fresh, rfl⟩
    simp only [read, Word.ofString_eq_plain_iff.2 plain, put, ok_bind]
    cases held with
    | awaiting => cases settled
    | _ => exact ih (settle_nothing _) completes
  | dashes text =>
    simp only [read, Word.ofString_dashes]
    exact readPlain_eq_ok_iff.2 ⟨d₁, _, settled, rfl, completes⟩

theorem exists_spells_of_settle (settled : d.settle held = .ok d₁) (plain : held.IsPlain)
    (spells : ExecSpells args name sql) (completes : d₁.Completes name sql c) :
    ∃ name sql, ExecSpells (held.words (fun _ => "name") ++ args) name sql ∧
      d.Completes name sql c := by
  cases held with
  | nothing =>
    cases settled
    exact ⟨name, sql, spells, completes⟩
  | awaiting => cases settled
  | value _ text =>
    obtain ⟨fresh, rfl⟩ := settle_value_eq_ok_iff.1 settled
    obtain rfl : name = none := completes.nameOnce.resolve_left nofun
    exact ⟨some text, sql, .separate (plain _ text rfl) spells,
      completes_named_iff.2 ⟨fresh, completes⟩⟩

/-- What is read as a command gives the name and the statement that were missing. -/
theorem exists_spells_of_read (plain : held.IsPlain) (read : d.read held args = .ok c) :
    ∃ name sql, ExecSpells (held.words (fun _ => "name") ++ args) name sql ∧
      d.Completes name sql c := by
  induction args generalizing d held with
  | nil =>
    rw [ExecDraft.read, finish_eq_ok_iff] at read
    obtain ⟨d₁, settled, completes⟩ := read
    exact exists_spells_of_settle settled plain .nothing completes
  | cons arg args ih =>
    rw [ExecDraft.read.eq_def] at read
    dsimp only at read
    split at read
    · next told =>
      obtain ⟨d₁, sql, settled, rfl, completes⟩ := readPlain_eq_ok_iff.1 read
      rw [Word.eq_dashes told]
      exact exists_spells_of_settle settled plain (.dashes sql) completes
    · next value told =>
      obtain ⟨d₁, settled, read⟩ := bind_eq_ok_iff.1 read
      split at read
      · next text _ =>
        obtain ⟨d₂, put, read⟩ := bind_eq_ok_iff.1 read
        obtain ⟨fresh, rfl⟩ := putName_eq_ok_iff.1 put
        obtain ⟨name, sql, spells, completes⟩ := ih Held.isPlain_nothing read
        obtain rfl : name = none := completes.nameOnce.resolve_left nofun
        rw [Word.eq_assigning told]
        exact exists_spells_of_settle settled plain (.attached text spells)
          (completes_named_iff.2 ⟨fresh, completes⟩)
      · obtain ⟨name, sql, spells, completes⟩ := ih (Held.isPlain_awaiting ()) read
        rw [Word.eq_bare told]
        exact exists_spells_of_settle settled plain spells completes
    · cases read
    · exact absurd read bind_error_ne_ok
    · exact absurd read bind_error_ne_ok
    · cases read
    · cases read
    · next told =>
      have arg_plain : Word.IsPlain arg := Word.ofString_eq_plain_iff.1 told
      split at read
      · exact ih (Held.isPlain_value () arg_plain) read
      · obtain ⟨d₂, put, read⟩ := bind_eq_ok_iff.1 read
        obtain ⟨d₁, settled, fresh, rfl⟩ := putPlain_eq_ok_iff.1 put
        obtain ⟨name, sql, spells, completes⟩ := ih Held.isPlain_nothing read
        obtain rfl : sql = none := completes.sqlOnce.resolve_left nofun
        exact exists_spells_of_settle settled plain (.statement arg_plain spells)
          (completes_stated_iff.2 ⟨fresh, completes⟩)

end ExecDraft

/-! ## Options and the command -/

/-- The arguments of a command line, with what they set the options to, in their order, and the
command that they name. -/
inductive Spells : List String → List (CliOption × String) → Command → Prop where
  | check : Spells ["check"] [] .check
  | checkDashes : Spells ["check", "--"] [] .check
  | exec {args : List String} {name : Option String} {sql : String}
      (spells : ExecSpells args name (some sql)) : Spells ("exec" :: args) [] (.exec name sql)
  | attached {args : List String} {sets : List (CliOption × String)} {command : Command}
      (o : CliOption) (text : String) (rest : Spells args sets command) :
      Spells (Word.assigning o.flag text :: args) ((o, text) :: sets) command
  | separate {args : List String} {sets : List (CliOption × String)} {command : Command}
      {text : String} (o : CliOption) (plain : Word.IsPlain text)
      (rest : Spells args sets command) :
      Spells (Word.bare o.flag :: text :: args) ((o, text) :: sets) command

theorem checkArguments_eq_ok_iff {args : List String} {command : Command} :
    checkArguments args = .ok command ↔ (args = [] ∨ args = ["--"]) ∧ command = .check := by
  constructor
  · intro checked
    rw [checkArguments.eq_def] at checked
    split at checked
    · cases checked
      exact ⟨.inl rfl, rfl⟩
    · next arg rest =>
      split at checked <;> try cases checked
      next told =>
        split at checked <;> cases checked
        next empty =>
          rw [Word.eq_dashes told, List.isEmpty_iff.1 empty]
          exact ⟨.inr rfl, rfl⟩
  · rintro ⟨rfl | rfl, rfl⟩ <;> rfl

/-- The command that the arguments name, by the first of them. -/
def command? (arg : String) (args : List String) : Except UsageStop Command :=
  if arg = "check" then checkArguments args
  else if arg = "exec" then ExecDraft.read ⟨none, none⟩ .nothing args
  else if arg = "help" then .error (helpOn args)
  else .error .unknownCommand

namespace Draft

variable {d d₁ : Draft} {held : Held CliOption} {args : List String}
  {sets : List (CliOption × String)} {command : Command} {arg : String}

/-- Sets options to texts, one after the other. -/
def putAll (d : Draft) (sets : List (CliOption × String)) : Except UsageStop Draft :=
  sets.foldlM (fun d set => d.put set.1 set.2) d

theorem read_plain (plain : Word.IsPlain arg) (present : ∀ o, held ≠ .awaiting o) :
    d.read held (arg :: args) = do
      let command ← command? arg args
      return (← d.settle held, some command) := by
  have told := Word.ofString_eq_plain_iff.2 plain
  cases held with
  | awaiting o => exact absurd rfl (present o)
  | _ =>
    simp only [read, told, command?]
    split
    · rfl
    · split
      · rfl
      · split <;> rfl

theorem putAll_cons (o : CliOption) (text : String) (sets : List (CliOption × String)) :
    d.putAll ((o, text) :: sets) = d.put o text >>= (·.putAll sets) := rfl

/-- Arguments set the options and then name the command. -/
theorem read_of_spells (spells : Spells args sets command) (present : ∀ o, held ≠ .awaiting o) :
    d.read held args = do
      let d ← d.settle held
      let d ← d.putAll sets
      return (d, some command) := by
  induction spells generalizing d held with
  | check =>
    rw [read_plain (by decide) present]
    rfl
  | checkDashes =>
    rw [read_plain (by decide) present]
    rfl
  | @exec args name sql spells =>
    have completes : ExecDraft.Completes ⟨none, none⟩ name (some sql) (.exec name sql) :=
      ⟨.inl rfl, .inl rfl, sql, rfl, rfl⟩
    have named : command? "exec" args = .ok (.exec name sql) :=
      ExecDraft.read_of_spells spells rfl completes
    rw [read_plain (by decide) present, named]
    rfl
  | attached o text rest ih =>
    simp only [read, CliOption.ofString_assigning_flag, CliOption.ofFlag?_flag, putAll_cons,
      bind_assoc]
    exact bind_congr fun d₁ => bind_congr fun d₂ => ih nofun
  | separate o plain rest ih =>
    simp only [read, CliOption.ofString_bare_flag, CliOption.ofFlag?_flag, putAll_cons, bind_assoc,
      Word.ofString_eq_plain_iff.2 plain]
    exact bind_congr fun d₁ => ih nofun

theorem spells_of_command? (named : command? arg args = .ok command) :
    Spells (arg :: args) [] command := by
  rw [command?] at named
  split at named
  · next check =>
    obtain ⟨rfl | rfl, rfl⟩ := checkArguments_eq_ok_iff.1 named
    · rw [check]
      exact .check
    · rw [check]
      exact .checkDashes
  · split at named
    · next exec =>
      obtain ⟨name, sql, spells, completes⟩ :=
        ExecDraft.exists_spells_of_read Held.isPlain_nothing named
      obtain ⟨statement, rfl, rfl⟩ := completes.command
      rw [exec]
      exact .exec spells
    · split at named <;> cases named

theorem exists_spells_of_settle (settled : d.settle held = .ok d₁) (plain : held.IsPlain)
    (spells : Spells args sets command) :
    ∃ sets, Spells (held.words (·.flag) ++ args) sets command := by
  cases held with
  | nothing => exact ⟨sets, spells⟩
  | awaiting o => cases settled
  | value o text => exact ⟨(o, text) :: sets, .separate o (plain o text rfl) spells⟩

theorem readPlain_ne_command : d.readPlain held args ≠ .ok (d₁, some command) := by
  intro read
  cases args with
  | nil =>
    obtain ⟨_, -, same⟩ := map_eq_ok_iff.1 read
    cases same
  | cons arg args => cases read

theorem exists_spells_of_plain (arg_plain : Word.IsPlain arg) (present : ∀ o, held ≠ .awaiting o)
    (plain : held.IsPlain) (read : d.read held (arg :: args) = .ok (d₁, some command)) :
    ∃ sets, Spells (held.words (·.flag) ++ arg :: args) sets command := by
  rw [read_plain arg_plain present] at read
  obtain ⟨command, named, read⟩ := bind_eq_ok_iff.1 read
  obtain ⟨d₂, settled, same⟩ := bind_eq_ok_iff.1 read
  cases same
  exact exists_spells_of_settle settled plain (spells_of_command? named)

/-- Arguments that are read as a command set options and then name the command. -/
theorem exists_spells_of_read (plain : held.IsPlain)
    (read : d.read held args = .ok (d₁, some command)) :
    ∃ sets, Spells (held.words (·.flag) ++ args) sets command := by
  induction args generalizing d held with
  | nil =>
    have plainly : d.readPlain held [] = .ok (d₁, some command) := read
    exact absurd plainly readPlain_ne_command
  | cons arg args ih =>
    have whole := read
    rw [Draft.read.eq_def] at read
    dsimp only at read
    split at read
    · exact absurd read readPlain_ne_command
    · next name value told =>
      split at read
      · next o known =>
        obtain rfl := CliOption.ofFlag?_eq_some_iff.1 known
        obtain ⟨d₂, settled, read⟩ := bind_eq_ok_iff.1 read
        split at read
        · next text _ =>
          obtain ⟨d₃, -, read⟩ := bind_eq_ok_iff.1 read
          obtain ⟨sets, spells⟩ := ih Held.isPlain_nothing read
          rw [Word.eq_assigning told]
          exact exists_spells_of_settle settled plain (.attached o text spells)
        · obtain ⟨sets, spells⟩ := ih (Held.isPlain_awaiting o) read
          rw [Word.eq_bare told]
          exact exists_spells_of_settle settled plain spells
      · split at read
        · cases read
        · cases read
        · exact absurd read bind_error_ne_ok
    · exact absurd read bind_error_ne_ok
    · exact absurd read bind_error_ne_ok
    · cases read
    · next told =>
      have arg_plain : Word.IsPlain arg := Word.ofString_eq_plain_iff.1 told
      by_cases waiting : ∃ o, held = .awaiting o
      · obtain ⟨o, rfl⟩ := waiting
        exact ih (Held.isPlain_value o arg_plain) read
      · exact exists_spells_of_plain arg_plain (fun o here => waiting ⟨o, here⟩) plain whole

end Draft

end SchemaPool
