import SchemaPool.Proofs.Schema.LostRace
import SchemaPool.Proofs.Settings.Bounds

/-! # Starts with unsound settings

A start looks at its settings before it does anything else.  Unsound settings end it with their
first fault, and nothing but the log shows that it was tried; sound settings are never blamed for
what happens afterwards (`Client.connect_checks_first`). -/

namespace SchemaPool

open SchemaPool.Text (isBlank)

/-- The failure is put down to what the caller has given. -/
def Failure.blamesCaller : Failure → Bool
  | invalidArgument _ => true
  | config _ => true
  | _ => false

theorem Failure.blamesCaller_ofAcquire (e : AcquireError) : (ofAcquire e).blamesCaller = false := by
  cases e <;> rfl

theorem Exchange.blamesCaller_of_failure? {statement : String} {x : Exchange} {f : Failure}
    (failed : x.failure? statement = some f) : f.blamesCaller = false := by
  unfold failure? at failed
  split at failed
  · cases failed
    exact Failure.blamesCaller_ofAcquire _
  · cases failed
  · split at failed
    · cases failed
    · cases failed
      rfl

namespace Client

variable {settings : Settings} {reporter : Reporter}

/-- With sound settings, a start fails only with the failure of an exchange. -/
theorem blamesCaller_of_valid (around : Surroundings) (valid : settings.validate = .ok ())
    {f : Failure} (failed : (connect settings reporter around).result = .error f) :
    f.blamesCaller = false := by
  obtain ⟨setup, asked⟩ := setupFor_of_valid valid reporter
  have created := setup.schema.createStatement_eq
  have decides := Startup.plan_follows created
    (fun text made => text_ne_statement_of_creates asked (by rw [created, Option.mem_def.1 made]))
    (hold_follows (.plan setup) (beginning settings setup (around.announce settings)))
  rw [← result_connect around valid asked] at decides
  obtain ⟨passed, fatal, -, -, fails⟩ := decides.failure f failed
  exact Exchange.blamesCaller_of_failure? fails

theorem note_note (around : Surroundings) (entries more : List LogEntry) :
    (around.note entries).note more = around.note (entries ++ more) := by
  simp [Surroundings.note, Timeline.note]

/-- A start that is refused for its settings has written to the log, and that is all. -/
theorem connect_of_invalid (reporter : Reporter) (around : Surroundings) {f : Failure}
    (invalid : settings.validate = .error f) :
    ∃ entries, connect settings reporter around = .refused f (around.note entries) := by
  simp only [connect, invalid, Surroundings.announce, note_note]
  exact ⟨_, rfl⟩

/-- Whatever is around it and whoever the reports are for, a start with a blank connection string
or schema is refused for that, and any other with a number out of its range for the first such
number; then no connection has been opened, no statement sent, nothing reported, and no time has
passed.  In all other cases the settings are sound, the schema and its statements exist, and the
start does not fail for an argument or a setting. -/
theorem connect_checks_first (settings : Settings) (reporter : Reporter) (around : Surroundings) :
    let opening := connect settings reporter around
    let given := isBlank settings.url = false ∧ isBlank settings.schema = false
    (¬ given → opening.result = .error (.invalidArgument
      (if isBlank settings.url then .blankUrl else .blankSchema))) ∧
    (given → ∀ b ∈ settings.bounds.find? (!·.isKept), ∃ fault,
      opening.result = .error (.config fault) ∧ fault.message = b.complaint) ∧
    (¬ (given ∧ ∀ b ∈ settings.bounds, b.isKept = true) →
      opening.around.server = around.server ∧ opening.around.journal = around.journal ∧
        opening.around.timeline.reports = around.timeline.reports ∧
        opening.around.timeline.now = around.timeline.now) ∧
    (given → (∀ b ∈ settings.bounds, b.isKept = true) →
      (∃ setup create, settings.validate = .ok () ∧ setupFor settings reporter = .ok setup ∧
        settings.schemaName = .ok setup.schema ∧ setup.schema.createStatement = .ok create ∧
        setup.schema.searchPathStatement = .ok setup.statement) ∧
      (∀ fault, opening.result ≠ .error (.invalidArgument fault)) ∧
      ∀ fault, opening.result ≠ .error (.config fault)) := by
  intro opening given
  have texts : settings.textsGiven = true ↔ given := by
    simp [Settings.textsGiven, given]
  have result {f : Failure} (invalid : settings.validate = .error f) :
      opening.result = .error f := by
    obtain ⟨entries, refused⟩ := connect_of_invalid reporter around invalid
    exact congrArg Opening.result refused
  rw [← Settings.broken?_eq_none_iff, ← texts]
  refine ⟨fun blank => ?_, fun filled b broken => ?_, fun unsound => ?_, fun filled kept => ?_⟩
  · exact result (Settings.validate_of_not_textsGiven (by simpa using blank))
  · obtain ⟨fault, invalid, message⟩ := Settings.validate_of_broken filled broken
    exact ⟨fault, result invalid, message⟩
  · obtain ⟨f, invalid⟩ := Settings.exists_invalid unsound
    obtain ⟨entries, refused⟩ := connect_of_invalid reporter around invalid
    rw [show opening.around = around.note entries from congrArg Opening.around refused]
    exact ⟨rfl, rfl, rfl, rfl⟩
  · have valid := Settings.validate_of_sound filled kept
    obtain ⟨setup, asked⟩ := setupFor_of_valid valid reporter
    obtain ⟨named, stated, -⟩ := setupFor_ok asked
    have blameless {f : Failure} (failed : opening.result = .error f) : f.blamesCaller = false :=
      blamesCaller_of_valid around valid failed
    refine ⟨⟨setup, _, valid, asked, named, setup.schema.createStatement_eq, stated⟩,
      fun fault failed => ?_, fun fault failed => ?_⟩
    · cases blameless failed
    · cases blameless failed

/-- Of two timeouts out of their ranges the first is complained of; without them the start is not
refused for its settings. -/
theorem connect_checks_first_of_timeouts :
    let sound := Settings.new "postgres://localhost/app"
    let settings := { sound with connectionTimeout := some 301, idleTimeout := some 5 }
    let around := Surroundings.ofServer (.ofScript [] [])
    (∃ fault, (connect settings .log around).result = .error (.config fault) ∧
      fault.message = "connection_timeout_secs is 301, expected 1..=300") ∧
    (connect settings .log around).around.journal = [] ∧
    ∀ fault, (connect sound .log around).result ≠ .error (.config fault) := by
  intro sound settings around
  obtain ⟨-, first, untouched, -⟩ := connect_checks_first settings .log around
  obtain ⟨-, -, -, passes⟩ := connect_checks_first sound .log around
  have given : isBlank "postgres://localhost/app" = false ∧ isBlank "public" = false := by
    decide +kernel
  have broken : settings.broken? = some ⟨"connection_timeout_secs", 301, 1, 300⟩ := by
    decide +kernel
  have unsound : ¬ ∀ b ∈ settings.bounds, b.isKept = true := by
    rw [← Settings.broken?_eq_none_iff, broken]
    nofun
  have kept : sound.broken? = none := by decide +kernel
  exact ⟨first given _ broken, (untouched fun all => unsound all.2).2.1,
    (passes given (Settings.broken?_eq_none_iff.1 kept)).2.2⟩

end Client

end SchemaPool
