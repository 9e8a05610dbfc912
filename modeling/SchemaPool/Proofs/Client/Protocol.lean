import SchemaPool.Proofs.Client.Acquisition

/-! # The protocol of a start

A start is a dialogue of at most two exchanges: the schema is created, if it needs to be, and
the session's statement is tried.  Every exchange is kept with what it came to
(`Client.transcribe`), and the outcome of the start is a matter of these alone (`Follows`): it
succeeds just if every exchange is made and lets it go on, and otherwise the last one says why
not. -/

namespace SchemaPool

/-! ## Exchanges -/

/-- An exchange of a start. -/
structure Exchange where
  text : String
  -- What borrowing the connection came to.
  lent : Except AcquireError Lent
  -- The database when the connection has been borrowed.
  server : Server
  answer : Except AcquireError (Except QueryError Unit)
  happenings : List Happening

namespace Exchange

/-- The reason for which a start ends with this exchange.  Only the creation of the schema may
fail harmlessly, so not the session's statement. -/
def failure? (statement : String) (x : Exchange) : Option Failure :=
  match x.answer with
  | .error e => some (.ofAcquire e)
  | .ok (.ok ()) => none
  | .ok (.error e) => if x.text ≠ statement ∧ e.isLostRace = true then none else some (.query e)

/-- The start goes on after this exchange, or has succeeded with it. -/
def Passes (statement : String) (x : Exchange) : Prop := x.failure? statement = none

/-- A connection is borrowed or not, whatever is answered to the session's statement on a new
one; on a borrowed connection the statement is sent, unless it has been lost, and the database's
answer is the answer. -/
structure Faithful (statement : String) (x : Exchange) : Prop where
  refused : ∀ e, x.lent = .error e → x.answer = .error e ∧
    ∀ h ∈ x.happenings, ∃ n, h = .sent n Statement.check.text ∨ h = .discarded n
  answered : ∀ l, x.lent = .ok l →
    (x.answer = .ok (if l.link.lost then .error .connectionLost
      else (x.server.react l.link.number x.text).1.reply.result.map fun _ => ())) ∧
    ∃ before, x.happenings = before ++ Client.issued l.link x.text ++ [.returned l.link.number] ∧
      ∀ n text, .sent n text ∈ before → text = Statement.check.text ∨ text = statement

end Exchange

namespace Client

/-- The exchange that is about to be made. -/
def observe (text : String) (c : Client) : Exchange where
  text
  lent := (acquire c).1
  server := (acquire c).2.around.server
  answer := (exchange text c).1
  happenings := (exchange text c).2.around.journal.drop c.around.journal.length

/-- The exchanges of a dialogue. -/
def transcribe : Startup → Client → List Exchange
  | .done _, _ => []
  | .note entries next, c => transcribe next (note entries c).2
  | .exchange text next, c =>
    observe text c :: transcribe (next (exchange text c).1) (exchange text c).2

theorem exchange_spec (text : String) (c : Client) :
    After (exchange text) c fun answer c' =>
      ∃ hs, c'.around.journal = c.around.journal ++ hs ∧
        c'.setup.statement = c.setup.statement ∧
        (⟨text, (acquire c).1, (acquire c).2.around.server, answer, hs⟩ : Exchange).Faithful
          c.setup.statement := by
  -- The equation is kept, because what is observed of the loan is computed from `acquire c`.
  refine After.bind (P := fun r c₁ => acquire c = (r, c₁) ∧ Lending c r c₁)
    ⟨rfl, acquire_lending c⟩ ?_
  rintro r c₁ ⟨acquired, lending⟩
  rw [acquired]
  obtain ⟨hs, journal, statement, sent, refused⟩ := lending.happenings
  cases r with
  | error e =>
    refine ⟨hs, journal, statement, ?_, nofun⟩
    rintro e' ⟨⟩
    exact ⟨rfl, refused e rfl⟩
  | ok lent =>
    refine After.bind (batch_worked lent.link text c₁) ?_
    rintro ⟨link, result⟩ c₂ ⟨worked, answer⟩
    refine ⟨hs ++ issued lent.link text ++ [.returned lent.link.number], ?_, ?_, nofun, ?_⟩
    · change c₂.around.journal ++ [.returned link.number] = _
      rw [worked.goes.journal, journal, show link.number = lent.link.number from worked.number]
      simp only [List.append_assoc]
    · change c₂.setup.statement = _
      rw [worked.goes.setup, statement]
    · rintro l ⟨⟩
      exact ⟨congrArg _ answer, hs, rfl, sent⟩

theorem exchange_observe (text : String) (c : Client) :
    After (exchange text) c fun _ c' =>
      c'.around.journal = c.around.journal ++ (observe text c).happenings ∧
        c'.setup.statement = c.setup.statement ∧
        (observe text c).Faithful c.setup.statement := by
  obtain ⟨hs, journal, statement, faithful⟩ := exchange_spec text c
  have happenings : (observe text c).happenings = hs := by
    rw [observe, journal, List.drop_left]
  rw [← happenings] at journal faithful
  exact ⟨journal, statement, faithful⟩

/-- What all the exchanges of a dialogue have done is in the journal, and nothing else is new
there. -/
theorem hold_transcribe (dialogue : Startup) (c : Client) :
    After (hold dialogue) c fun _ c' =>
      c'.around.journal =
          c.around.journal ++ (transcribe dialogue c).flatMap Exchange.happenings ∧
        ∀ x ∈ transcribe dialogue c, x.Faithful c.setup.statement := by
  induction dialogue generalizing c with
  | done result => exact ⟨(List.append_nil _).symm, fun _ member => by cases member⟩
  | note entries next ih =>
    obtain ⟨journal, faithful⟩ := ih (Client.note entries c).2
    exact ⟨journal, faithful⟩
  | exchange text next ih =>
    obtain ⟨made, statement, first⟩ := exchange_observe text c
    obtain ⟨journal, faithful⟩ := ih (exchange text c).1 (exchange text c).2
    refine ⟨?_, fun x member => ?_⟩
    · rw [transcribe, List.flatMap_cons, ← List.append_assoc, ← made]
      exact journal
    · cases member with
      | head => exact first
      | tail _ member => exact statement ▸ faithful x member

end Client

/-! ## Dialogues -/

namespace Startup

/-- A dialogue in which these exchanges are made comes to the result. -/
inductive Follows : Startup → List Exchange → Except Failure Unit → Prop where
  | done (result : Except Failure Unit) : Follows (.done result) [] result
  | note {entries next xs result} (rest : Follows next xs result) :
      Follows (.note entries next) xs result
  | exchange {text next x xs result} (said : x.text = text)
      (rest : Follows (next x.answer) xs result) : Follows (.exchange text next) (x :: xs) result

end Startup

theorem Client.hold_follows (dialogue : Startup) (c : Client) :
    dialogue.Follows (transcribe dialogue c) (hold dialogue c).1 := by
  induction dialogue generalizing c with
  | done result => exact .done result
  | note entries next ih => exact .note (ih _)
  | exchange text next ih => exact .exchange rfl (ih _ _)

namespace Startup

variable {setup : SessionSetup} {xs : List Exchange} {result : Except Failure Unit}

theorem refuse_follows {e : AcquireError} (follows : (refuse e).Follows xs result) :
    xs = [] ∧ result = .error (.ofAcquire e) := by
  cases follows with
  | note rest =>
    cases rest with
    | done => exact ⟨rfl, rfl⟩

theorem verify_follows (follows : (verify setup).Follows xs result) :
    ∃ x : Exchange, xs = [x] ∧ x.text = setup.statement ∧
      result = (x.failure? setup.statement).elim (.ok ()) .error := by
  cases follows with
  | note rest =>
    cases rest with
    | @exchange _ _ x xs _ said rest =>
      rcases answer : x.answer with e | e | _
      · rw [answer] at rest
        obtain ⟨rfl, rfl⟩ := refuse_follows rest
        refine ⟨x, rfl, said, ?_⟩
        simp [Exchange.failure?, answer]
      · rw [answer] at rest
        cases rest with
        | note rest =>
          cases rest with
          | done =>
            refine ⟨x, rfl, said, ?_⟩
            simp [Exchange.failure?, answer, said]
      · rw [answer] at rest
        cases rest with
        | done =>
          refine ⟨x, rfl, said, ?_⟩
          simp [Exchange.failure?, answer]

/-- The creation of the schema comes first if there is anything to create.  The start goes on
after it just if it passes. -/
theorem provision_follows {schema : SchemaName} {next : Startup} {create : Option String}
    (created : schema.createStatement = .ok create) (other : ∀ text ∈ create, text ≠ setup.statement)
    (follows : (provision schema next).Follows xs result) :
    (create = none ∧ next.Follows xs result) ∨
      ∃ x : Exchange, ∃ rest, xs = x :: rest ∧ create = some x.text ∧
        match x.failure? setup.statement with
        | some f => rest = [] ∧ result = .error f
        | none => next.Follows rest result := by
  unfold provision at follows
  rw [created] at follows
  cases create with
  | none =>
    cases follows with
    | note rest => exact .inl ⟨rfl, rest⟩
  | some text =>
    right
    cases follows with
    | @exchange _ _ x rest _ said follows =>
      refine ⟨x, rest, rfl, congrArg some said.symm, ?_⟩
      have differs : x.text ≠ setup.statement := said ▸ other text rfl
      rcases answer : x.answer with e | e | _
      · rw [answer] at follows
        have failed : x.failure? setup.statement = some (.ofAcquire e) := by
          simp [Exchange.failure?, answer]
        rw [failed]
        exact refuse_follows follows
      · rw [answer] at follows
        by_cases race : e.isLostRace = true
        · -- Somebody else has created the schema.
          have passed : x.failure? setup.statement = none := by
            simp [Exchange.failure?, answer, differs, race]
          rw [passed]
          simp only [race, if_true] at follows
          cases follows with
          | note follows => exact follows
        · have failed : x.failure? setup.statement = some (.query e) := by
            simp [Exchange.failure?, answer, race]
          rw [failed]
          simp only [race] at follows
          cases follows with
          | note follows =>
            cases follows with
            | done => exact ⟨rfl, rfl⟩
      · rw [answer] at follows
        have passed : x.failure? setup.statement = none := by simp [Exchange.failure?, answer]
        rw [passed]
        cases follows with
        | note follows => exact follows

/-- The texts of a start with everything that it may come to. -/
def texts (create : Option String) (setup : SessionSetup) : List String :=
  create.toList ++ [setup.statement]

/-- What the exchanges of a start say about its result. -/
structure Decides (create : Option String) (setup : SessionSetup) (xs : List Exchange)
    (result : Except Failure Unit) : Prop where
  texts : xs.map Exchange.text <+: texts create setup
  success : result = .ok () ↔
    xs.map Exchange.text = Startup.texts create setup ∧ ∀ x ∈ xs, x.Passes setup.statement
  failure : ∀ f, result = .error f → ∃ passed fatal, xs = passed ++ [fatal] ∧
    (∀ x ∈ passed, x.Passes setup.statement) ∧ fatal.failure? setup.statement = some f

theorem decides_of_last {create : Option String} (passed : List Exchange) {last : Exchange}
    (passes : ∀ x ∈ passed, x.Passes setup.statement)
    (made : (passed ++ [last]).map Exchange.text = texts create setup) :
    Decides create setup (passed ++ [last])
      ((last.failure? setup.statement).elim (.ok ()) .error) := by
  refine ⟨made ▸ List.prefix_refl _, ?_, ?_⟩
  · cases failed : last.failure? setup.statement with
    | none =>
      refine iff_of_true rfl ⟨made, fun x member => ?_⟩
      cases List.mem_append.1 member with
      | inl member => exact passes x member
      | inr member =>
        cases List.mem_singleton.1 member
        exact failed
    | some f =>
      refine iff_of_false nofun fun all => ?_
      have passed := all.2 last (List.mem_append_right _ List.mem_cons_self)
      rw [Exchange.Passes, failed] at passed
      cases passed
  · intro f ended
    refine ⟨passed, last, rfl, passes, ?_⟩
    cases failed : last.failure? setup.statement with
    | none =>
      rw [failed] at ended
      cases ended
    | some g =>
      rw [failed] at ended
      cases ended
      rfl

theorem plan_follows {create : Option String}
    (created : setup.schema.createStatement = .ok create)
    (other : ∀ text ∈ create, text ≠ setup.statement)
    (follows : (plan setup).Follows xs result) : Decides create setup xs result := by
  rcases provision_follows created other follows with ⟨rfl, verifies⟩ | ⟨x, rest, rfl, rfl, goes⟩
  · obtain ⟨x, rfl, said, rfl⟩ := verify_follows verifies
    exact decides_of_last [] (List.forall_mem_nil _) (by simp [texts, said])
  · cases failed : x.failure? setup.statement with
    | some f =>
      -- The session's statement is never tried, so not all exchanges are made.
      rw [failed] at goes
      obtain ⟨rfl, rfl⟩ := goes
      refine ⟨⟨[setup.statement], rfl⟩, iff_of_false nofun fun all => ?_, ?_⟩
      · simp [texts] at all
      · rintro g ⟨⟩
        exact ⟨[], x, rfl, List.forall_mem_nil _, failed⟩
    | none =>
      rw [failed] at goes
      obtain ⟨y, rfl, said, rfl⟩ := verify_follows goes
      refine decides_of_last [x] (fun z member => ?_) (by simp [texts, said])
      cases List.mem_singleton.1 member
      exact failed

end Startup

/-! ## Creating the schema -/

def createsSchema (text : String) : Bool :=
  Text.beginsWith "CREATE SCHEMA IF NOT EXISTS ".toList text.toList

/-- A statement that creates a schema reaches the database. -/
def Happening.creates : Happening → Bool
  | sent _ text => createsSchema text
  | _ => false

theorem createsSchema_of_createStatement {schema : SchemaName} {text : String}
    (created : schema.createStatement = .ok (some text)) : createsSchema text = true := by
  rw [SchemaName.createStatement_eq] at created
  split at created
  · cases created
  · rw [Except.ok.injEq, Option.some.injEq] at created
    rw [createsSchema, Text.beginsWith_iff, ← created, String.toList_append]
    exact List.prefix_append _ _

theorem createsSchema_of_searchPathStatement {schema : SchemaName} {text : String}
    (stated : schema.searchPathStatement = .ok text) : createsSchema text = false := by
  rw [SchemaName.searchPathStatement_eq, Except.ok.injEq] at stated
  have begun : "SET search_path TO ".toList <+: text.toList := by
    rw [← stated]
    split
    · rw [String.toList_append]
      exact List.prefix_append _ _
    · rw [String.toList_append, String.toList_append, List.append_assoc]
      exact List.prefix_append _ _
  rw [createsSchema, Bool.eq_false_iff]
  intro creates
  cases List.prefix_or_prefix_of_prefix (Text.beginsWith_iff.1 creates) begun with
  | inl same => exact absurd same (by decide +kernel)
  | inr same => exact absurd same (by decide +kernel)

theorem createsSchema_check : createsSchema Statement.check.text = false := by
  decide +kernel

namespace Exchange.Faithful

variable {statement : String} {x : Exchange}

/-- A connection whose session has been prepared is lent, whether the session's statement was
accepted or not. -/
theorem lent_of_prepared (faithful : x.Faithful statement) {n : Nat} {accepted : Bool}
    (prepared : .prepared n accepted ∈ x.happenings) : ∃ l, x.lent = .ok l := by
  cases lent : x.lent with
  | ok l => exact ⟨l, rfl⟩
  | error e =>
    obtain ⟨_, same | same⟩ := (faithful.refused e lent).2 _ prepared
    · cases same
    · cases same

theorem countP_creates_of_error (faithful : x.Faithful statement) {e : AcquireError}
    (refused : x.lent = .error e) : x.happenings.countP Happening.creates = 0 := by
  refine List.countP_eq_zero.2 fun h member => ?_
  obtain ⟨n, rfl | rfl⟩ := (faithful.refused e refused).2 h member
  · simp [Happening.creates, createsSchema_check]
  · exact Bool.false_ne_true

/-- An exchange creates a schema only by its own statement. -/
theorem countP_creates_of_ok (faithful : x.Faithful statement)
    (plain : createsSchema statement = false) {l : Lent} (lent : x.lent = .ok l) :
    x.happenings.countP Happening.creates =
      if l.link.lost = false ∧ createsSchema x.text = true then 1 else 0 := by
  obtain ⟨before, happenings, sent⟩ := (faithful.answered l lent).2
  have none : before.countP Happening.creates = 0 := by
    refine List.countP_eq_zero.2 fun h member creates => ?_
    cases h with
    | sent n text =>
      rw [Happening.creates] at creates
      rcases sent n text member with rfl | rfl
      · rw [createsSchema_check] at creates
        cases creates
      · rw [plain] at creates
        cases creates
    | _ => cases creates
  rw [happenings, List.countP_append, List.countP_append, none]
  cases lost : l.link.lost <;> cases creates : createsSchema x.text <;>
    simp [Client.issued, lost, Happening.creates, creates]

theorem countP_creates_le (faithful : x.Faithful statement)
    (plain : createsSchema statement = false) : x.happenings.countP Happening.creates ≤ 1 := by
  cases lent : x.lent with
  | error e => simp [faithful.countP_creates_of_error lent]
  | ok l =>
    rw [faithful.countP_creates_of_ok plain lent]
    split <;> simp

theorem countP_creates_of_not_creates (faithful : x.Faithful statement)
    (plain : createsSchema statement = false) (other : createsSchema x.text = false) :
    x.happenings.countP Happening.creates = 0 := by
  cases lent : x.lent with
  | error e => exact faithful.countP_creates_of_error lent
  | ok l => simp [faithful.countP_creates_of_ok plain lent, other]

/-- A start goes on only when the creation has reached the database: the loss of the connection
is not the loss of a race. -/
theorem countP_creates_of_passes (faithful : x.Faithful statement)
    (plain : createsSchema statement = false) (passes : x.Passes statement)
    (creates : createsSchema x.text = true) : x.happenings.countP Happening.creates = 1 := by
  have noRace : QueryError.connectionLost.isLostRace = false := by decide +kernel
  cases lent : x.lent with
  | error e =>
    have answer := (faithful.refused e lent).1
    simp [Exchange.Passes, Exchange.failure?, answer] at passes
  | ok l =>
    have answer := (faithful.answered l lent).1
    cases lost : l.link.lost with
    | false => simp [faithful.countP_creates_of_ok plain lent, lost, creates]
    | true =>
      simp only [lost, if_true] at answer
      simp [Exchange.Passes, Exchange.failure?, answer, noRace] at passes

end Exchange.Faithful

namespace Exchange

variable {statement : String} {xs : List Exchange}

theorem countP_happenings_le (faithful : ∀ x ∈ xs, x.Faithful statement)
    (plain : createsSchema statement = false) :
    (xs.flatMap happenings).countP Happening.creates ≤ (xs.map text).countP createsSchema := by
  induction xs with
  | nil => exact Nat.le_refl 0
  | cons x xs ih =>
    have rest := ih fun y member => faithful y (List.mem_cons_of_mem x member)
    have first := faithful x List.mem_cons_self
    rw [List.flatMap_cons, List.countP_append, List.map_cons, List.countP_cons]
    cases creates : createsSchema x.text with
    | false =>
      have none := first.countP_creates_of_not_creates plain creates
      simp only [Bool.false_eq_true, if_false]
      omega
    | true =>
      have most := first.countP_creates_le plain
      simp only [if_true]
      omega

theorem countP_happenings_of_passes (faithful : ∀ x ∈ xs, x.Faithful statement)
    (plain : createsSchema statement = false) (passes : ∀ x ∈ xs, x.Passes statement) :
    (xs.flatMap happenings).countP Happening.creates = (xs.map text).countP createsSchema := by
  induction xs with
  | nil => rfl
  | cons x xs ih =>
    have rest := ih (fun y member => faithful y (List.mem_cons_of_mem x member))
      fun y member => passes y (List.mem_cons_of_mem x member)
    have first := faithful x List.mem_cons_self
    rw [List.flatMap_cons, List.countP_append, List.map_cons, List.countP_cons, rest]
    cases creates : createsSchema x.text with
    | false =>
      have none := first.countP_creates_of_not_creates plain creates
      simp [none]
    | true =>
      have one := first.countP_creates_of_passes plain (passes x List.mem_cons_self) creates
      simp [one, Nat.add_comm]

end Exchange

theorem Startup.countP_texts {setup : SessionSetup} {create : Option String}
    (created : setup.schema.createStatement = .ok create)
    (plain : createsSchema setup.statement = false) :
    (texts create setup).countP createsSchema = if setup.schema.isDefault then 0 else 1 := by
  rw [texts, List.countP_append, List.countP_singleton, plain]
  cases create with
  | none => simp [SchemaName.isDefault_of_createStatement created]
  | some text =>
    simp [SchemaName.isDefault_of_createStatement created,
      createsSchema_of_createStatement created]

namespace Client

/-- A start with sound settings makes the exchanges that it has to make, one after another, until
one of them does not let it go on; they are faithful to the database, and nothing else happens.
It creates the schema at most once, exactly once if it succeeds and the schema is not the
default one, and never when the session's statement is tried. -/
theorem connect_protocol {settings : Settings} (reporter : Reporter) (around : Surroundings)
    (valid : settings.validate = .ok ()) :
    ∃ setup create, setupFor settings reporter = .ok setup ∧
      setup.schema.createStatement = .ok create ∧ (create = none ↔ setup.schema.isDefault = true) ∧
      let opening := connect settings reporter around
      let exchanges :=
        transcribe (.plan setup) (beginning settings setup (around.announce settings))
      let happenings := exchanges.flatMap Exchange.happenings
      let needed := if setup.schema.isDefault then 0 else 1
      Startup.Decides create setup exchanges opening.result ∧
      (∀ x ∈ exchanges, x.Faithful setup.statement) ∧
      (∀ x ∈ exchanges, ∀ n accepted, .prepared n accepted ∈ x.happenings → ∃ l, x.lent = .ok l) ∧
      opening.around.journal = around.journal ++ happenings ∧
      happenings.countP Happening.creates ≤ needed ∧
      (opening.result = .ok () → happenings.countP Happening.creates = needed) ∧
      ∀ x ∈ exchanges, x.text = setup.statement → x.happenings.countP Happening.creates = 0 := by
  obtain ⟨setup, asked⟩ := setupFor_of_valid valid reporter
  obtain ⟨-, stated, -, -⟩ := setupFor_ok asked
  have plain := createsSchema_of_searchPathStatement stated
  obtain ⟨create, created⟩ : ∃ create, setup.schema.createStatement = .ok create :=
    ⟨_, setup.schema.createStatement_eq⟩
  -- A failure of the creation is not mistaken for one of the session's statement.
  have other : ∀ text ∈ create, text ≠ setup.statement := by
    rintro text made rfl
    rw [Option.mem_def.1 made] at created
    rw [createsSchema_of_createStatement created] at plain
    cases plain
  obtain ⟨journal, faithful⟩ :=
    hold_transcribe (.plan setup) (beginning settings setup (around.announce settings))
  have decides := Startup.plan_follows created other (hold_follows (.plan setup)
    (beginning settings setup (around.announce settings)))
  rw [← result_connect around valid asked] at decides
  have count := Startup.countP_texts created plain
  refine ⟨setup, create, asked, created, ?_, decides, faithful, ?_, ?_, ?_, ?_, ?_⟩
  · have known := SchemaName.isDefault_of_createStatement created
    cases create <;> simp [known]
  · exact fun x member n accepted prepared => (faithful x member).lent_of_prepared prepared
  · exact (journal_connect around valid asked).trans journal
  · have most := Exchange.countP_happenings_le faithful plain
    have some := decides.texts.sublist.countP_le (p := createsSchema)
    omega
  · intro ready
    obtain ⟨all, passes⟩ := decides.success.1 ready
    have exactly := Exchange.countP_happenings_of_passes faithful plain passes
    rw [exactly, all, count]
  · intro x member said
    exact (faithful x member).countP_creates_of_not_creates plain (said ▸ plain)

/-- The session's statement is refused on a new connection, and somebody else has created the
schema in the meantime. -/
def contested : Server :=
  .ofScript []
    [⟨"search_path", none, some 1, ⟨0, .refused ⟨"42501", "denied"⟩, false⟩⟩,
      ⟨"CREATE", none, none, ⟨0, .refused ⟨"23505", "duplicate key"⟩, false⟩⟩]

theorem connect_protocol_of_contested : ∃ client,
    connect { Settings.new "postgres://localhost/app" with schema := "sales" } .log
      (.ofServer contested) = .ready client ∧
    client.setup.failures = 1 ∧ client.around.journal.countP Happening.creates = 1 := by
  have started : ((connect { Settings.new "postgres://localhost/app" with schema := "sales" } .log
      (.ofServer contested)).client?.map (·.setup.failures)) = some 1 := by
    decide +kernel
  have other : (({ Settings.new "postgres://localhost/app" with schema := "sales" } :
      Settings).schemaName.toOption.map SchemaName.isDefault) = some false := by
    decide +kernel
  obtain ⟨client, handed, failures⟩ := Option.map_eq_some_iff.1 started
  have ready := Opening.client?_eq_some.1 handed
  have valid : ({ Settings.new "postgres://localhost/app" with schema := "sales" } :
      Settings).validate = .ok () := rfl
  obtain ⟨setup, create, asked, -, -, -, -, -, journal, -, once, -⟩ :=
    connect_protocol .log (.ofServer contested) valid
  rw [(setupFor_ok asked).1] at other
  rw [ready] at journal once
  refine ⟨client, ready, failures, ?_⟩
  have created := once rfl
  rw [Option.some.inj other] at created
  exact (congrArg (List.countP Happening.creates) journal).trans created

end Client

end SchemaPool
