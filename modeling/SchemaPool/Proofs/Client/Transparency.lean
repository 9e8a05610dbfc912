import SchemaPool.Proofs.Client.Alike

/-! # Timing is transparent

Users who do the same on clients that differ in their threshold of slowness get the same answers,
and the databases behind the clients get the same statements.  Every step of theirs keeps two
such scenes alike (`UserScene.step_agree`), and starts begin alike (`Client.connect_alike`).
Together with the runs on single connections this says that nothing but reports and log entries
depends on who looks at the time (`timing_transparent`). -/

namespace SchemaPool

open SchemaPool.Sql (Query)

/-- The answer, but for what it says about timing. -/
def UserAnswer.untimed : UserAnswer → UserAnswer
  | borrowed link waited => .borrowed { link with timed := .new true } waited
  | flag _ => .flag false
  | inspected _ => .inspected (.new true)
  | text _ => .text ""
  | info schema settings _ => .info schema { settings with slowQuery := .disabled } .disabled
  | answer => answer

namespace UserScene

/-! ## Two scenes -/

/-- Users of clients that differ only in how queries are timed hold the same connections. -/
def Alike : UserScene → UserScene → Prop := Related Client.Alike Link.Alike

def SameAnswer (a b : UserAnswer) : Prop := a.untimed = b.untimed

variable {α β : Type}

theorem wouldBlock_agree : Agree Alike Eq wouldBlock wouldBlock := by
  refine Agree.get fun s s' alike => .pure ?_
  rw [alike.client.pool.isExhausted, alike.client.borrowLimit]

theorem call_agree {x : ClientM α} (agree : Agree Client.Alike Eq x x) (answer : α → UserAnswer) :
    Agree Alike SameAnswer (call x answer) (call x answer) := by
  unfold call
  refine wouldBlock_agree.andThen fun blocked => ?_
  split
  · exact .pure rfl
  · exact (act_agree agree).andThen fun a => .pure rfl

theorem store_agree (slot : String) (waited : Option PoolStatus)
    {result result' : Except AcquireError Lent} (matched : Matches Lent.Alike result result') :
    Agree Alike SameAnswer (store slot waited result) (store slot waited result') := by
  unfold store
  refine (act_agree (Client.noteBorrowed_agree matched)).bind ?_
  rintro _ _ (f | alike)
  · exact .pure rfl
  · refine (vacate_agree Client.release_agree slot).andThen fun _ => ?_
    refine (fill_agree slot alike).andThen fun _ => .pure ?_
    obtain ⟨timed, rfl⟩ := alike
    rfl

theorem borrow_agree (slot : String) (meanwhile : Meanwhile) :
    Agree Alike SameAnswer (borrow slot meanwhile) (borrow slot meanwhile) := by
  unfold borrow
  refine (act_agree (Client.note_agree _ _)).andThen fun _ => ?_
  refine Agree.get fun s s' alike => ?_
  dsimp only
  rw [← alike.client.pool.isExhausted, ← alike.client.pool.status, ← alike.client.borrowLimit]
  split
  · exact (act_agree Client.acquire_agree).bind fun _ _ => store_agree slot none
  · cases meanwhile with
    | nothing => exact .pure rfl
    | release other =>
      refine (vacate_agree Client.release_agree other).andThen fun vacated => ?_
      split
      · exact (act_agree Client.acquire_agree).bind fun _ _ => store_agree slot _
      · exact .pure rfl
    | close =>
      refine (act_agree Client.close_agree).andThen fun _ => ?_
      exact (act_agree Client.acquire_agree).bind fun _ _ => store_agree slot _
    | pass nanos =>
      refine (act_agree (Client.pass_agree nanos)).andThen fun _ => ?_
      split
      · exact store_agree slot _ (.error _)
      · exact .pure rfl

theorem step_agree (x : UserStep) : Agree Alike SameAnswer (step x) (step x) := by
  cases work : x.isLinkWork with
  | true =>
    refine (linkWork_agree Client.Alike.lockstep Client.release_agree work).mono ?_
    rintro answer _ rfl
    exact rfl
  | false =>
    cases x with
    | borrow slot meanwhile => exact borrow_agree slot meanwhile
    | execute slot query =>
      cases slot with
      | none => exact call_agree (Client.executeSql_agree query) .count
      | some slot => cases work
    | load slot query =>
      cases slot with
      | none => exact call_agree (Client.loadSql_agree valueColumn query) column
      | some slot => cases work
    | instrument slot =>
      refine Agree.get fun s s' alike => ?_
      refine on_agree slot rfl ?_
      rintro link _ ⟨timed, rfl⟩
      exact .pure ⟨⟨_, rfl⟩, rfl⟩
    | inspect slot =>
      refine on_agree slot rfl fun link link' alike => ?_
      exact .pure ⟨alike, rfl⟩
    | command command => exact call_agree (Client.dispatch_agree command) .printed
    | close => exact (act_agree Client.close_agree).andThen fun _ => .pure rfl
    | describe =>
      have same : ∀ a b, SameAnswer (.text a) (.text b) := fun _ _ => rfl
      exact Agree.get fun s s' alike => .pure (same _ _)
    | info =>
      refine Agree.get fun s s' alike => .pure ?_
      obtain ⟨slowQuery, settings⟩ := alike.client.settings
      obtain ⟨monitor, setup⟩ := alike.client.setup
      rw [SameAnswer, settings, Client.schema, Client.schema, setup]
      rfl
    | _ => cases work

/-- Steps of users, one after another. -/
def run : List UserStep → UserM (List UserAnswer)
  | [] => return []
  | x :: xs => do
    let answer ← step x
    let answers ← run xs
    return answer :: answers

theorem run_agree (steps : List UserStep) :
    Agree Alike (fun a b => a.map UserAnswer.untimed = b.map UserAnswer.untimed) (run steps)
      (run steps) := by
  induction steps with
  | nil => exact .pure rfl
  | cons x steps ih =>
    rw [run]
    refine (step_agree x).bind fun answer answer' same => ?_
    refine ih.bind fun answers answers' others => .pure ?_
    rw [List.map_cons, List.map_cons, same, others]

/-- Steps of users, and after them a statement and a query on connections borrowed for these
alone, unless that would block. -/
def session (steps : List UserStep) (query : Query) (names : List String) :
    UserM (List UserAnswer × Option (Except Failure Nat × Except Failure (List (List String)))) := do
  let answers ← run steps
  if ← wouldBlock then return (answers, none)
  let affected ← act (Client.executeSql query)
  let rows ← act (Client.loadSql names query)
  return (answers, some (affected, rows))

theorem session_agree (steps : List UserStep) (query : Query) (names : List String) :
    Agree Alike (fun a b => a.1.map UserAnswer.untimed = b.1.map UserAnswer.untimed ∧ a.2 = b.2)
      (session steps query names) (session steps query names) := by
  unfold session
  refine (run_agree steps).bind fun answers answers' same => ?_
  refine wouldBlock_agree.andThen fun blocked => ?_
  split
  · exact .pure ⟨same, rfl⟩
  · refine (act_agree (Client.executeSql_agree query)).andThen fun affected => ?_
    refine (act_agree (Client.loadSql_agree names query)).andThen fun rows => ?_
    exact .pure ⟨same, rfl⟩

end UserScene

/-! ## Starts -/

theorem Client.Alike.statements {c c' : Client} (alike : c.Alike c') :
    c.around.statements = c'.around.statements := by
  have shown : ∀ h : Happening, h.untimed.sent? = h.sent? := by
    intro h
    cases h <;> rfl
  have erased : ∀ journal : List Happening, journal.filterMap Happening.sent? =
      (journal.map Happening.untimed).filterMap Happening.sent? := by
    intro journal
    simp [List.filterMap_map, shown]
  rw [Surroundings.statements, Surroundings.statements, erased, alike.journal, ← erased]

namespace Opening

/-- The results of two starts are the same, and their clients differ only in how queries are
timed. -/
inductive Alike : Opening → Opening → Prop where
  | ready {c c' : Client} (alike : c.Alike c') : Alike (.ready c) (.ready c')
  | refused (failure : Failure) {around around' : Surroundings}
      (same : around.statements = around'.statements) :
      Alike (.refused failure around) (.refused failure around')

theorem Alike.result {one other : Opening} (alike : one.Alike other) :
    one.result = other.result := by
  cases alike with
  | ready => rfl
  | refused => rfl

theorem Alike.statements {one other : Opening} (alike : one.Alike other) :
    one.around.statements = other.around.statements := by
  cases alike with
  | ready alike => exact alike.statements
  | refused failure same => exact same

/-- What shows of a session with the client of a start, if there is one: the answers, but for what
they say about timing, and the statements that the database has been sent. -/
def shown (steps : List UserStep) (query : Query) (names : List String) :
    Opening → Option (List UserAnswer ×
      Option (Except Failure Nat × Except Failure (List (List String))) × List (Nat × String))
  | .ready client =>
    let ((answers, own), scene) := UserScene.session steps query names ⟨client, []⟩
    some (answers.map UserAnswer.untimed, own, scene.client.around.statements)
  | .refused _ _ => none

theorem Alike.shown {one other : Opening} (alike : one.Alike other) (steps : List UserStep)
    (query : Query) (names : List String) :
    one.shown steps query names = other.shown steps query names := by
  cases alike with
  | refused => rfl
  | @ready c c' alike =>
    obtain ⟨⟨answers, own⟩, scenes⟩ :=
      UserScene.session_agree steps query names ⟨c, []⟩ ⟨c', []⟩ ⟨alike, .nil⟩
    have computed : ∀ c, (Opening.ready c).shown steps query names =
        some ((UserScene.session steps query names ⟨c, []⟩).1.1.map UserAnswer.untimed,
          (UserScene.session steps query names ⟨c, []⟩).1.2,
          (UserScene.session steps query names ⟨c, []⟩).2.client.around.statements) :=
      fun _ => rfl
    rw [computed, computed, answers, own, scenes.client.statements]

end Opening

theorem Client.setupFor_slowQuery (settings : Settings) (slowQuery : Threshold)
    (reporter reporter' : Reporter) :
    setupFor { settings with slowQuery } reporter' =
      (setupFor settings reporter).map fun setup =>
        { setup with monitor := ⟨slowQuery, reporter'⟩ } := by
  show (settings.schemaName.bind _) = Except.map _ (settings.schemaName.bind _)
  cases settings.schemaName with
  | error f => rfl
  | ok schema =>
    show (schema.searchPathStatement.map _) = Except.map _ (schema.searchPathStatement.map _)
    cases schema.searchPathStatement with
    | error f => rfl
    | ok statement => rfl

theorem Client.connect_alike (settings : Settings) (slowQuery : Threshold)
    (reporter reporter' : Reporter) (around : Surroundings) :
    (connect settings reporter around).Alike
      (connect { settings with slowQuery } reporter' around) := by
  have sound : ({ settings with slowQuery } : Settings).validate = settings.validate := rfl
  have prepared := setupFor_slowQuery settings slowQuery reporter reporter'
  cases valid : settings.validate with
  | error f =>
    rw [connect, connect, sound, valid]
    exact .refused f rfl
  | ok =>
    cases asked : setupFor settings reporter with
    | error f =>
      rw [connect, connect, sound, valid, prepared, asked]
      exact .refused f rfl
    | ok setup =>
      rw [asked] at prepared
      have planned : Startup.plan { setup with monitor := ⟨slowQuery, reporter'⟩ } = .plan setup := rfl
      rw [connect_of_valid around valid asked, connect_of_valid around (sound.trans valid) prepared,
        planned]
      obtain ⟨same, alike⟩ := hold_agree (.plan setup)
        (beginning settings setup (around.announce settings))
        (beginning { settings with slowQuery } { setup with monitor := ⟨slowQuery, reporter'⟩ }
          (around.announce { settings with slowQuery }))
        ⟨⟨_, rfl⟩, ⟨_, rfl⟩, ⟨rfl, .nil, rfl, rfl⟩, rfl, rfl, rfl⟩
      revert same alike
      rcases hold (.plan setup) (beginning settings setup _) with ⟨result, c₁⟩
      rcases hold (.plan setup) _ with ⟨result', c₂⟩
      rintro ⟨⟩ alike
      cases result with
      | error f => exact .refused f alike.statements
      | ok =>
        exact .ready ⟨alike.settings, alike.setup, alike.pool, alike.server, alike.now,
          alike.journal⟩

/-- A connection is sent the same statements and gives the same answers, however and whenever it
is put under a monitor, as one that stays bare, of which nothing is reported.  A client comes to
the same start, the same answers and the same statements whatever its threshold of slowness. -/
theorem timing_transparent :
    (∀ (setup : SessionSetup) (hook hook' : Bool) (timeline : Timeline)
      (steps : List StandInStep),
      let timed := Solo.run ⟨setup, .new hook, timeline⟩ steps
      let bare := Solo.run ⟨{ setup with monitor := .disabled }, .new hook', timeline⟩
        (Solo.work steps)
      timed.1.standIn.sent = bare.1.standIn.sent ∧ Solo.replies steps timed.2 = bare.2 ∧
        timed.1.timeline.now = bare.1.timeline.now ∧
        timed.1.setup.failures = bare.1.setup.failures ∧
        bare.1.standIn.connection = .new hook' ∧ bare.1.timeline.reports = timeline.reports) ∧
    ∀ (settings : Settings) (slowQuery : Threshold) (reporter reporter' : Reporter)
      (around : Surroundings) (steps : List UserStep) (query : Query) (names : List String),
      let one := Client.connect settings reporter around
      let other := Client.connect { settings with slowQuery } reporter' around
      one.result = other.result ∧ one.around.statements = other.around.statements ∧
        one.shown steps query names = other.shown steps query names := by
  constructor
  · intro setup hook hook' timeline steps
    have begun : Solo.Alike ⟨setup, .new hook, timeline⟩
        ⟨{ setup with monitor := .disabled }, .new hook', timeline⟩ := ⟨⟨_, rfl⟩, rfl, rfl⟩
    obtain ⟨after, same⟩ := begun.run steps
    obtain ⟨monitor, setups⟩ := after.setup
    obtain ⟨connection, reports⟩ := Solo.run_work_bare
      (s := ⟨{ setup with monitor := .disabled }, .new hook', timeline⟩) steps rfl ⟨rfl, rfl⟩
    exact ⟨after.standIn.sent, same, after.standIn.now, (congrArg SessionSetup.failures setups).symm,
      connection, reports⟩
  · intro settings slowQuery reporter reporter' around steps query names
    have alike := Client.connect_alike settings slowQuery reporter reporter' around
    exact ⟨alike.result, alike.statements, alike.shown steps query names⟩

end SchemaPool
