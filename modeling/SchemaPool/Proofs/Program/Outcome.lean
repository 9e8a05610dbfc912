import SchemaPool.Program.Run
import SchemaPool.Proofs.Client.Asking

/-! # The outcome of a run

A run succeeds just if its filter can be read, a client can be built and the client's command
succeeds, and only then does it print anything, in whatever way the log is filtered
(`runFiltered_outcome`).  When there is a client, its command finds a connection that can be lent,
sends its own statement at most once, and exactly once if it succeeds, and in any case the pool is
closed in the end (`Command.Served`). -/

namespace SchemaPool

/-! ## A connection to spare -/

namespace Client

/-- As many connections are lent out as before, by the same pool. -/
structure Rests (c c' : Client) : Prop where
  maxSize : c'.pool.maxSize = c.pool.maxSize
  lent : c'.pool.lent = c.pool.lent
  closed : c'.pool.closed = c.pool.closed

theorem Rests.trans {c c' c'' : Client} (first : c.Rests c') (second : c'.Rests c'') :
    c.Rests c'' :=
  ⟨second.maxSize.trans first.maxSize, second.lent.trans first.lent,
    second.closed.trans first.closed⟩

theorem Lending.pool {c c' : Client} {r : Except AcquireError Lent} (lending : Lending c r c') :
    c'.pool.maxSize = c.pool.maxSize ∧ c'.pool.closed = c.pool.closed ∧
      c'.pool.lent = c.pool.lent + if r.isOk then 1 else 0 := by
  cases lending with
  | refused e checked goes => rw [goes.pool]; exact ⟨rfl, rfl, rfl⟩
  | again checked atRest resembles goes => rw [goes.pool]; exact ⟨rfl, rfl, rfl⟩
  | first checked gone number used timing goes => rw [goes.pool]; exact ⟨rfl, rfl, rfl⟩

theorem exchange_rests (text : String) (c : Client) :
    After (exchange text) c fun _ c' => c.Rests c' := by
  unfold exchange
  refine After.bind (acquire_lending c) fun r c₁ lending => ?_
  obtain ⟨maxSize, closed, lent⟩ := lending.pool
  cases r with
  | error e => exact ⟨maxSize, lent, closed⟩
  | ok borrowed =>
    refine After.bind (batch_worked borrowed.link text c₁) ?_
    rintro ⟨link, result⟩ c₂ ⟨worked, -⟩
    have pool := worked.goes.pool
    refine ⟨?_, ?_, ?_⟩
    · show c₂.pool.maxSize = _
      rw [pool, maxSize]
    · show c₂.pool.lent - 1 = _
      rw [pool, lent]
      rfl
    · show c₂.pool.closed = _
      rw [pool, closed]

theorem hold_rests (dialogue : Startup) (c : Client) :
    After (hold dialogue) c fun _ c' => c.Rests c' := by
  induction dialogue generalizing c with
  | done result => exact ⟨rfl, rfl, rfl⟩
  | note entries next ih =>
    obtain ⟨maxSize, lent, closed⟩ := ih (Client.note entries c).2
    exact ⟨maxSize, lent, closed⟩
  | exchange text next ih =>
    exact Rests.trans (exchange_rests text c) (ih (exchange text c).1 (exchange text c).2)

/-- A client that has just been handed out has all its connections to lend. -/
theorem connect_spare {settings : Settings} {reporter : Reporter} {around : Surroundings}
    {client : Client} (ready : connect settings reporter around = .ready client) :
    client.pool.closed = false ∧ client.pool.isExhausted = false := by
  obtain ⟨setup, c, valid, asked, held, rfl⟩ := connect_ready ready
  have rests := hold_rests (.plan setup) (beginning settings setup (around.announce settings))
  rw [After, held] at rests
  have allowed := Settings.allows_maxConnections_of_valid valid
  have some : 2 ≤ settings.maxConnections.toNat := by
    simp only [Limit.allows, Bool.and_eq_true, decide_eq_true_eq] at allowed
    exact allowed.1
  obtain ⟨maxSize, lent, closed⟩ := rests
  refine ⟨closed, ?_⟩
  simp only [beginning, Pool.empty] at maxSize lent
  simp only [Pool.isExhausted, maxSize, lent, Bool.and_eq_false_iff, decide_eq_false_iff_not]
  right
  omega

end Client

/-! ## What a command does to connections -/

namespace Command

/-- The statement of a command as it was given. -/
def text : Command → String
  | check => sessionQuery.text.getD ""
  | exec _ sql => sql

/-- A statement is run as it was given. -/
theorem text_eq_of_sql {command : Command} {text : String} (sql : command.query.sql = .ok text) :
    text = command.text := by
  have given : command.query.text = some command.text := by cases command <;> rfl
  simp only [Sql.Query.sql, given] at sql
  split at sql
  · cases sql
  · exact (Except.ok.inj sql).symm

/-- A command's own statement reaches the database at most once, and that is all that its
connection is borrowed for: before it connections are only checked and told of their session, and
after it nothing is sent. -/
structure Course (command : Command) (session : String) (before own after : List Happening) :
    Prop where
  before : ∀ n text, .sent n text ∈ before → text = Statement.check.text ∨ text = session
  own : own = [] ∨ ∃ n, own = [.sent n command.text]
  after : ∀ n text, .sent n text ∉ after

end Command

namespace Client

theorem issuedFor_eq {command : Command} (link : Link) :
    issuedFor link command.query = [] ∨
      issuedFor link command.query = [.sent link.number command.text] := by
  unfold issuedFor
  cases sql : command.query.sql with
  | error f => exact .inl rfl
  | ok text =>
    obtain rfl := Command.text_eq_of_sql sql
    cases lost : link.lost <;> simp [issued, lost]

theorem dispatch_course (command : Command) (c : Client) :
    After (dispatch command) c fun result c' =>
      ∃ before own after, c'.around.journal = c.around.journal ++ before ++ own ++ after ∧
        command.Course c.setup.statement before own after ∧
        (result.isOk = true → ∃ n, own = [.sent n command.text]) := by
  have lending := acquire_lending (c.noted command.announcement)
  rcases acquired : c.borrowedFor command with ⟨borrowed, c₁⟩
  rw [After, show acquire (c.noted command.announcement) = (borrowed, c₁) from acquired] at lending
  obtain ⟨before, journal, -, sent, -⟩ := lending.happenings
  refine (dispatch_spec acquired).mono ?_
  rintro result c' ⟨succeeds, ended⟩
  rw [journal] at ended
  have answered : result.isOk = true → ∃ lent text, borrowed = .ok lent ∧
      lent.link.lost = false ∧ command.query.sql = .ok text := by
    intro fine
    cases result with
    | error f => cases fine
    | ok output =>
      obtain ⟨lent, _, text, _, same, here, sql, -⟩ := (succeeds output).1 rfl
      rw [acquired] at same
      exact ⟨lent, text, congrArg Prod.fst same, here, sql⟩
  cases borrowed with
  | error e =>
    refine ⟨before, [], [], ?_, ⟨sent, .inl rfl, nofun⟩, fun fine => ?_⟩
    · rw [ended, happeningsFor, List.append_nil, List.append_nil, List.append_nil]
      rfl
    · obtain ⟨_, _, absurd, -⟩ := answered fine
      cases absurd
  | ok lent =>
    refine ⟨before, issuedFor lent.link command.query, [.returned lent.link.number], ?_,
      ⟨sent, ?_, ?_⟩, fun fine => ?_⟩
    · rw [ended, happeningsFor, ← List.append_assoc]
      rfl
    · exact (issuedFor_eq lent.link).imp_right fun same => ⟨_, same⟩
    · simp
    · obtain ⟨_, text, ⟨⟩, here, sql⟩ := answered fine
      refine ⟨lent.link.number, ?_⟩
      simp [issuedFor, sql, issued, here, Command.text_eq_of_sql sql]

end Client

/-! ## Runs -/

/-- What a run with a client comes to: the client has a connection to lend, what is printed is
what the command reads out of the database's answer, the command takes its course, which includes
its statement if it succeeds, and the last that happens is that the pool is closed. -/
structure Command.Served (command : Command) (client : Client) (r : RunResult) : Prop where
  spare : client.pool.isExhausted = false
  output : r.status = 0 → command.Succeeds client r.output
  around : r.around = (Client.close (Client.dispatch command client).2).2.around
  closed : (Client.close (Client.dispatch command client).2).2.pool.closed = true
  journal : ∃ before own after,
    r.around.journal = client.around.journal ++ before ++ own ++ after ++ [.poolClosed] ∧
      command.Course client.setup.statement before own after ∧
      (r.status = 0 → ∃ n, own = [.sent n command.text])

section

variable {i : Invocation} {around : Surroundings} {client : Client}
  (ready : Client.connect i.settings .log (around.note [i.settings.entry]) = .ready client)
  {Filter : Type} (filtering : Filtering Filter) (filter : Filter)

include ready

theorem Invocation.status_of_ready :
    (RunResult.ofOutcome filtering filter (i.run around).1 (i.run around).2).status = 0 ↔
      ∃ output, i.command.Succeeds client output := by
  rw [RunResult.status_ofOutcome_eq_zero_iff, run_of_ready ready]
  exact exists_congr (Client.dispatch_eq_ok_iff i.command client)

theorem Invocation.served_of_ready :
    i.command.Served client (.ofOutcome filtering filter (i.run around).1 (i.run around).2) := by
  obtain ⟨before, own, after, journal, course, sent⟩ := Client.dispatch_course i.command client
  rw [run_of_ready ready]
  refine ⟨(Client.connect_spare ready).2, fun fine => ?_, RunResult.around_ofOutcome .., rfl,
    before, own, after, ?_, course, fun fine => ?_⟩
  · obtain ⟨output, ended⟩ := (RunResult.status_ofOutcome_eq_zero_iff ..).1 fine
    rw [← Client.dispatch_eq_ok_iff, ended]
    rfl
  · rw [RunResult.around_ofOutcome, ← journal]
    rfl
  · obtain ⟨output, ended⟩ := (RunResult.status_ofOutcome_eq_zero_iff ..).1 fine
    exact sent (by rw [ended]; rfl)

end

/-- A run whose command line names a command ends well just if its filter can be read, a client is
built and its command succeeds; otherwise it prints nothing.  Nothing happens to connections
before the filter has been read, and after a start that has failed nothing more happens to
them. -/
theorem runFiltered_outcome {Filter : Type} (filtering : Filtering Filter) {args : List String}
    {environment : List (String × String)} {i : Invocation}
    (parsed : Invocation.parse args environment = .ok i) (server : Server) :
    let r := runFiltered filtering args environment server
    let reading := filtering.read (LogSetting.written (environment.lookup "RUST_LOG"))
    let opening := Client.connect i.settings .log
      ((Surroundings.ofServer server).note [i.settings.entry])
    (r.status = 0 ↔ (∃ filter, reading = .read filter) ∧
        ∃ client, opening = .ready client ∧ ∃ output, i.command.Succeeds client output) ∧
      (r.status ≠ 0 → r.output = "" ∧ (r.status = 1 ∨
        r.status = RunResult.crashStatus ∧ ∃ remarks, reading = .crashed remarks)) ∧
      ((∀ filter, reading ≠ .read filter) → r.around.journal = []) ∧
      ∀ filter, reading = .read filter →
        (∀ f around, opening = .refused f around → r.around = around) ∧
        ∀ client, opening = .ready client → i.command.Served client r := by
  intro r reading opening
  by_cases read : ∃ filter, reading = .read filter
  case neg =>
    have unread : ∀ filter, reading ≠ .read filter := fun filter same => read ⟨filter, same⟩
    obtain ⟨status, output, around⟩ := runFiltered_of_not_read server parsed unread
    have failed : r.status ≠ 0 := by
      obtain one | ⟨crashed, -⟩ := status
      · exact fun zero => absurd (one.symm.trans zero) (by decide)
      · exact fun zero => absurd (crashed.symm.trans zero) (by decide)
    exact ⟨iff_of_false failed fun ⟨given, _⟩ => read given, fun _ => ⟨output, status⟩,
      fun _ => congrArg Surroundings.journal around, fun filter same => absurd same (unread filter)⟩
  case pos =>
    obtain ⟨filter, given⟩ := read
    have ran : r = _ := runFiltered_of_read server parsed given
    refine ⟨?_, fun failed => ?_, fun unread => absurd given (unread filter), ?_⟩
    · cases start : opening with
      | refused f around =>
        rw [ran, Invocation.run_of_refused start, RunResult.status_ofOutcome_eq_zero_iff]
        refine iff_of_false nofun ?_
        rintro ⟨-, _, ⟨⟩, -⟩
      | ready client =>
        rw [ran, Invocation.status_of_ready start]
        constructor
        · exact fun succeeds => ⟨⟨filter, given⟩, client, rfl, succeeds⟩
        · rintro ⟨-, _, ⟨⟩, succeeds⟩
          exact succeeds
    · rw [ran] at failed ⊢
      obtain ⟨status, output⟩ := RunResult.ofOutcome_of_failed _ _ _ _ failed
      exact ⟨output, .inl status⟩
    · intro other same
      refine ⟨fun f around start => ?_, fun client start => ?_⟩
      · rw [ran, Invocation.run_of_refused start, RunResult.around_ofOutcome]
      · rw [ran]
        exact Invocation.served_of_ready start filtering filter

/-- A database that finds three rows to delete. -/
def deleting : Server :=
  .ofScript [] [⟨"DELETE", none, none, ⟨0, .table ⟨[], [], 3⟩, false⟩⟩]

/-- A deletion with a name prints the number of rows; it is sent once, as it was written, and then
the pool is closed. -/
theorem runFiltered_outcome_of_deletion :
    let r := runFiltered LogFilter.plain ["exec", "--name", "cleanup", "DELETE FROM carts"]
      [("POSTGRES_URL", "postgres://localhost/app"), ("RUST_LOG", "off")] deleting
    r.status = 0 ∧ r.output = "3\n" ∧ ∃ before n after,
      r.around.journal = before ++ [.sent n "DELETE FROM carts"] ++ after ++ [.poolClosed] ∧
        ∀ m text, .sent m text ∉ after := by
  have parsed : Invocation.parse ["exec", "--name", "cleanup", "DELETE FROM carts"]
      [("POSTGRES_URL", "postgres://localhost/app"), ("RUST_LOG", "off")] =
        .ok ⟨Settings.new "postgres://localhost/app", .exec (some "cleanup") "DELETE FROM carts"⟩ :=
    rfl
  obtain ⟨success, -, -, served⟩ := runFiltered_outcome LogFilter.plain parsed deleting
  have status : (runFiltered LogFilter.plain ["exec", "--name", "cleanup", "DELETE FROM carts"]
      [("POSTGRES_URL", "postgres://localhost/app"), ("RUST_LOG", "off")] deleting).status = 0 := by
    decide +kernel
  obtain ⟨⟨filter, read⟩, client, ready, -⟩ := success.1 status
  obtain ⟨before, own, after, journal, course, sent⟩ := ((served filter read).2 client ready).journal
  obtain ⟨n, rfl⟩ := sent status
  refine ⟨status, by decide +kernel, client.around.journal ++ before, n, after, ?_, course.after⟩
  exact journal

end SchemaPool
