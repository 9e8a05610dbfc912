import SchemaPool.Client.Command
import SchemaPool.Proofs.Client.Acquisition

/-! # What a command comes to

Every command asks the database one thing.  A connection is borrowed, the command's statement is
sent on it, unless it is blank or the connection is lost, and the connection is given back.  The
command succeeds just if the statement is answered with a table out of which the command can read
what it prints (`Client.dispatch_spec`). -/

namespace SchemaPool

/-! ## Commands as questions -/

namespace Command

def query : Command → Sql.Query
  | check => sessionQuery
  | exec name sql => ⟨name, some sql⟩

/-- What is logged before a connection is borrowed. -/
def announcement : Command → List LogEntry
  | check => [Client.borrowingEntry]
  | exec name sql =>
    [⟨.debug, .command, "Executing statement",
      [("query", .text (Sql.Query.label ⟨name, some sql⟩).text)]⟩, Client.borrowingEntry]

/-- What is printed of an answer: the session's schema and search path out of the first row, or
the number of affected rows. -/
def reading? : Command → Table → Option String
  | check, t => (Client.readColumns sessionColumns t).toOption.bind sessionLines?
  | exec _ _, t => some (toString t.affected ++ "\n")
where
  -- The lines for the first of the session's rows, if there is one.
  sessionLines? : List (List String) → Option String
    | [current, path] :: _ => some ("schema: " ++ current ++ "\nsearch_path: " ++ path ++ "\n")
    | _ => none

end Command

namespace Client

/-- The client after some log entries. -/
def noted (c : Client) (entries : List LogEntry) : Client :=
  { c with around := c.around.note entries }

theorem noted_noted (c : Client) (es fs : List LogEntry) :
    (c.noted es).noted fs = c.noted (es ++ fs) := by
  simp [noted, Surroundings.note, Timeline.note]

/-- The answer to a statement that is sent on a connection now. -/
def answer (c : Client) (link : Link) (text : String) : Except QueryError Table :=
  if link.lost then .error .connectionLost
  else (c.around.server.react link.number text).1.reply.result

/-- The database answers a statement on a connection that is there. -/
theorem answer_eq_ok_iff {c : Client} {link : Link} {text : String} {t : Table} :
    c.answer link text = .ok t ↔
      link.lost = false ∧ (c.around.server.react link.number text).1.reply = .table t := by
  rw [answer]
  cases link.lost with
  | true => simp
  | false => cases (c.around.server.react link.number text).1.reply <;> simp [Reply.result]

/-! ## One question -/

/-- The work sends its statement once, and its result is read out of the answer. -/
def Asks {α : Type} (work : Link → String → ClientM (Link × Except QueryError α))
    (read : Table → Except QueryError α) : Prop :=
  ∀ link text c, After (work link text) c fun r c' =>
    Worked link c (issued link text) r.1 c' ∧ r.2 = (c.answer link text).bind read

theorem execute_asks : Asks execute fun t => .ok t.affected := by
  intro link text c
  unfold execute
  refine After.bind (send_worked link (.built text) c) ?_
  rintro ⟨link', result⟩ c' ⟨worked, rfl⟩
  refine ⟨worked, ?_⟩
  change Except.map _ (c.answer link text) = _
  cases c.answer link text <;> rfl

theorem load_asks (names : List String) : Asks (load names) (readColumns names) := by
  intro link text c
  unfold load
  refine After.bind (send_worked link (.built text) c) ?_
  rintro ⟨link', result⟩ c' ⟨worked, rfl⟩
  exact ⟨worked, rfl⟩

/-- What the database sees of a described query: nothing when it is blank. -/
def issuedFor (link : Link) (query : Sql.Query) : List Happening :=
  match query.sql with
  | .error _ => []
  | .ok text => issued link text

section

variable {α : Type} {work : Link → String → ClientM (Link × Except QueryError α)}
  {read : Table → Except QueryError α}

/-- What a described query results in on a connection. -/
def reply (c : Client) (link : Link) (query : Sql.Query) (read : Table → Except QueryError α) :
    Except Failure α :=
  query.sql.bind fun text => ((c.answer link text).bind read).mapError Failure.query

theorem runUnit_asks (asks : Asks work read) (link : Link) (query : Sql.Query)
    (rows : α → Produced) (text : String) (c : Client) :
    After (runUnit link query (work · text) rows) c fun r c' =>
      Worked link c (issued link text) r.1 c' ∧ r.2 = (c.answer link text).bind read := by
  unfold runUnit
  apply after_now
  refine After.bind (asks _ text c) ?_
  rintro ⟨link', result⟩ c₁ ⟨worked, same⟩
  apply after_now
  refine After.bind (deliver_goes _ c₁) fun _ c₂ delivered => ?_
  -- Holding the driver's scope and leaving it are not changes of the timing.
  have opened := Worked.retimed c (TimedConnection.timing_openUnit link.timed c.around.timeline.now)
  have closed : Worked link' c₂ [] { link' with
      timed := link'.timed.releaseScope (link.timed.openUnit c.around.timeline.now).2 } c₂ :=
    .retimed c₂ (TimedConnection.timing_releaseScope ..)
  have known := ((opened.trans worked).after delivered).trans closed
  rw [List.append_nil] at known
  exact ⟨known, same⟩

theorem runQuery_asks (asks : Asks work read) (link : Link) (query : Sql.Query)
    (rows : α → Produced) (c : Client) :
    After (runQuery link query work rows) c fun r c' =>
      Worked link c (issuedFor link query) r.1 c' ∧ r.2 = c.reply link query read := by
  unfold runQuery issuedFor reply
  cases query.sql with
  | error f => exact ⟨.refl link c, rfl⟩
  | ok text =>
    refine After.bind (runUnit_asks asks link query rows text c) ?_
    rintro ⟨link', result⟩ c' ⟨worked, rfl⟩
    exact ⟨worked, rfl⟩

/-! ## On a borrowed connection -/

theorem noteBorrowed_noted (result : Except AcquireError Lent) (c : Client) :
    After (noteBorrowed result) c fun r c' =>
      r = (result.map Lent.link).mapError Failure.ofAcquire ∧ ∃ entries, c' = c.noted entries := by
  cases result with
  | error e => exact ⟨rfl, _, rfl⟩
  | ok lent =>
    unfold noteBorrowed
    by_cases slow : 100000000 < lent.realNanos
    · simp only [slow, if_true]
      exact ⟨rfl, _, noted_noted c _ _⟩
    · simp only [slow, if_false]
      exact ⟨rfl, _, rfl⟩

theorem release_journal (link : Link) (c : Client) :
    After (release link) c fun _ c' =>
      c'.around.journal = c.around.journal ++ [.returned link.number] :=
  rfl

theorem borrow_noted (c : Client) :
    After borrow c fun r c' =>
      r = ((acquire (c.noted [borrowingEntry])).1.map Lent.link).mapError Failure.ofAcquire ∧
        ∃ entries, c' = (acquire (c.noted [borrowingEntry])).2.noted entries :=
  noteBorrowed_noted _ _

/-- What a query results in once it has been tried to borrow a connection for it. -/
def replyFor (c : Client) (borrowed : Except AcquireError Lent) (query : Sql.Query)
    (read : Table → Except QueryError α) : Except Failure α :=
  match borrowed with
  | .error e => .error (.ofAcquire e)
  | .ok lent => c.reply lent.link query read

/-- What happens from there on. -/
def happeningsFor (borrowed : Except AcquireError Lent) (query : Sql.Query) : List Happening :=
  match borrowed with
  | .error _ => []
  | .ok lent => issuedFor lent.link query ++ [.returned lent.link.number]

theorem withLink_asks (asks : Asks work read) (query : Sql.Query) (rows : α → Produced)
    (c : Client) {borrowed : Except AcquireError Lent} {c₁ : Client}
    (acquired : acquire (c.noted [borrowingEntry]) = (borrowed, c₁)) :
    After (withLink (runQuery · query work rows)) c fun result c' =>
      result = c₁.replyFor borrowed query read ∧
        c'.around.journal = c₁.around.journal ++ happeningsFor borrowed query := by
  have noted := borrow_noted c
  rw [acquired] at noted
  unfold withLink
  refine After.bind noted ?_
  rintro _ _ ⟨rfl, entries, rfl⟩
  cases borrowed with
  | error e => exact ⟨rfl, (List.append_nil _).symm⟩
  | ok lent =>
    apply After.get
    refine After.bind (runQuery_asks asks _ query rows _) ?_
    rintro ⟨link, result⟩ c₂ ⟨worked, rfl⟩
    refine After.bind (release_journal link c₂) fun _ c₃ returned => ?_
    refine ⟨rfl, ?_⟩
    have number : link.number = lent.link.number := worked.number
    show c₃.around.journal = _
    rw [returned, worked.goes.journal, number, List.append_assoc]
    rfl

end

/-! ## Commands -/

/-- The connection that a command is given, if any, and the client at that moment. -/
def borrowedFor (c : Client) (command : Command) : Except AcquireError Lent × Client :=
  acquire (c.noted command.announcement)

end Client

/-- A connection is there for the command, its statement is answered with a table, and that reads
`output`. -/
def Command.Succeeds (command : Command) (c : Client) (output : String) : Prop :=
  ∃ lent c₁ text t, c.borrowedFor command = (.ok lent, c₁) ∧ lent.link.lost = false ∧
    command.query.sql = .ok text ∧
    (c₁.around.server.react lent.link.number text).1.reply = .table t ∧
    command.reading? t = some output

namespace Client

theorem reply_eq_ok_iff {α : Type} {c : Client} {link : Link} {query : Sql.Query}
    {read : Table → Except QueryError α} {a : α} :
    c.reply link query read = .ok a ↔
      ∃ text t, query.sql = .ok text ∧ c.answer link text = .ok t ∧ read t = .ok a := by
  simp only [reply, bind_eq_ok_iff, mapError_eq_ok_iff, exists_and_left]

/-- A query has a result just if a connection is there for it and the answer can be read. -/
theorem replyFor_eq_ok_iff {α : Type} {c : Client} {borrowed : Except AcquireError Lent}
    {query : Sql.Query} {read : Table → Except QueryError α} {a : α} :
    c.replyFor borrowed query read = .ok a ↔
      ∃ lent text t, borrowed = .ok lent ∧ lent.link.lost = false ∧ query.sql = .ok text ∧
        (c.around.server.react lent.link.number text).1.reply = .table t ∧ read t = .ok a := by
  cases borrowed with
  | error e => simp [replyFor]
  | ok lent =>
    simp only [replyFor, reply_eq_ok_iff, answer_eq_ok_iff, Except.ok.injEq]
    constructor
    · rintro ⟨text, t, sql, ⟨here, answered⟩, fits⟩
      exact ⟨lent, text, t, rfl, here, sql, answered, fits⟩
    · rintro ⟨_, text, t, rfl, here, sql, answered, fits⟩
      exact ⟨text, t, sql, ⟨here, answered⟩, fits⟩

section

variable {c c₁ : Client} {borrowed : Except AcquireError Lent}

theorem succeeds_iff {α : Type} {command : Command} {read : Table → Except QueryError α}
    {shown : α → Option String} (acquired : c.borrowedFor command = (borrowed, c₁))
    (reads : ∀ t, command.reading? t = (read t).toOption.bind shown) (output : String) :
    command.Succeeds c output ↔
      ∃ a, c₁.replyFor borrowed command.query read = .ok a ∧ shown a = some output := by
  have shows (t : Table) : command.reading? t = some output ↔
      ∃ a, read t = .ok a ∧ shown a = some output := by
    rw [reads]
    cases read t <;> simp [Except.toOption]
  simp only [Command.Succeeds, replyFor_eq_ok_iff, acquired, shows, Prod.mk.injEq]
  constructor
  · rintro ⟨lent, _, text, t, ⟨rfl, rfl⟩, here, sql, answered, a, fits, same⟩
    exact ⟨a, ⟨lent, text, t, rfl, here, sql, answered, fits⟩, same⟩
  · rintro ⟨a, ⟨lent, text, t, rfl, here, sql, answered, fits⟩, same⟩
    exact ⟨lent, c₁, text, t, ⟨rfl, rfl⟩, here, sql, answered, a, fits, same⟩

theorem exec_spec {name : Option String} {sql : String}
    (acquired : c.borrowedFor (.exec name sql) = (borrowed, c₁)) :
    After (exec name sql) c fun result c' =>
      (∀ output, result = .ok output ↔ Command.Succeeds (.exec name sql) c output) ∧
        c'.around.journal = c₁.around.journal ++ happeningsFor borrowed ⟨name, some sql⟩ := by
  have succeeds (output : String) : Command.Succeeds (.exec name sql) c output ↔
      ∃ n, c₁.replyFor borrowed (Command.exec name sql).query (fun t => .ok t.affected) = .ok n ∧
        some (toString n ++ "\n") = some output :=
    succeeds_iff acquired (fun _ => rfl) output
  unfold exec
  refine After.bind (P := fun _ c₂ => c₂ = c.noted _) rfl ?_
  rintro _ _ rfl
  rw [borrowedFor, Command.announcement, ← List.singleton_append, ← noted_noted] at acquired
  refine After.bind (withLink_asks execute_asks ⟨name, some sql⟩ _ _ acquired) ?_
  rintro result c' ⟨replied, journal⟩
  rw [Command.query, ← replied] at succeeds
  refine ⟨fun output => ?_, ?_⟩
  · rw [succeeds]
    cases result with
    | error f => exact iff_of_false nofun fun ⟨_, absurd, _⟩ => nomatch absurd
    | ok n =>
      show Except.ok (toString n ++ "\n") = .ok output ↔ _
      simp
  · cases result <;> exact journal

theorem check_spec (acquired : c.borrowedFor .check = (borrowed, c₁)) :
    After check c fun result c' =>
      (∀ output, result = .ok output ↔ Command.Succeeds .check c output) ∧
        c'.around.journal = c₁.around.journal ++ happeningsFor borrowed sessionQuery := by
  have succeeds := succeeds_iff acquired fun _ => rfl
  unfold check
  refine After.bind (withLink_asks (load_asks sessionColumns) sessionQuery _ c acquired) ?_
  rintro result c' ⟨replied, journal⟩
  rw [Command.query, ← replied] at succeeds
  simp only [succeeds]
  cases result with
  | error f => exact ⟨fun _ => iff_of_false nofun fun ⟨_, absurd, _⟩ => (nomatch absurd), journal⟩
  | ok rows =>
    have unread (f : CommandFailure) (none : Command.reading?.sessionLines? rows = none)
        (output : String) : (Except.error f : Except CommandFailure String) = .ok output ↔
          ∃ a, (Except.ok rows : Except Failure (List (List String))) = .ok a ∧
            Command.reading?.sessionLines? a = some output := by
      refine iff_of_false nofun ?_
      rintro ⟨_, ⟨⟩, some⟩
      rw [none] at some
      cases some
    -- Only a first row of two texts can be printed.
    rcases rows with _ | ⟨_ | ⟨current, _ | ⟨path, _ | ⟨more, row⟩⟩⟩, rows⟩
    case cons.cons.cons.nil =>
      apply After.get
      refine After.bind (note_goes _ c') fun _ c₂ noted => ?_
      refine ⟨fun output => ?_, ?_⟩
      · show Except.ok ("schema: " ++ current ++ "\nsearch_path: " ++ path ++ "\n") = .ok output ↔ _
        simp [Command.reading?.sessionLines?]
      · show c₂.around.journal = _
        rw [noted.journal, List.append_nil, journal]
    all_goals exact ⟨unread _ rfl, journal⟩

/-- What a command prints, and what happens to connections on its behalf. -/
theorem dispatch_spec {command : Command} (acquired : c.borrowedFor command = (borrowed, c₁)) :
    After (dispatch command) c fun result c' =>
      (∀ output, result = .ok output ↔ command.Succeeds c output) ∧
        c'.around.journal = c₁.around.journal ++ happeningsFor borrowed command.query := by
  cases command with
  | check => exact check_spec acquired
  | exec name sql => exact exec_spec acquired

theorem dispatch_eq_ok_iff (command : Command) (c : Client) (output : String) :
    (dispatch command c).1 = .ok output ↔ command.Succeeds c output := by
  rcases acquired : c.borrowedFor command with ⟨borrowed, c₁⟩
  exact (dispatch_spec acquired).1 output

end

end Client

end SchemaPool
