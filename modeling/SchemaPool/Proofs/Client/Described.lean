import SchemaPool.Proofs.Client.Asking

/-! # What a query's text and its name decide

A query is run by its text alone.  A blank one is refused before anything is done.  Any other is
one statement for the driver, the text as it is, and everything that comes of it is the same for
all queries with that text.  The name shows in one place, which is the label of the report on the
query (`Client.queries_run_by_text`). -/

namespace SchemaPool

open SchemaPool.Text (isBlank)

/-- The same report under another label. -/
def Report.labelled (r : Report) (label : Sql.Label) : Report :=
  { r with event := { r.event with label } }

/-! ## Queries -/

namespace Sql.Query

variable {query : Query} {text : String}

/-- There is nothing to run. -/
def IsBlank (query : Query) : Prop := ∀ text, query.text = some text → isBlank text = true

theorem sql_of_isBlank (blank : query.IsBlank) :
    query.sql = .error (.invalidArgument .blankStatement) := by
  unfold sql
  cases given : query.text with
  | none => rfl
  | some text => simp [blank text given]

theorem sql_of_text (given : query.text = some text) (filled : isBlank text = false) :
    query.sql = .ok text := by
  simp [sql, given, filled]

theorem isBlank_or (query : Query) :
    query.IsBlank ∨ ∃ text, query.text = some text ∧ isBlank text = false := by
  unfold IsBlank
  cases query.text with
  | none => simp
  | some text => cases isBlank text <;> simp

/-- A name that is not empty is the label as it is. -/
theorem label_of_name {name : String} (named : query.name = some name) (filled : name ≠ "") :
    query.label = Label.ofName name := by
  simp [label, named, filled]

/-- Without a name, or with an empty one, the text gives the label. -/
theorem label_of_text (unnamed : ∀ name, query.name = some name → name = "")
    (given : query.text = some text) : query.label = Label.ofText text := by
  unfold label
  cases named : query.name with
  | none => simp [label.ofTextLabel, given]
  | some name => simp [unnamed name named, label.ofTextLabel, given]

end Sql.Query

/-! ## Reports -/

/-- A query takes part in the verdict on it with its label only. -/
theorem Monitor.judge_labelled (w : Monitor) (query : Sql.Query) (elapsed : Duration)
    (outcome : Outcome) :
    w.judge query elapsed outcome =
      (w.judge .empty elapsed outcome).map (·.labelled query.label) := by
  rw [judge, judge, record, record]
  split <;> rfl

namespace TimedConnection

/-- What there is to report at the end of a labelled unit, under no label yet. -/
def unitReport (c : TimedConnection) (u : OpenUnit) (now : Nat) (outcome : Outcome) :
    Option Report :=
  (c.closeUnit u now .empty outcome).2

theorem closeUnit_eq (c : TimedConnection) (u : OpenUnit) (now : Nat) (query : Sql.Query)
    (outcome : Outcome) :
    c.closeUnit u now query outcome =
      (c.releaseScope u, (c.unitReport u now outcome).map (·.labelled query.label)) := by
  unfold unitReport closeUnit
  cases u.watch with
  | none => rfl
  | some watch => exact congrArg _ (Monitor.judge_labelled ..)

end TimedConnection

namespace Client

variable {α : Type}

/-- The client after a report has been delivered. -/
def reported (c : Client) (report : Option Report) : Client :=
  { c with around := { c.around with timeline := c.around.timeline.deliver report } }

/-! ## One statement for the driver -/

/-- One statement is handed to the driver of a connection on which a labelled unit has been opened:
its link and its answer afterwards, and the client at that moment. -/
def handed (c : Client) (link : Link) (text : String) : (Link × Except QueryError Table) × Client :=
  send { link with timed := (link.timed.openUnit c.around.timeline.now).1 } (.built text) c

/-- The link when the unit has ended. -/
def handedBack (c : Client) (link : Link) (text : String) : Link :=
  let back := (c.handed link text).1.1
  { back with timed := back.timed.releaseScope (link.timed.openUnit c.around.timeline.now).2 }

/-- The driver passes the statement on once, unless the connection is known to be lost, and the
answer is that of the database. -/
theorem handed_reaches (c : Client) (link : Link) (text : String) :
    (c.handed link text).2.around.journal = c.around.journal ++ issued link text ∧
      (c.handed link text).1.2 = c.answer link text := by
  obtain ⟨worked, answered⟩ := send_worked
    { link with timed := (link.timed.openUnit c.around.timeline.now).1 } (.built text) c
  exact ⟨worked.goes.journal, answered⟩

/-- The work hands the driver its statement, and its result is read out of the answer. -/
def Hands (work : Link → String → ClientM (Link × Except QueryError α))
    (read : Table → Except QueryError α) : Prop :=
  ∀ link text, work link text = do
    let (link, answer) ← send link (.built text)
    return (link, answer.bind read)

theorem execute_hands : Hands execute fun t => .ok t.affected := by
  intro link text
  refine congrArg (send link (.built text) >>= ·) (funext fun sent => ?_)
  obtain ⟨link, answer⟩ := sent
  cases answer <;> rfl

theorem load_hands (names : List String) : Hands (load names) (readColumns names) :=
  fun _ _ => rfl

/-! ## Running a query -/

/-- Queries are run by their text.  A blank one is refused and nothing is done.  Any other is one
statement for the driver, and then only the label of the report on it is left to the query. -/
structure RunsByText (run : Link → Sql.Query → ClientM (Link × Except Failure α))
    (read : Table → Except QueryError α) : Prop where
  refused : ∀ link query c, query.IsBlank →
    run link query c = ((link, .error (.invalidArgument .blankStatement)), c)
  once : ∀ link text c, isBlank text = false → ∃ report : Option Report,
    ∀ query, query.text = some text →
      run link query c =
        ((c.handedBack link text, ((c.handed link text).1.2.bind read).mapError .query),
          (c.handed link text).2.reported (report.map (·.labelled query.label)))

/-- What there is to report of a query that has been answered, under no label yet. -/
def reportDue (c : Client) (link : Link) (text : String) (read : Table → Except QueryError α)
    (rows : α → Produced) : Option Report :=
  let sent := c.handed link text
  sent.1.1.timed.unitReport (link.timed.openUnit c.around.timeline.now).2
    sent.2.around.timeline.now
    (match sent.1.2.bind read with
      | .ok a => .completed (rows a).rowCount
      | .error e => .failed e.message)

section

variable {work : Link → String → ClientM (Link × Except QueryError α)}
  {read : Table → Except QueryError α}

theorem runUnit_hands (hands : Hands work read) (link : Link) (query : Sql.Query)
    (rows : α → Produced) (text : String) (c : Client) :
    runUnit link query (work · text) rows c =
      ((c.handedBack link text, (c.handed link text).1.2.bind read),
        (c.handed link text).2.reported
          ((c.reportDue link text read rows).map (·.labelled query.label))) := by
  have same : work = _ := funext fun link => funext (hands link)
  subst same
  have told : _ = (c.reportDue link text read rows).map (·.labelled query.label) :=
    congrArg Prod.snd (TimedConnection.closeUnit_eq _ _ _ query _)
  rw [← told]
  rfl

theorem runQuery_runsByText (hands : Hands work read) (rows : α → Produced) :
    RunsByText (fun link query => runQuery link query work rows) read where
  refused := by
    intro link query c blank
    unfold runQuery
    rw [Sql.Query.sql_of_isBlank blank]
    rfl
  once := by
    intro link text c filled
    refine ⟨c.reportDue link text read rows, fun query given => ?_⟩
    unfold runQuery
    rw [Sql.Query.sql_of_text given filled]
    have ran := runUnit_hands hands link query rows text c
    change (let r := runUnit link query (work · text) rows c; ((r.1.1, r.1.2.mapError _), r.2)) = _
    rw [ran]

end

theorem reported_none (c : Client) : c.reported none = c := by
  simp [reported, Timeline.deliver]

section

variable {run : Link → Sql.Query → ClientM (Link × Except Failure α)}
  {read : Table → Except QueryError α} {link : Link} {c : Client}

/-- The text goes to the driver once and as it is, and the result is read out of the answer to
it. -/
theorem RunsByText.sends (runs : RunsByText run read) {query : Sql.Query} {text : String}
    (given : query.text = some text) (filled : isBlank text = false) :
    (run link query c).2.around.journal = c.around.journal ++ issued link text ∧
      (run link query c).1.2 = ((c.answer link text).bind read).mapError .query := by
  obtain ⟨sent, answered⟩ := handed_reaches c link text
  obtain ⟨report, ran⟩ := runs.once link text c filled
  rw [ran query given, ← answered]
  exact ⟨sent, rfl⟩

/-- Of two queries with one text, one is as good as the other, except for the label. -/
theorem RunsByText.alike (runs : RunsByText run read) {one other : Sql.Query}
    (same : one.text = other.text) :
    (run link one c).1 = (run link other c).1 ∧ ∃ (base : Client) (report : Option Report),
      (run link one c).2 = base.reported (report.map (·.labelled one.label)) ∧
      (run link other c).2 = base.reported (report.map (·.labelled other.label)) := by
  cases one.isBlank_or with
  | inl blank =>
    have blank' : other.IsBlank := fun text given => blank text (same.trans given)
    rw [runs.refused link one c blank, runs.refused link other c blank']
    exact ⟨rfl, c, none, c.reported_none.symm, c.reported_none.symm⟩
  | inr filled =>
    obtain ⟨text, given, filled⟩ := filled
    obtain ⟨report, ran⟩ := runs.once link text c filled
    rw [ran one given, ran other (same.symm.trans given)]
    exact ⟨rfl, _, report, rfl, rfl⟩

end

/-- A query without text, or with a blank one, is refused: nothing is sent or reported, and the
connection with its timing and its pending statements stays as it was.  Any other query hands the
driver its text as it is, once, and the driver sends it unless the connection is known to be lost;
the result is read out of the answer.  The names of two queries with one text make no difference to
the result, to the connection, to what was sent or to anything else but the label of at most one
report; this is the name if it is not empty, and otherwise the label of the text. -/
theorem queries_run_by_text :
    RunsByText executeQuery (fun t => .ok t.affected) ∧
    (∀ names, RunsByText (loadQuery names) (readColumns names)) ∧
    (∀ {α : Type} (run : Link → Sql.Query → ClientM (Link × Except Failure α)) read,
      RunsByText run read → ∀ link c,
        (∀ (query : Sql.Query) text, query.text = some text → isBlank text = false →
          (run link query c).2.around.journal = c.around.journal ++ issued link text ∧
          (run link query c).1.2 = ((c.answer link text).bind read).mapError .query) ∧
        ∀ one other : Sql.Query, one.text = other.text →
          (run link one c).1 = (run link other c).1 ∧ ∃ (base : Client) (report : Option Report),
            (run link one c).2 = base.reported (report.map (·.labelled one.label)) ∧
            (run link other c).2 = base.reported (report.map (·.labelled other.label))) ∧
    ∀ query : Sql.Query,
      (∀ name, query.name = some name → name ≠ "" → query.label.text = name) ∧
      ((∀ name, query.name = some name → name = "") → ∀ text, query.text = some text →
        query.label = .ofText text) := by
  refine ⟨runQuery_runsByText execute_hands _,
    fun names => runQuery_runsByText (load_hands names) _, ?_, fun query => ⟨?_, ?_⟩⟩
  · intro α run read runs link c
    exact ⟨fun query text given filled => runs.sends given filled,
      fun one other same => runs.alike same⟩
  · intro name named filled
    rw [Sql.Query.label_of_name named filled]
    rfl
  · intro unnamed text given
    exact Sql.Query.label_of_text unnamed given

/-- Every query takes 60 milliseconds. -/
def ponderous : Server :=
  .ofScript [] [⟨"SELECT", none, none, ⟨60000000, .table ⟨[], [], 0⟩, false⟩⟩]

/-- On a connection whose driver is timed, a blank query is refused, and two queries with one text
are sent as they are and differ in the label of what is reported. -/
theorem queries_run_by_text_of_namesakes :
    let setup : SessionSetup := ⟨.standard, "", ⟨⟨50⟩, .log⟩, 0⟩
    let c : Client := ⟨.new "postgres://localhost/app", setup, .empty 1, .ofServer ponderous⟩
    let link : Link := { Link.new 0 with timed := ((Link.new 0).timed.instrument setup.monitor).1 }
    let one : Sql.Query := ⟨some "heartbeat", some " SELECT 1"⟩
    let other : Sql.Query := ⟨some "", some " SELECT 1"⟩
    executeQuery link ⟨some "heartbeat", some " \u3000"⟩ c =
      ((link, .error (.invalidArgument .blankStatement)), c) ∧
    (executeQuery link one c).2.around.journal = [.sent 0 " SELECT 1"] ∧
    (executeQuery link one c).1 = (executeQuery link other c).1 ∧
    one.label.text = "heartbeat" ∧ other.label = .ofText " SELECT 1" ∧
    (executeQuery link one c).2.around.timeline.reports.map (·.event.label) = [one.label] ∧
    (executeQuery link other c).2.around.timeline.reports.map (·.event.label) = [other.label] := by
  intro setup c link one other
  obtain ⟨executes, -, both, labels⟩ := queries_run_by_text
  obtain ⟨sends, alike⟩ := both executeQuery _ executes link c
  have blank : isBlank " \u3000" = true := by decide
  have filled : isBlank " SELECT 1" = false := by decide
  refine ⟨executes.refused link _ c ?_, (sends one _ rfl filled).1, (alike one other rfl).1,
    (labels one).1 _ rfl (by simp), (labels other).2 ?_ _ rfl, ?_, ?_⟩
  · intro text given
    cases given
    exact blank
  · intro name named
    cases named
    rfl
  · decide +kernel
  · decide +kernel

end Client

end SchemaPool
