import SchemaPool.Proofs.Client.Lockstep
import SchemaPool.Proofs.Timing.Transparency

/-! # Clients that are timed in different ways

Two clients with different thresholds of slowness have different things hidden in them: some of
their connections have a timer in the driver and some have none, the journals tell the timing of
what was lent, and the logs differ.  Everything else is the same (`Client.Alike`).

Every action of such clients has the same result and leaves them alike, whether it succeeds or
fails.  Work on a connection is blind to how that connection is timed
(`Client.Alike.lockstep`). -/

namespace SchemaPool

open SchemaPool.Sql (Query)

/-- The same failure, or results that are related. -/
inductive Matches {ε α β : Type} (R : α → β → Prop) : Except ε α → Except ε β → Prop where
  | error (e : ε) : Matches R (.error e) (.error e)
  | ok {a : α} {b : β} (related : R a b) : Matches R (.ok a) (.ok b)

/-! ## Clients that differ in how they are timed -/

/-- The same connection, but for how it is timed. -/
def Link.Alike (l l' : Link) : Prop := ∃ timed, l' = { l with timed }

def Lent.Alike (l l' : Lent) : Prop := l.link.Alike l'.link ∧ l.realNanos = l'.realNanos

def Settings.Alike (s s' : Settings) : Prop := ∃ slowQuery, s' = { s with slowQuery }

def Happening.untimed : Happening → Happening
  | lent link _ => lent link .bare
  | h => h

structure Pool.Alike (p p' : Pool Link) : Prop where
  maxSize : p.maxSize = p'.maxSize
  idle : List.Forall₂ Link.Alike p.idle p'.idle
  lent : p.lent = p'.lent
  closed : p.closed = p'.closed

namespace Pool.Alike

variable {p p' : Pool Link}

theorem size (alike : p.Alike p') : p.size = p'.size := by
  rw [Pool.size, Pool.size, alike.idle.length_eq, alike.lent]

theorem isExhausted (alike : p.Alike p') : p.isExhausted = p'.isExhausted := by
  rw [Pool.isExhausted, Pool.isExhausted, alike.closed, alike.maxSize, alike.lent]

theorem status (alike : p.Alike p') (callers : Nat) : p.status callers = p'.status callers := by
  rw [Pool.status, Pool.status, alike.size, alike.maxSize, alike.lent]

theorem giveBack (alike : p.Alike p') {link link' : Link} (links : link.Alike link') :
    (p.giveBack link).Alike (p'.giveBack link') := by
  refine ⟨alike.maxSize, ?_, congrArg (· - 1) alike.lent, alike.closed⟩
  rw [Pool.giveBack, Pool.giveBack, alike.size, alike.maxSize]
  dsimp only
  split
  · exact List.rel_append alike.idle (.cons links .nil)
  · exact alike.idle

end Pool.Alike

namespace Client

/-- Two clients that differ only in how queries are timed, and in what has been reported and
logged. -/
structure Alike (c c' : Client) : Prop where
  settings : c.settings.Alike c'.settings
  setup : c.setup.Alike c'.setup
  pool : c.pool.Alike c'.pool
  server : c.around.server = c'.around.server
  now : c.around.timeline.now = c'.around.timeline.now
  journal : c.around.journal.map Happening.untimed = c'.around.journal.map Happening.untimed

namespace Alike

variable {c c' : Client}

theorem borrowLimit (alike : c.Alike c') : c.borrowLimit = c'.borrowLimit := by
  obtain ⟨slowQuery, same⟩ := alike.settings
  rw [Client.borrowLimit, Client.borrowLimit, same]

theorem checkLimit (alike : c.Alike c') : c.checkLimit = c'.checkLimit := by
  obtain ⟨slowQuery, same⟩ := alike.settings
  rw [Client.checkLimit, Client.checkLimit, same]

theorem withSetup (alike : c.Alike c') {setup setup' : SessionSetup} (setups : setup.Alike setup') :
    ({ c with setup } : Client).Alike { c' with setup := setup' } :=
  ⟨alike.settings, setups, alike.pool, alike.server, alike.now, alike.journal⟩

theorem withPool (alike : c.Alike c') {pool pool' : Pool Link} (pools : pool.Alike pool') :
    ({ c with pool } : Client).Alike { c' with pool := pool' } :=
  ⟨alike.settings, alike.setup, pools, alike.server, alike.now, alike.journal⟩

theorem withServer (alike : c.Alike c') (server : Server) :
    ({ c with around := { c.around with server } } : Client).Alike
      { c' with around := { c'.around with server } } :=
  ⟨alike.settings, alike.setup, alike.pool, rfl, alike.now, alike.journal⟩

end Alike

/-! ## Statements -/

theorem note_agree (entries entries' : List LogEntry) :
    Agree Alike Eq (note entries) (note entries') :=
  fun _ _ alike => ⟨rfl, alike.settings, alike.setup, alike.pool, alike.server, alike.now,
    alike.journal⟩

theorem deliver_agree (report report' : Option Report) :
    Agree Alike Eq (deliver report) (deliver report') :=
  fun _ _ alike => ⟨rfl, alike.settings, alike.setup, alike.pool, alike.server, alike.now,
    alike.journal⟩

theorem pass_agree (nanos : Nat) : Agree Alike Eq (pass nanos) (pass nanos) := by
  intro c c' alike
  refine ⟨rfl, alike.settings, alike.setup, alike.pool, alike.server, ?_, alike.journal⟩
  show c.around.timeline.now + nanos = c'.around.timeline.now + nanos
  rw [alike.now]

theorem record_agree {h h' : Happening} (same : h.untimed = h'.untimed) :
    Agree Alike Eq (record h) (record h') := by
  intro c c' alike
  refine ⟨rfl, alike.settings, alike.setup, alike.pool, alike.server, alike.now, ?_⟩
  show (c.around.journal ++ [h]).map _ = (c'.around.journal ++ [h']).map _
  rw [List.map_append, List.map_append, alike.journal, List.map_singleton, List.map_singleton, same]

theorem now_agree : Agree Alike Eq now now :=
  fun _ _ alike => ⟨alike.now, alike⟩

variable {link link' : Link} {α β : Type}

theorem runUnit_agree {query : Query} {work : Link → ClientM (Link × Except QueryError α)}
    (rows : α → Produced) (blind : InStep Alike Link.Alike work) :
    InStep Alike Link.Alike (runUnit · query work rows) := by
  rintro link _ ⟨timed, rfl⟩
  unfold Client.runUnit
  refine now_agree.andThen fun now => ?_
  refine blind.andThen ⟨_, rfl⟩ ?_
  rintro link _ result ⟨timed, rfl⟩
  refine now_agree.andThen fun now => ?_
  exact (deliver_agree _ _).andThen fun _ => .pure ⟨⟨_, rfl⟩, rfl⟩

/-- Work on a connection comes to the same whether and how the connection is timed. -/
theorem Alike.lockstep : Lockstep Alike Link.Alike where
  now := now_agree
  pass := pass_agree
  server alike := alike.server
  withServer server alike := alike.withServer server
  sent link text := record_agree rfl
  number := by
    rintro l _ ⟨timed, rfl⟩
    rfl
  lost := by
    rintro l _ ⟨timed, rfl⟩
    rfl
  stuck := by
    rintro l _ ⟨timed, rfl⟩
    rfl
  withLost := by
    rintro l _ lost ⟨timed, rfl⟩
    exact ⟨timed, rfl⟩
  withStuck := by
    rintro l _ stuck ⟨timed, rfl⟩
    exact ⟨timed, rfl⟩
  told f alike := by
    obtain ⟨timed, rfl⟩ := alike
    exact ⟨⟨_, rfl⟩, deliver_agree _ _⟩
  runUnit := runUnit_agree

/-! ## Borrowing -/

theorem checkLink_agree (alike : link.Alike link') :
    Agree Alike (Option.Rel Link.Alike) (checkLink link) (checkLink link') := by
  obtain ⟨timed, rfl⟩ := alike
  unfold checkLink
  refine (note_agree _ _).andThen fun _ => ?_
  by_cases broken : link.isBroken = true
  · have broken' : ({ link with timed } : Link).isBroken = true := broken
    simp only [broken, broken', if_true]
    exact (note_agree _ _).andThen fun _ => .pure .none
  · have broken' : ¬({ link with timed } : Link).isBroken = true := broken
    simp only [broken, broken']
    refine Agree.get fun c c' alike => ?_
    rw [← alike.checkLimit]
    refine (Alike.lockstep.sendWithin c.checkLimit .check).andThen ⟨timed, rfl⟩ ?_
    rintro link _ answer ⟨timed, rfl⟩
    cases answer with
    | none => exact .pure .none
    | some result =>
      cases result with
      | error e => exact .pure .none
      | ok rows =>
        -- It is lent all the same if it has just been lost.
        have lent : Option.Rel Link.Alike (some { link with recycled := link.recycled + 1 })
            (some { link with recycled := link.recycled + 1, timed }) := .some ⟨timed, rfl⟩
        by_cases lost : link.isBroken = true
        · have lost' : ({ link with timed } : Link).isBroken = true := lost
          simp only [lost, lost', if_true]
          exact (note_agree _ _).andThen fun _ => .pure lent
        · have lost' : ¬({ link with timed } : Link).isBroken = true := lost
          simp only [lost, lost']
          exact .pure lent

theorem firstUsable_agree {links links' : List Link} (alike : List.Forall₂ Link.Alike links links') :
    Agree Alike (fun r r' => Option.Rel Link.Alike r.1 r'.1 ∧ List.Forall₂ Link.Alike r.2 r'.2)
      (firstUsable links) (firstUsable links') := by
  induction alike with
  | nil => exact .pure ⟨.none, .nil⟩
  | cons first rest ih =>
    rw [firstUsable, firstUsable]
    refine (checkLink_agree first).bind ?_
    rintro _ _ (found | _)
    · exact .pure ⟨.some found, rest⟩
    · obtain ⟨timed, rfl⟩ := first
      exact (record_agree rfl).andThen fun _ => ih

theorem prepare_agree (alike : link.Alike link') :
    Agree Alike Link.Alike (prepare link) (prepare link') := by
  obtain ⟨timed, rfl⟩ := alike
  unfold prepare
  refine Agree.get fun c c' alike => ?_
  obtain ⟨monitor, same⟩ := alike.setup
  rw [same]
  dsimp only
  refine (note_agree _ _).andThen fun _ => ?_
  rcases c.setup.instrument link.timed with ⟨one, entries⟩
  rcases SessionSetup.instrument { c.setup with monitor } timed with ⟨other, entries'⟩
  refine (note_agree _ _).andThen fun _ => ?_
  refine (Alike.lockstep.batch c.setup.statement).andThen ⟨other, rfl⟩ ?_
  rintro link _ result ⟨timed, rfl⟩
  refine (record_agree rfl).andThen fun _ => ?_
  have concluded := SessionSetup.Alike.conclude (s := c.setup) ⟨monitor, rfl⟩ result
  refine (Agree.modify fun c c' alike => alike.withSetup concluded).andThen fun _ => ?_
  exact (note_agree _ _).andThen fun _ => .pure ⟨timed, rfl⟩

theorem openLink_agree : Agree Alike (Matches Lent.Alike) openLink openLink := by
  unfold openLink
  refine Agree.get fun c c' alike => ?_
  rw [← alike.server, ← alike.borrowLimit]
  rcases c.around.server.connect with ⟨attempt, number, server⟩
  refine Agree.set (alike.withServer server) ?_
  by_cases late : isLate attempt.nanos c.borrowLimit = true
  · simp only [late, if_true]
    exact (pass_agree _).andThen fun _ => .pure (.error _)
  · simp only [late]
    refine (pass_agree _).andThen fun _ => ?_
    split
    · exact (note_agree _ _).andThen fun _ => .pure (.error _)
    · refine (note_agree _ _).andThen fun _ => ?_
      refine (record_agree rfl).andThen fun _ => ?_
      exact (prepare_agree ⟨_, rfl⟩).bind fun _ _ alike => .pure (.ok ⟨alike, rfl⟩)

/-- What is done with a connection that can be lent. -/
def lend (lent : Lent) : ClientM (Except AcquireError Lent) := do
  record (.lent lent.link.number lent.link.timed.timing)
  modify fun c => { c with pool := { c.pool with lent := c.pool.lent + 1 } }
  return .ok lent

theorem lend_agree {lent lent' : Lent} (alike : lent.Alike lent') :
    Agree Alike (Matches Lent.Alike) (lend lent) (lend lent') := by
  obtain ⟨link, realNanos⟩ := lent
  obtain ⟨link', realNanos'⟩ := lent'
  obtain ⟨⟨timed, rfl⟩, rfl⟩ := alike
  -- The journal may tell that the two connections are timed in different ways.
  have shown : (Happening.lent link.number link.timed.timing).untimed =
      (Happening.lent link.number timed.timing).untimed := rfl
  refine (record_agree shown).andThen fun _ => ?_
  refine (Agree.modify fun c c' alike => ?_).andThen fun _ => .pure (.ok ⟨⟨timed, rfl⟩, rfl⟩)
  exact alike.withPool ⟨alike.pool.maxSize, alike.pool.idle, congrArg (· + 1) alike.pool.lent,
    alike.pool.closed⟩

theorem take_agree : Agree Alike (Matches Lent.Alike) take take := by
  unfold take
  refine Agree.get fun c c' alike => ?_
  refine (firstUsable_agree alike.pool.idle).bind ?_
  rintro ⟨found, left⟩ ⟨found', left'⟩ ⟨usable, left⟩
  refine (Agree.modify fun c c' alike => ?_).andThen fun _ => ?_
  · exact alike.withPool ⟨alike.pool.maxSize, left, alike.pool.lent, alike.pool.closed⟩
  · cases usable with
    | some alike => exact lend_agree ⟨alike, rfl⟩
    | none =>
      refine openLink_agree.bind ?_
      rintro _ _ (e | alike)
      · exact .pure (.error e)
      · exact lend_agree alike

theorem acquire_agree : Agree Alike (Matches Lent.Alike) acquire acquire := by
  unfold acquire
  refine Agree.get fun c c' alike => ?_
  rw [← alike.pool.closed, ← alike.pool.isExhausted, ← alike.borrowLimit]
  split
  · exact .pure (.error _)
  · split
    · exact (pass_agree _).andThen fun _ => .pure (.error _)
    · exact take_agree

theorem release_agree (alike : link.Alike link') : Agree Alike Eq (release link) (release link') := by
  obtain ⟨timed, rfl⟩ := alike
  unfold release
  refine (record_agree rfl).andThen fun _ => Agree.modify fun c c' alike => ?_
  exact alike.withPool (alike.pool.giveBack ⟨timed, rfl⟩)

theorem noteBorrowed_agree {result result' : Except AcquireError Lent}
    (matched : Matches Lent.Alike result result') :
    Agree Alike (Matches Link.Alike) (noteBorrowed result) (noteBorrowed result') := by
  unfold noteBorrowed
  cases matched with
  | error e => exact (note_agree _ _).andThen fun _ => .pure (.error _)
  | ok related =>
    obtain ⟨alike, real⟩ := related
    dsimp only
    rw [← real]
    split
    · refine (note_agree _ _).andThen fun _ => ?_
      exact (note_agree _ _).andThen fun _ => .pure (.ok alike)
    · exact (note_agree _ _).andThen fun _ => .pure (.ok alike)

theorem borrow_agree : Agree Alike (Matches Link.Alike) borrow borrow :=
  (note_agree _ _).andThen fun _ => acquire_agree.bind fun _ _ => noteBorrowed_agree

theorem close_agree : Agree Alike Eq close close := by
  refine (note_agree _ _).andThen fun _ => (record_agree rfl).andThen fun _ => ?_
  exact Agree.modify fun c c' alike => alike.withPool ⟨rfl, .nil, alike.pool.lent, rfl⟩

theorem withLink_agree {work : Link → ClientM (Link × Except Failure α)}
    (blind : InStep Alike Link.Alike work) :
    Agree Alike Eq (withLink work) (withLink work) := by
  unfold withLink
  refine borrow_agree.bind ?_
  rintro _ _ (f | alike)
  · exact .pure rfl
  · obtain ⟨timed, rfl⟩ := alike
    refine Agree.get fun c c' alike => ?_
    refine (blind _ _ ⟨_, rfl⟩).bind ?_
    rintro ⟨link, result⟩ ⟨link', _⟩ ⟨alike, rfl⟩
    exact (release_agree alike).andThen fun _ => .pure rfl

theorem executeSql_agree (query : Query) : Agree Alike Eq (executeSql query) (executeSql query) :=
  withLink_agree (Alike.lockstep.executeQuery query)

theorem loadSql_agree (names : List String) (query : Query) :
    Agree Alike Eq (loadSql names query) (loadSql names query) :=
  withLink_agree (Alike.lockstep.loadQuery names query)

/-! ## Commands and starts -/

theorem check_agree : Agree Alike Eq check check := by
  unfold check
  refine (loadSql_agree _ _).andThen fun result => ?_
  split
  · exact .pure rfl
  · refine Agree.get fun c c' alike => ?_
    exact (note_agree _ _).andThen fun _ => .pure rfl
  · exact .pure rfl

theorem exec_agree (name : Option String) (sql : String) :
    Agree Alike Eq (exec name sql) (exec name sql) := by
  unfold exec
  refine (note_agree _ _).andThen fun _ => (executeSql_agree _).andThen fun result => ?_
  cases result with
  | error f => exact .pure rfl
  | ok affected => exact .pure rfl

theorem dispatch_agree (command : Command) :
    Agree Alike Eq (dispatch command) (dispatch command) := by
  cases command with
  | check => exact check_agree
  | exec name sql => exact exec_agree name sql

theorem exchange_agree (text : String) : Agree Alike Eq (exchange text) (exchange text) := by
  unfold exchange
  refine acquire_agree.bind ?_
  rintro _ _ (e | ⟨alike, -⟩)
  · exact .pure rfl
  · refine (Alike.lockstep.batch text).andThen alike fun link link' result alike => ?_
    exact (release_agree alike).andThen fun _ => .pure rfl

theorem hold_agree (dialogue : Startup) : Agree Alike Eq (hold dialogue) (hold dialogue) := by
  induction dialogue with
  | done result => exact .pure rfl
  | note entries next ih => exact (note_agree entries entries).andThen fun _ => ih
  | exchange text next ih => exact (exchange_agree text).andThen fun answer => ih answer

end Client

end SchemaPool
