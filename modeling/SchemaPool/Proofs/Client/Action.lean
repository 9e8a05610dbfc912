import SchemaPool.Client.Steps

/-! # What work on a connection leaves behind

Actions are described by what holds after them (`After`), one description for each
operation, and nothing later looks into an operation again.

Work on a link, from one statement up to a transaction, has one description (`Works`): it
sends statements on that link and on no other, and gives back the same link, timed as
before.  Everything else about the client stays: its settings, the setup of its sessions and
its pool. -/

namespace SchemaPool

/-! ## Postconditions -/

/-- The result of an action and the state it ends in are related by `Q`. -/
def After {σ α : Type} (x : StateM σ α) (s : σ) (Q : α → σ → Prop) : Prop := Q (x s).1 (x s).2

namespace After

variable {σ α β : Type} {x : StateM σ α} {s : σ} {P : α → σ → Prop}

theorem mono {Q : α → σ → Prop} (after : After x s P) (weaker : ∀ a s', P a s' → Q a s') :
    After x s Q :=
  weaker _ _ after

theorem bind {f : α → StateM σ β} {Q : β → σ → Prop} (first : After x s P)
    (second : ∀ a s', P a s' → After (f a) s' Q) : After (x >>= f) s Q :=
  second _ _ first

theorem pure {a : α} {f : α → StateM σ β} {Q : β → σ → Prop} (next : After (f a) s Q) :
    After (pure a >>= f) s Q :=
  next

theorem modify {g : σ → σ} {f : Unit → StateM σ β} {Q : β → σ → Prop}
    (next : After (f ()) (g s) Q) : After (modify g >>= f) s Q :=
  next

theorem set {s' : σ} {f : PUnit → StateM σ β} {Q : β → σ → Prop} (next : After (f ⟨⟩) s' Q) :
    After (set s' >>= f) s Q :=
  next

theorem get {f : σ → StateM σ β} {Q : β → σ → Prop} (next : After (f s) s Q) :
    After (get >>= f) s Q :=
  next

end After

namespace Client

/-! ## Changes around a client -/

/-- From `c` to `c'` only what is around the client has changed, and the happenings went into
the journal. -/
structure Goes (c : Client) (hs : List Happening) (c' : Client) : Prop where
  settings : c'.settings = c.settings
  setup : c'.setup = c.setup
  pool : c'.pool = c.pool
  attempts : c.around.server.attempts ≤ c'.around.server.attempts
  journal : c'.around.journal = c.around.journal ++ hs

theorem Goes.refl (c : Client) : c.Goes [] c := ⟨rfl, rfl, rfl, Nat.le_refl _, (List.append_nil _).symm⟩

theorem Goes.trans {c c' c'' : Client} {hs hs' : List Happening} (first : c.Goes hs c')
    (second : c'.Goes hs' c'') : c.Goes (hs ++ hs') c'' where
  settings := second.settings.trans first.settings
  setup := second.setup.trans first.setup
  pool := second.pool.trans first.pool
  attempts := Nat.le_trans first.attempts second.attempts
  journal := by rw [second.journal, first.journal, List.append_assoc]

theorem Goes.withSetup {c c' : Client} {hs : List Happening} (goes : c.Goes hs c')
    (setup : SessionSetup) : ({ c with setup } : Client).Goes hs { c' with setup } :=
  ⟨goes.settings, rfl, goes.pool, goes.attempts, goes.journal⟩

theorem Goes.mapPool {c c' : Client} {hs : List Happening} (goes : c.Goes hs c')
    (f : Pool Link → Pool Link) :
    ({ c with pool := f c.pool } : Client).Goes hs { c' with pool := f c'.pool } :=
  ⟨goes.settings, goes.setup, congrArg f goes.pool, goes.attempts, goes.journal⟩

theorem note_goes (entries : List LogEntry) (c : Client) :
    After (note entries) c fun _ c' => c.Goes [] c' :=
  ⟨rfl, rfl, rfl, Nat.le_refl _, (List.append_nil _).symm⟩

theorem pass_goes (nanos : Nat) (c : Client) : After (pass nanos) c fun _ c' => c.Goes [] c' :=
  ⟨rfl, rfl, rfl, Nat.le_refl _, (List.append_nil _).symm⟩

theorem deliver_goes (report : Option Report) (c : Client) :
    After (deliver report) c fun _ c' => c.Goes [] c' :=
  ⟨rfl, rfl, rfl, Nat.le_refl _, (List.append_nil _).symm⟩

theorem record_goes (h : Happening) (c : Client) : After (record h) c fun _ c' => c.Goes [h] c' :=
  ⟨rfl, rfl, rfl, Nat.le_refl _, rfl⟩

theorem after_now {α : Type} {f : Nat → ClientM α} {c : Client} {Q : α → Client → Prop}
    (next : After (f c.around.timeline.now) c Q) : After (now >>= f) c Q :=
  next

/-! ## One statement -/

/-- What the database sees of a statement: nothing when the connection is known to be lost. -/
def issued (link : Link) (text : String) : List Happening :=
  if link.lost then [] else [.sent link.number text]

/-- From `c` to `c'` there has been work on the link, which is `link'` afterwards. -/
structure Worked (link : Link) (c : Client) (hs : List Happening) (link' : Link) (c' : Client) :
    Prop where
  goes : c.Goes hs c'
  number : link'.number = link.number
  timing : link'.timed.timing = link.timed.timing
  sent : ∀ h ∈ hs, ∃ text, h = .sent link.number text

theorem Worked.refl (link : Link) (c : Client) : Worked link c [] link c :=
  ⟨.refl c, rfl, rfl, fun _ member => by cases member⟩

theorem Worked.trans {link link' link'' : Link} {c c' c'' : Client} {hs hs' : List Happening}
    (first : Worked link c hs link' c') (second : Worked link' c' hs' link'' c'') :
    Worked link c (hs ++ hs') link'' c'' where
  goes := first.goes.trans second.goes
  number := second.number.trans first.number
  timing := second.timing.trans first.timing
  sent := by
    intro h member
    cases List.mem_append.1 member with
    | inl member => exact first.sent h member
    | inr member =>
      obtain ⟨text, rfl⟩ := second.sent h member
      exact ⟨text, by rw [first.number]⟩

theorem Worked.retimed {link : Link} {timed : TimedConnection} (c : Client)
    (same : timed.timing = link.timed.timing) : Worked link c [] { link with timed } c :=
  ⟨.refl c, rfl, same, fun _ member => by cases member⟩

theorem Worked.after {link link' : Link} {c c' c'' : Client} {hs : List Happening}
    (first : Worked link c hs link' c') (quiet : c'.Goes [] c'') : Worked link c hs link' c'' where
  goes := hs.append_nil ▸ first.goes.trans quiet
  number := first.number
  timing := first.timing
  sent := first.sent

theorem issued_sent {link : Link} {text : String} {h : Happening} (member : h ∈ issued link text) :
    h = .sent link.number text := by
  unfold issued at member
  split at member
  · cases member
  · exact List.mem_singleton.1 member

theorem finish_worked {α : Type} (link : Link) (shown : String) (result : Except QueryError α)
    (c : Client) : After (finish link shown result) c fun link' c' => Worked link c [] link' c' := by
  refine ⟨⟨rfl, rfl, rfl, Nat.le_refl _, (List.append_nil _).symm⟩, rfl, ?_, fun _ member => by cases member⟩
  exact TimedConnection.timing_finishStatement ..

theorem react_goes (link : Link) (text : String) (c : Client) :
    After (react link text) c fun reaction c' =>
      reaction = (c.around.server.react link.number text).1 ∧
        c.Goes [.sent link.number text] c' :=
  ⟨rfl, rfl, rfl, rfl, Nat.le_refl _, rfl⟩

/-- A statement reaches the database once, unless the connection is known to be lost, and has
the answer of the database, unless that comes too late. -/
theorem sendWithin_worked (limit : Option Nat) (link : Link) (s : Statement) (c : Client) :
    After (sendWithin limit link s) c fun r c' =>
      Worked link c (issued link s.text) r.1 c' ∧
        r.2 =
          if link.lost then some (.error .connectionLost)
          else if isLate (c.around.server.react link.number s.text).1.nanos limit then none
          else some (c.around.server.react link.number s.text).1.reply.result := by
  obtain ⟨number, timed, lost, stuck, recycled⟩ := link
  have begun : Worked ⟨number, timed, lost, stuck, recycled⟩ c []
      ⟨number, timed.startStatement c.around.timeline.now s.shown, lost, stuck, recycled⟩ c :=
    ⟨.refl c, rfl, rfl, fun _ member => by cases member⟩
  unfold sendWithin
  apply after_now
  cases lost with
  | true =>
    -- The driver is told of the statement all the same.
    refine After.bind (finish_worked _ _ _ _) fun link' c' finished => ?_
    exact ⟨begun.trans finished, rfl⟩
  | false =>
    refine After.bind (react_goes _ _ _) ?_
    rintro reaction c₁ ⟨rfl, reached⟩
    have sent := begun.trans ⟨reached, rfl, rfl, fun h member => ⟨_, List.mem_singleton.1 member⟩⟩
    by_cases late : isLate (c.around.server.react number s.text).1.nanos limit = true
    · -- The caller gives up, so the driver never sees the statement finished.
      simp only [late, if_true]
      refine After.bind (pass_goes _ _) fun _ c₂ passed => ?_
      exact ⟨sent.after passed, rfl⟩
    · simp only [late]
      refine After.bind (pass_goes _ _) fun _ c₂ passed => ?_
      refine After.bind (finish_worked _ _ _ _) fun link' c₃ finished => ?_
      -- By now the link may be known to be lost, which makes no difference here.
      have ended := (sent.after passed).trans
        ⟨finished.goes, finished.number, finished.timing, finished.sent⟩
      exact ⟨ended, rfl⟩

theorem send_worked (link : Link) (s : Statement) (c : Client) :
    After (send link s) c fun r c' =>
      Worked link c (issued link s.text) r.1 c' ∧
        r.2 =
          if link.lost then .error .connectionLost
          else (c.around.server.react link.number s.text).1.reply.result := by
  unfold send
  refine After.bind (sendWithin_worked none link s c) ?_
  rintro ⟨link', result⟩ c' ⟨worked, answer⟩
  refine ⟨worked, ?_⟩
  dsimp only at answer ⊢
  subst answer
  split <;> rfl

theorem batch_worked (link : Link) (text : String) (c : Client) :
    After (batch link text) c fun r c' =>
      Worked link c (issued link text) r.1 c' ∧
        r.2 =
          if link.lost then .error .connectionLost
          else (c.around.server.react link.number text).1.reply.result.map fun _ => () := by
  unfold batch
  refine After.bind (send_worked link (.plain text) c) ?_
  rintro ⟨link', result⟩ c' ⟨worked, answer⟩
  refine ⟨worked, ?_⟩
  dsimp only at answer ⊢
  subst answer
  split <;> rfl

/-! ## Work of any length -/

/-- Whenever it is done, there has only been work on the link. -/
def Works {α : Type} (work : Link → ClientM (Link × α)) : Prop :=
  ∀ link c, After (work link) c fun r c' => ∃ hs, Worked link c hs r.1 c'

namespace Works

variable {α β : Type}

theorem pure (f : Link → α) : Works fun link => return (link, f link) :=
  fun link c => ⟨[], .refl link c⟩

theorem andThen {work : Link → ClientM (Link × α)} {next : Link × α → ClientM (Link × β)}
    {link : Link} {c : Client} (first : Works work)
    (second : ∀ link' a c', After (next (link', a)) c' fun r c'' => ∃ hs, Worked link' c' hs r.1 c'') :
    After (work link >>= next) c fun r c'' => ∃ hs, Worked link c hs r.1 c'' := by
  refine After.bind (first link c) ?_
  rintro ⟨link', a⟩ c' ⟨hs, worked⟩
  refine (second link' a c').mono ?_
  rintro r c'' ⟨hs', more⟩
  exact ⟨hs ++ hs', worked.trans more⟩

theorem map {work : Link → ClientM (Link × α)} (works : Works work) (f : α → β) :
    Works fun link => work link >>= fun (link, a) => return (link, f a) :=
  fun _ _ => works.andThen fun link' a => pure (fun _ => f a) link'

theorem send (s : Statement) : Works (Client.send · s) :=
  fun link c => (send_worked link s c).mono fun _ _ h => ⟨_, h.1⟩

theorem batch (text : String) : Works (Client.batch · text) := (Works.send _).map _

theorem execute (text : String) : Works (Client.execute · text) := (Works.send _).map _

theorem load (names : List String) (text : String) : Works (Client.load names · text) :=
  (Works.send _).map fun result => result.bind (readColumns names)

theorem runUnit {query : Sql.Query} {work : Link → ClientM (Link × Except QueryError α)}
    (works : Works work) (rows : α → Produced) :
    Works fun link => Client.runUnit link query work rows := by
  intro link c
  unfold Client.runUnit
  apply after_now
  refine After.bind (works _ c) ?_
  rintro ⟨link', result⟩ c₁ ⟨hs, worked⟩
  apply after_now
  refine After.bind (deliver_goes _ c₁) fun _ c₂ delivered => ?_
  -- Holding the driver's scope and leaving it are not changes of the timing.
  have opened := Worked.retimed c (TimedConnection.timing_openUnit link.timed c.around.timeline.now)
  refine ⟨_, ((opened.trans worked).after delivered).trans (.retimed c₂ ?_)⟩
  exact TimedConnection.timing_releaseScope ..

theorem runQuery {query : Sql.Query} {work : Link → String → ClientM (Link × Except QueryError α)}
    (works : ∀ text, Works (work · text)) (rows : α → Produced) :
    Works fun link => Client.runQuery link query work rows := by
  intro link c
  unfold Client.runQuery
  cases query.sql with
  | error f => exact ⟨[], .refl link c⟩
  | ok text => exact ((works text).runUnit rows).map (Except.mapError Failure.query) link c

theorem executeQuery (query : Sql.Query) : Works (Client.executeQuery · query) :=
  runQuery Works.execute .count

theorem loadQuery (names : List String) (query : Sql.Query) :
    Works (Client.loadQuery names · query) :=
  runQuery (Works.load names) fun rows => .rows rows.length

theorem executeAll (total : Nat) (texts : List String) :
    Works fun link => Client.executeAll link total texts := by
  induction texts generalizing total with
  | nil => exact pure _
  | cons text texts ih =>
    intro link c
    refine (execute text).andThen fun link' result c' => ?_
    cases result with
    | ok n => exact ih (total + n) link' c'
    | error e => exact ⟨[], .refl link' c'⟩

theorem rollback (f : Failure) : Works fun link => Client.rollback link f := by
  intro link c
  refine (batch "ROLLBACK").andThen fun link' result c' => ?_
  cases result with
  | ok => exact ⟨[], .refl link' c'⟩
  | error e =>
    -- The connection is marked as stuck, and that is all.
    exact ⟨[], .refl c', rfl, rfl, fun _ member => by cases member⟩

theorem transaction (body : List String) (callOff : Option String) :
    Works fun link => Client.transaction link body callOff := by
  intro link c
  change After (Client.transaction link body callOff) c _
  unfold Client.transaction
  split
  · exact ⟨[], .refl link c⟩
  · refine (batch "BEGIN").andThen fun link₁ begun c₁ => ?_
    cases begun with
    | error e => exact ⟨[], .refl link₁ c₁⟩
    | ok =>
      refine (executeAll 0 body).andThen fun link₂ result c₂ => ?_
      cases result with
      | error e => exact rollback (.query e) link₂ c₂
      | ok total =>
        cases callOff with
        | some reason => exact rollback (.unexpected reason) link₂ c₂
        | none =>
          refine (batch "COMMIT").andThen fun link₃ committed c₃ => ?_
          cases committed <;> exact ⟨[], .refl link₃ c₃⟩

end Works

end Client

end SchemaPool
