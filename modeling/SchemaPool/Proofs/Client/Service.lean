import SchemaPool.Proofs.Client.Acquisition

/-! # Clients of an obliging database

A database is obliging when it lets everybody in in time and carries out every statement without
losing the connection.  A client of such a database that has a connection to spare always gets
one when it borrows, however its connections at rest have fared (`acquire_served`), and what is
sent on it is answered as the database answers at that moment (`converse_reacts`). -/

namespace SchemaPool

/-! ## Obliging databases -/

/-- The statement succeeds, and the connection is still there after it. -/
structure Reaction.Kind (r : Reaction) : Prop where
  answers : ∃ t, r.reply = .table t
  keeps : r.losesAfter = false

theorem Reaction.Kind.loses {r : Reaction} (kind : r.Kind) : r.loses = false := by
  obtain ⟨t, reply⟩ := kind.answers
  rw [Reaction.loses, kind.keeps, reply]
  rfl

/-- The statements that a rule still answers succeed. -/
def Rule.Obliging (r : Rule) : Prop := r.uses = some 0 ∨ r.reaction.Kind

theorem Rule.answer_obliging {rules : List Rule} (obliging : ∀ r ∈ rules, r.Obliging)
    (connection : Nat) (text : String) :
    (Rule.answer connection text rules).1.Kind ∧
      ∀ r ∈ (Rule.answer connection text rules).2, r.Obliging := by
  induction rules with
  | nil => exact ⟨⟨⟨_, rfl⟩, rfl⟩, nofun⟩
  | cons r rs ih =>
    obtain ⟨first, others⟩ := List.forall_mem_cons.1 obliging
    rw [Rule.answer]
    by_cases fits : r.fits connection text = true
    · rw [if_pos fits]
      -- A rule that fits has uses left.
      have kind : r.reaction.Kind := by
        cases first with
        | inl spent => simp [Rule.fits, spent] at fits
        | inr kind => exact kind
      exact ⟨kind, List.forall_mem_cons.2 ⟨.inr kind, others⟩⟩
    · rw [if_neg fits]
      obtain ⟨kind, rest⟩ := ih others
      exact ⟨kind, List.forall_mem_cons.2 ⟨first, rest⟩⟩

/-- Whoever waits for so long gets a connection, and every statement succeeds. -/
structure Server.Obliging (limit : Option Nat) (s : Server) : Prop where
  accepts : ∀ a ∈ s.script, a.reception = .accepted ∧ isLate a.nanos limit = false
  answers : ∀ r ∈ s.rules, r.Obliging

namespace Server

variable {s : Server} {limit : Option Nat}

theorem react_obliging (obliging : s.Obliging limit) (connection : Nat) (text : String) :
    (s.react connection text).1.Kind ∧ (s.react connection text).2.Obliging limit := by
  obtain ⟨kind, rest⟩ := Rule.answer_obliging obliging.answers connection text
  exact ⟨kind, ⟨obliging.accepts, rest⟩⟩

theorem connect_obliging (obliging : s.Obliging limit) :
    s.connect.1.reception = .accepted ∧ isLate s.connect.1.nanos limit = false ∧
      s.connect.2.2.Obliging limit := by
  have plain : Attempt.plain.reception = .accepted ∧ isLate Attempt.plain.nanos limit = false := by
    cases limit <;> exact ⟨rfl, rfl⟩
  have attempt : s.connect.1.reception = .accepted ∧ isLate s.connect.1.nanos limit = false := by
    cases found : s.script[s.attempts]? with
    | none => simpa [connect, found] using plain
    | some a => simpa [connect, found] using obliging.accepts a (List.mem_of_getElem? found)
  exact ⟨attempt.1, attempt.2, ⟨obliging.accepts, obliging.answers⟩⟩

/-- The database with its next answer to a statement laid down. -/
def answering (s : Server) (text : String) (reaction : Reaction) : Server :=
  { s with rules := ⟨text, none, some 1, reaction⟩ :: s.rules }

theorem react_answering (s : Server) (connection : Nat) (text : String) (reaction : Reaction) :
    (s.answering text reaction).react connection text =
      (reaction, { s with rules := ⟨text, none, some 0, reaction⟩ :: s.rules }) := by
  have same : Text.occursIn text.toList text.toList = true := by
    have whole := Text.after?_append text.toList []
    rw [List.append_nil] at whole
    rw [Text.occursIn, Text.cut?.eq_def, whole]
    rfl
  have fits : (⟨text, none, some 1, reaction⟩ : Rule).fits connection text = true := by
    simp [Rule.fits, same]
  simp [react, answering, Rule.answer, fits, Rule.used]

end Server

namespace Client

/-- The database that the client talks to is obliging. -/
def Obliged (c : Client) : Prop := c.around.server.Obliging c.borrowLimit

/-! ## Statements -/

/-- What becomes of the database and of the connection when a statement is sent. -/
theorem sendWithin_reacts (limit : Option Nat) {link : Link} (s : Statement) (c : Client)
    (here : link.lost = false) :
    After (sendWithin limit link s) c fun r c' =>
      c'.around.server = (c.around.server.react link.number s.text).2 ∧
        (r.2 ≠ none → r.1.lost = (c.around.server.react link.number s.text).1.loses) := by
  obtain ⟨number, timed, lost, stuck, recycled⟩ := link
  have known : lost = false := here
  subst known
  unfold sendWithin
  apply after_now
  refine After.bind (P := fun reaction c₁ => reaction = (c.around.server.react number s.text).1 ∧
    c₁.around.server = (c.around.server.react number s.text).2) ⟨rfl, rfl⟩ ?_
  rintro reaction c₁ ⟨rfl, server⟩
  by_cases late : isLate (c.around.server.react number s.text).1.nanos limit = true
  · simp only [late, if_true]
    exact ⟨server, fun given => absurd rfl given⟩
  · simp only [late]
    exact ⟨server, fun _ => rfl⟩

/-- On a connection that is there a statement is answered by the database, and what the database
keeps of it is the same whatever the client makes of the answer. -/
theorem batch_reacts {link : Link} (text : String) (c : Client) (here : link.lost = false) :
    After (batch link text) c fun r c' =>
      r.2 = (c.around.server.react link.number text).1.reply.result.map (fun _ => ()) ∧
        r.1.lost = (c.around.server.react link.number text).1.loses ∧
        c'.around.server = (c.around.server.react link.number text).2 ∧
        ∃ hs, c.Goes hs c' := by
  obtain ⟨worked, answer⟩ := batch_worked link text c
  obtain ⟨server, lost⟩ := sendWithin_reacts none (.plain text) c here
  rw [here] at answer
  have given := (sendWithin_worked none link (.plain text) c).2
  refine ⟨answer, ?_, server, _, worked.goes⟩
  apply lost
  rw [given, here]
  simp [isLate]

/-! ## Borrowing -/

theorem Obliged.goes {c c' : Client} {hs : List Happening} (goes : c.Goes hs c')
    (obliging : c'.around.server.Obliging c.borrowLimit) : c'.Obliged := by
  rw [Obliged, borrowLimit, goes.settings]
  exact obliging

theorem note_obliged (entries : List LogEntry) {c : Client} (obliged : c.Obliged) :
    After (note entries) c fun _ c' => c'.Obliged :=
  obliged

theorem pass_obliged (nanos : Nat) {c : Client} (obliged : c.Obliged) :
    After (pass nanos) c fun _ c' => c'.Obliged :=
  obliged

theorem record_obliged (h : Happening) {c : Client} (obliged : c.Obliged) :
    After (record h) c fun _ c' => c'.Obliged :=
  obliged

theorem sendWithin_obliged (limit : Option Nat) {link : Link} (s : Statement) {c : Client}
    (obliged : c.Obliged) (here : link.lost = false) :
    After (sendWithin limit link s) c fun r c' =>
      c'.Obliged ∧ (r.2 ≠ none → r.1.lost = false) := by
  obtain ⟨server, lost⟩ := sendWithin_reacts limit s c here
  obtain ⟨worked, -⟩ := sendWithin_worked limit link s c
  obtain ⟨kind, rest⟩ := Server.react_obliging obliged link.number s.text
  refine ⟨.goes worked.goes (server ▸ rest), fun given => ?_⟩
  rw [lost given, kind.loses]

theorem batch_obliged {link : Link} (text : String) {c : Client} (obliged : c.Obliged)
    (here : link.lost = false) :
    After (batch link text) c fun r c' => c'.Obliged ∧ r.1.lost = false := by
  obtain ⟨-, lost, server, hs, goes⟩ := batch_reacts text c here
  obtain ⟨kind, rest⟩ := Server.react_obliging obliged link.number text
  exact ⟨.goes goes (server ▸ rest), lost.trans kind.loses⟩

/-- A connection at rest that passes its check is there; one that does not is left behind. -/
theorem checkLink_obliged (link : Link) {c : Client} (obliged : c.Obliged) :
    After (checkLink link) c fun found c' =>
      c'.Obliged ∧ ∀ link' ∈ found, link'.lost = false := by
  unfold checkLink
  refine After.bind (note_obliged _ obliged) fun _ c₁ obliged => ?_
  by_cases broken : link.isBroken = true
  · simp only [broken, if_true]
    exact ⟨obliged, nofun⟩
  · have here : link.lost = false := by
      simp only [Link.isBroken, Bool.or_eq_true, not_or, Bool.not_eq_true] at broken
      exact broken.1
    simp only [broken]
    apply After.get
    refine After.bind (sendWithin_obliged _ .check obliged here) ?_
    rintro ⟨link', answer⟩ c₂ ⟨obliged, kept⟩
    cases answer with
    | none => exact ⟨obliged, nofun⟩
    | some result =>
      have lost : link'.lost = false := kept nofun
      cases result with
      | error e => exact ⟨obliged, nofun⟩
      | ok rows =>
        have found : ∀ other ∈ some { link' with recycled := link'.recycled + 1 },
            other.lost = false := by
          rintro _ ⟨⟩
          exact lost
        by_cases stuck : link'.isBroken = true
        · simp only [stuck, if_true]
          exact ⟨obliged, found⟩
        · simp only [stuck]
          exact ⟨obliged, found⟩

theorem firstUsable_obliged (links : List Link) {c : Client} (obliged : c.Obliged) :
    After (firstUsable links) c fun r c' => c'.Obliged ∧ ∀ link ∈ r.1, link.lost = false := by
  induction links generalizing c with
  | nil => exact ⟨obliged, nofun⟩
  | cons link links ih =>
    rw [firstUsable]
    refine After.bind (checkLink_obliged link obliged) ?_
    rintro found c₁ ⟨obliged, here⟩
    cases found with
    | some link' => exact ⟨obliged, here⟩
    | none =>
      exact After.bind (record_obliged _ obliged) fun _ c₂ obliged => ih obliged

theorem prepare_obliged {link : Link} {c : Client} (obliged : c.Obliged)
    (here : link.lost = false) :
    After (prepare link) c fun link' c' => c'.Obliged ∧ link'.lost = false := by
  unfold prepare
  apply After.get
  refine After.bind (note_obliged _ obliged) fun _ c₁ obliged => ?_
  refine After.bind (note_obliged _ obliged) fun _ c₂ obliged => ?_
  refine After.bind (batch_obliged _ obliged here) ?_
  rintro ⟨link', result⟩ c₃ ⟨obliged, lost⟩
  exact ⟨obliged, lost⟩

theorem openLink_obliged {c : Client} (obliged : c.Obliged) :
    After openLink c fun r c' =>
      ∃ lent, r = .ok lent ∧ lent.link.lost = false ∧ c'.Obliged := by
  obtain ⟨accepted, timely, obliging⟩ := Server.connect_obliging obliged
  unfold openLink
  apply After.get
  dsimp only [Server.connect] at accepted timely obliging ⊢
  generalize (c.around.server.script[c.around.server.attempts]?).getD .plain = attempt
    at accepted timely ⊢
  apply After.set
  simp only [timely, accepted]
  refine After.bind (pass_obliged _ obliging) fun _ c₁ obliged => ?_
  refine After.bind (note_obliged _ obliged) fun _ c₂ obliged => ?_
  refine After.bind (record_obliged _ obliged) fun _ c₃ obliged => ?_
  refine After.bind (prepare_obliged obliged rfl) ?_
  rintro link c₄ ⟨obliged, lost⟩
  exact ⟨_, rfl, lost, obliged⟩

theorem take_obliged {c : Client} (obliged : c.Obliged) :
    After take c fun r c' => ∃ lent, r = .ok lent ∧ lent.link.lost = false ∧ c'.Obliged := by
  unfold take
  apply After.get
  refine After.bind (firstUsable_obliged c.pool.idle obliged) ?_
  rintro ⟨found, left⟩ c₁ ⟨obliged, here⟩
  apply After.modify
  cases found with
  | some link => exact ⟨_, rfl, here link rfl, obliged⟩
  | none =>
    refine After.bind (openLink_obliged (c := { c₁ with pool := { c₁.pool with idle := left } })
      obliged) ?_
    rintro _ c₂ ⟨lent, rfl, lost, obliged⟩
    exact ⟨lent, rfl, lost, obliged⟩

/-- A client whose pool is open, with so many connections lent out and a database that is
obliging to it. -/
structure Served (c : Client) (lent : Nat) : Prop where
  obliged : c.Obliged
  isOpen : c.pool.closed = false
  sized : 0 < c.pool.maxSize
  lent : c.pool.lent = lent

theorem note_served (entries : List LogEntry) {c : Client} {lent : Nat} (served : c.Served lent) :
    After (note entries) c fun _ c' => c'.Served lent :=
  ⟨served.obliged, served.isOpen, served.sized, served.lent⟩

/-- Borrowing succeeds when nothing is lent out. -/
theorem acquire_served {c : Client} (served : c.Served 0) :
    After acquire c fun r c' => ∃ lent, r = .ok lent ∧ lent.link.lost = false ∧ c'.Served 1 := by
  obtain ⟨obliged, isOpen, sized, none⟩ := served
  have spare : c.pool.isExhausted = false := by
    rw [Pool.isExhausted, none]
    simpa using fun _ => Nat.pos_iff_ne_zero.1 sized
  have taken : After acquire c fun r c' =>
      ∃ lent, r = .ok lent ∧ lent.link.lost = false ∧ c'.Obliged := by
    unfold acquire
    apply After.get
    simp only [isOpen, spare]
    exact take_obliged obliged
  obtain ⟨lent, got, lost, obliged⟩ := taken
  have lending := acquire_lending c
  unfold After at lending
  rw [got] at lending
  have pool : ∃ left, (acquire c).2.pool = { c.pool with idle := left, lent := c.pool.lent + 1 } := by
    cases lending with
    | again _ _ _ goes => exact ⟨_, goes.pool⟩
    | first _ _ _ _ _ goes => exact ⟨_, goes.pool⟩
  obtain ⟨left, pool⟩ := pool
  refine ⟨lent, got, lost, obliged, ?_, ?_, ?_⟩
  · rw [pool]
    exact isOpen
  · rw [pool]
    exact sized
  · rw [pool, none]

/-! ## What is said on a borrowed connection -/

/-- A statement is sent on a borrowed connection, which is then given back. -/
def converse (lent : Lent) (text : String) : ClientM (Except QueryError Unit) := do
  let (link, result) ← batch lent.link text
  release link
  return result

theorem exchange_eq (text : String) (c : Client) :
    exchange text c =
      match acquire c with
      | (.error e, c') => (.error e, c')
      | (.ok lent, c') => (.ok (converse lent text c').1, (converse lent text c').2) := by
  simp only [exchange, bind, StateT.bind]
  rcases acquire c with ⟨e | lent, c'⟩
  · rfl
  · rfl

/-- The answer is the database's, whatever it is, and the connection is given back. -/
theorem converse_reacts {lent : Lent} (text : String) {c : Client} (here : lent.link.lost = false)
    (isOpen : c.pool.closed = false) (sized : 0 < c.pool.maxSize) (one : c.pool.lent = 1)
    (obliging : (c.around.server.react lent.link.number text).2.Obliging c.borrowLimit) :
    After (converse lent text) c fun result c' =>
      result = (c.around.server.react lent.link.number text).1.reply.result.map (fun _ => ()) ∧
        c'.Served 0 := by
  unfold converse
  refine After.bind (batch_reacts text c here) ?_
  rintro ⟨link, result⟩ c₁ ⟨answer, -, server, hs, goes⟩
  have obliged : c₁.Obliged := .goes goes (server ▸ obliging)
  refine ⟨answer, obliged, ?_, ?_, ?_⟩
  · show c₁.pool.closed = false
    rw [goes.pool, isOpen]
  · show 0 < c₁.pool.maxSize
    rw [goes.pool]
    exact sized
  · show c₁.pool.lent - 1 = 0
    rw [goes.pool, one]

end Client

end SchemaPool
