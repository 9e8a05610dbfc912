import SchemaPool.Proofs.Client.Action

/-! # What borrowing a connection comes to

Connections at rest are checked one after another until one passes.  If none does, a new
connection is attempted, and its session is prepared when there is one.  Three things can come
of that (`Lending`): nothing is lent, a connection is lent again, or a new one is lent for the
first time.  How its session's statement was answered makes no difference to the last. -/

namespace SchemaPool.Client

/-! ## Checking connections at rest -/

/-- The happenings are checks and dismissals of some of the connections, and those behind them
are left. -/
structure Checked (links : List Link) (hs : List Happening) (left : List Link) : Prop where
  happenings : ∀ h ∈ hs, ∃ link ∈ links,
    h = .sent link.number Statement.check.text ∨ h = .discarded link.number
  left : ∀ link ∈ left, link ∈ links

/-- The same connection, timed in the same way. -/
structure Resembles (link old : Link) : Prop where
  number : link.number = old.number
  timing : link.timed.timing = old.timed.timing

theorem checkLink_spec (link : Link) (c : Client) :
    After (checkLink link) c fun r c' =>
      ∃ hs, c.Goes hs c' ∧ (∀ h ∈ hs, h = .sent link.number Statement.check.text) ∧
        ∀ link' ∈ r, Resembles link' link := by
  unfold checkLink
  refine After.bind (note_goes _ c) fun _ c₁ noted => ?_
  by_cases broken : link.isBroken = true
  · simp only [broken, if_true]
    refine After.bind (note_goes _ c₁) fun _ c₂ remarked => ?_
    exact ⟨[], noted.trans remarked, nofun, nofun⟩
  · simp only [broken]
    apply After.get
    refine After.bind (sendWithin_worked _ link .check c₁) ?_
    rintro ⟨link', answer⟩ c₂ ⟨worked, -⟩
    have known := noted.trans worked.goes
    cases answer with
    | none => exact ⟨_, known, fun h => issued_sent, nofun⟩
    | some result =>
      cases result with
      | error e => exact ⟨_, known, fun h => issued_sent, nofun⟩
      | ok rows =>
        -- It is lent all the same if it has just been lost.
        have resembles : Resembles { link' with recycled := link'.recycled + 1 } link :=
          ⟨worked.number, worked.timing⟩
        by_cases lost : link'.isBroken = true
        · simp only [lost, if_true]
          refine After.bind (note_goes _ c₂) fun _ c₃ remarked => ?_
          refine ⟨_, known.trans remarked, ?_, ?_⟩
          · simpa using fun h => issued_sent
          · rintro _ ⟨⟩
            exact resembles
        · simp only [lost]
          refine ⟨_, known, fun h => issued_sent, ?_⟩
          rintro _ ⟨⟩
          exact resembles

theorem firstUsable_spec (links : List Link) (c : Client) :
    After (firstUsable links) c fun r c' =>
      ∃ hs, c.Goes hs c' ∧ Checked links hs r.2 ∧
        ∀ link ∈ r.1, ∃ old ∈ links, Resembles link old := by
  induction links generalizing c with
  | nil => exact ⟨[], .refl c, ⟨nofun, fun _ member => member⟩, nofun⟩
  | cons link links ih =>
    rw [firstUsable]
    refine After.bind (checkLink_spec link c) ?_
    rintro found c₁ ⟨hs, checked, sent, resembles⟩
    cases found with
    | some link' =>
      refine ⟨hs, checked, ⟨?_, fun _ member => List.mem_cons_of_mem _ member⟩, ?_⟩
      · exact fun h member => ⟨link, List.mem_cons_self, .inl (sent h member)⟩
      · exact fun found same => ⟨link, List.mem_cons_self, resembles found same⟩
    | none =>
      -- The check and the dismissal come before whatever happens to the connections behind.
      refine After.bind (record_goes _ c₁) fun _ c₂ dismissed => ?_
      refine (ih c₂).mono ?_
      rintro r c' ⟨hs', gone, more, among⟩
      refine ⟨_, (checked.trans dismissed).trans gone, ⟨?_, ?_⟩, ?_⟩
      · intro h member
        simp only [List.mem_append, List.mem_singleton] at member
        rcases member with (member | rfl) | member
        · exact ⟨link, List.mem_cons_self, .inl (sent h member)⟩
        · exact ⟨link, List.mem_cons_self, .inr rfl⟩
        · obtain ⟨old, among, either⟩ := more.happenings h member
          exact ⟨old, List.mem_cons_of_mem _ among, either⟩
      · exact fun link member => List.mem_cons_of_mem _ (more.left link member)
      · intro link found
        obtain ⟨old, member, resembles⟩ := among link found
        exact ⟨old, List.mem_cons_of_mem _ member, resembles⟩

/-! ## A new connection -/

/-- The session is prepared whether its statement is accepted or not; only the count of
refusals differs. -/
theorem prepare_new (number : Nat) (c : Client) :
    After (prepare (.new number)) c fun link c' =>
      ∃ result, link.number = number ∧ link.timed.timing = c.setup.timing ∧
        ({ c with setup := (c.setup.conclude result).1 } : Client).Goes
          [.sent number c.setup.statement, .prepared number result.isOk] c' := by
  unfold prepare
  apply After.get
  refine After.bind (note_goes _ c) fun _ c₁ announced => ?_
  have timing : (c.setup.instrument (Link.new number).timed).1.timing = c.setup.timing :=
    c.setup.timing_instrument_new
  revert timing
  rcases c.setup.instrument (Link.new number).timed with ⟨timed, entries⟩
  intro timing
  refine After.bind (note_goes _ c₁) fun _ c₂ noted => ?_
  refine After.bind (batch_worked _ _ c₂) ?_
  rintro ⟨link, result⟩ c₃ ⟨worked, -⟩
  have same : link.number = number := worked.number
  refine After.bind (record_goes _ c₃) fun _ c₄ recorded => ?_
  rw [same] at recorded
  -- The count of refusals is put up after the statement and before the last log entry.
  have known := (((announced.trans noted).trans worked.goes).trans recorded).withSetup
    (c.setup.conclude result).1
  refine After.modify ?_
  refine After.bind (note_goes _ _) fun _ c₅ concluded => ?_
  exact ⟨result, same, worked.timing.trans timing, known.trans concluded⟩

/-- A connection that is attempted is either not opened, or opened, prepared and ready to be
lent. -/
theorem openLink_spec (c : Client) :
    After openLink c fun r c' =>
      match r with
      | .error _ => c.Goes [] c'
      | .ok lent => ∃ result, lent.link.number = c.around.server.attempts ∧
          lent.link.timed.timing = c.setup.timing ∧
          c.around.server.attempts < c'.around.server.attempts ∧
          ({ c with setup := (c.setup.conclude result).1 } : Client).Goes
            [.opened lent.link.number, .sent lent.link.number c.setup.statement,
              .prepared lent.link.number result.isOk] c' := by
  unfold openLink
  apply After.get
  dsimp only [Server.connect]
  generalize (c.around.server.script[c.around.server.attempts]?).getD .plain = attempt
  apply After.set
  -- The number of the attempt is used up whatever becomes of it.
  generalize began : ({ c with around := { c.around with server := { c.around.server with
    attempts := c.around.server.attempts + 1 } } } : Client) = c₁
  have attempted : c.Goes [] c₁ := by
    subst began
    exact ⟨rfl, rfl, rfl, Nat.le_succ _, (List.append_nil _).symm⟩
  have used : c.around.server.attempts < c₁.around.server.attempts := by
    subst began
    exact Nat.lt_succ_self _
  split
  · refine After.bind (pass_goes _ c₁) fun _ c₂ passed => ?_
    exact attempted.trans passed
  · refine After.bind (pass_goes _ c₁) fun _ c₂ passed => ?_
    split
    · refine After.bind (note_goes _ c₂) fun _ c₃ noted => ?_
      exact (attempted.trans passed).trans noted
    · refine After.bind (note_goes _ c₂) fun _ c₃ noted => ?_
      refine After.bind (record_goes _ c₃) fun _ c₄ opened => ?_
      refine After.bind (prepare_new _ c₄) ?_
      rintro link c₅ ⟨result, number, timing, prepared⟩
      have known := ((attempted.trans passed).trans noted).trans opened
      rw [known.setup] at timing prepared
      have before := (known.withSetup (c.setup.conclude result).1).trans prepared
      have later := Nat.le_trans ((passed.trans noted).trans opened).attempts prepared.attempts
      exact ⟨result, number, timing, Nat.lt_of_lt_of_le used later, number ▸ before⟩

/-! ## Borrowing -/

/-- What happens to a connection up to its first borrower. -/
def creation (setup : SessionSetup) (number : Nat) (accepted : Bool) : List Happening :=
  [.opened number, .sent number setup.statement, .prepared number accepted,
    .lent number setup.timing]

/-- What borrowing comes to, once the connections at rest have been checked. -/
inductive Lending (c : Client) : Except AcquireError Lent → Client → Prop where
  | refused {hs left c'} (e : AcquireError) (checked : Checked c.pool.idle hs left)
      (goes : ({ c with pool := { c.pool with idle := left } } : Client).Goes hs c') :
      Lending c (.error e) c'
  | again {hs left old lent c'} (checked : Checked c.pool.idle hs left)
      (atRest : old ∈ c.pool.idle) (resembles : Resembles lent.link old)
      (goes : ({ c with pool := { c.pool with idle := left, lent := c.pool.lent + 1 } } : Client).Goes
        (hs ++ [.lent lent.link.number lent.link.timed.timing]) c') :
      Lending c (.ok lent) c'
  | first {hs left c₁ result lent c'} (checked : Checked c.pool.idle hs left) (gone : c.Goes hs c₁)
      (number : lent.link.number = c₁.around.server.attempts)
      (used : lent.link.number < c'.around.server.attempts)
      (timing : lent.link.timed.timing = c.setup.timing)
      (goes : ({ c₁ with
        setup := (c.setup.conclude result).1
        pool := { c.pool with idle := left, lent := c.pool.lent + 1 } } : Client).Goes
          (creation c.setup lent.link.number result.isOk) c') :
      Lending c (.ok lent) c'

theorem take_lending (c : Client) : After take c fun r c' => Lending c r c' := by
  unfold take
  apply After.get
  refine After.bind (firstUsable_spec c.pool.idle c) ?_
  rintro ⟨found, left⟩ c₁ ⟨hs, gone, checked, among⟩
  apply After.modify
  have kept := gone.mapPool fun pool => { pool with idle := left }
  cases found with
  | some link =>
    obtain ⟨old, atRest, resembles⟩ := among link rfl
    apply After.pure
    refine After.bind (record_goes _ _) fun _ c₂ recorded => ?_
    apply After.modify
    have lent := (kept.trans recorded).mapPool fun pool => { pool with lent := pool.lent + 1 }
    exact .again checked atRest resembles lent
  | none =>
    refine After.bind (openLink_spec _) fun result c₂ opened => ?_
    cases result with
    | error e => exact .refused e checked (hs.append_nil ▸ kept.trans opened)
    | ok lent =>
      obtain ⟨result, number, timing, used, created⟩ := opened
      refine After.bind (record_goes _ _) fun _ c₃ recorded => ?_
      apply After.modify
      have same : c₁.setup = c.setup := gone.setup
      have pool : c₁.pool = c.pool := gone.pool
      simp only [same] at timing created
      have handed := (created.trans recorded).mapPool fun pool => { pool with lent := pool.lent + 1 }
      rw [timing, pool] at handed
      exact .first checked gone number (number ▸ Nat.lt_of_lt_of_le used recorded.attempts) timing handed

theorem acquire_lending (c : Client) : After acquire c fun r c' => Lending c r c' := by
  have untouched : Checked c.pool.idle [] c.pool.idle := ⟨nofun, fun _ member => member⟩
  unfold acquire
  apply After.get
  split
  · exact .refused .closed untouched (.refl c)
  · split
    · -- Waiting in vain takes time and nothing else.
      refine After.bind (pass_goes _ c) fun _ c₁ passed => ?_
      exact .refused (.timeout .wait) untouched passed
    · exact take_lending c

/-- Borrowing sends checks and the statements of new sessions; borrowing that fails has not even
opened a connection. -/
theorem Lending.happenings {c c' : Client} {r : Except AcquireError Lent}
    (lending : Lending c r c') : ∃ hs, c'.around.journal = c.around.journal ++ hs ∧
      c'.setup.statement = c.setup.statement ∧
      (∀ n text, .sent n text ∈ hs → text = Statement.check.text ∨ text = c.setup.statement) ∧
      ∀ e, r = .error e → ∀ h ∈ hs, ∃ n, h = .sent n Statement.check.text ∨ h = .discarded n := by
  have checks : ∀ {hs left}, Checked c.pool.idle hs left → ∀ h ∈ hs,
      ∃ n, h = .sent n Statement.check.text ∨ h = .discarded n := fun checked h member => by
    obtain ⟨link, -, either⟩ := checked.happenings h member
    exact ⟨link.number, either⟩
  have sent : ∀ {hs left}, Checked c.pool.idle hs left → ∀ n text, .sent n text ∈ hs →
      text = Statement.check.text := fun checked n text member => by
    obtain ⟨_, same | same⟩ := checks checked _ member
    · exact (Happening.sent.inj same).2
    · cases same
  cases lending with
  | @refused hs _ _ e checked goes =>
    refine ⟨hs, goes.journal, congrArg _ goes.setup, ?_, fun _ _ => checks checked⟩
    exact fun n text member => .inl (sent checked n text member)
  | @again hs _ _ lent _ checked _ _ goes =>
    refine ⟨_, goes.journal, congrArg _ goes.setup, fun n text member => ?_, nofun⟩
    cases List.mem_append.1 member with
    | inl member => exact .inl (sent checked n text member)
    | inr member => cases List.mem_singleton.1 member
  | @first hs _ c₁ result lent _ checked gone _ _ _ goes =>
    refine ⟨hs ++ creation c.setup lent.link.number result.isOk, ?_, ?_, fun n text member => ?_,
      nofun⟩
    · rw [goes.journal, ← List.append_assoc, ← gone.journal]
    · rw [goes.setup, SessionSetup.statement_conclude]
    · rcases List.mem_append.1 member with member | member
      · exact .inl (sent checked n text member)
      · simp only [creation, List.mem_cons, reduceCtorEq, Happening.sent.injEq, List.not_mem_nil,
          false_or, or_false] at member
        exact .inr member.2

end SchemaPool.Client
