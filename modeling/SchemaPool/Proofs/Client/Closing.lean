import SchemaPool.Proofs.Client.Asking
import SchemaPool.Proofs.Client.Keeping

/-! # Closed clients

A client that has been closed stays closed, has nothing at rest and hands nothing out, whatever
its users do (`Client.Shut.stable`).  Every call that needs a connection is refused, and leaves
two log entries and nothing else behind. -/

namespace SchemaPool

open SchemaPool.Sql (Query)

/-! ## What a pool accounts for -/

namespace Pool

variable {α : Type} {p : Pool α} {held : Nat}

/-- The pool has lent all that is held, and has neither things at rest nor room for any once it
is closed. -/
structure Accounts (p : Pool α) (held : Nat) : Prop where
  lent : held ≤ p.lent
  empty : p.closed = true → p.idle = [] ∧ p.maxSize = 0

namespace Accounts

theorem start (maxSize : Nat) : (Pool.empty maxSize : Pool α).Accounts 0 := ⟨Nat.le_refl 0, nofun⟩

theorem fewer {held' : Nat} (known : p.Accounts held) (le : held' ≤ held) : p.Accounts held' :=
  ⟨Nat.le_trans le known.lent, known.empty⟩

/-- Some things at rest are put away or lent. -/
theorem takes (known : p.Accounts held) {left : List α} (among : ∀ a ∈ left, a ∈ p.idle)
    (more : Nat) : ({ p with idle := left, lent := p.lent + more } : Pool α).Accounts (held + more) where
  lent := Nat.add_le_add_right known.lent more
  empty := by
    intro closed
    obtain ⟨idle, maxSize⟩ := known.empty closed
    rw [idle] at among
    exact ⟨List.eq_nil_iff_forall_not_mem.2 fun a member => (nomatch among a member), maxSize⟩

/-- What comes back to a closed pool is dropped, since there is no room for it. -/
theorem giveBack (known : p.Accounts (held + 1)) (a : α) : (p.giveBack a).Accounts held where
  lent := Nat.le_sub_one_of_lt known.lent
  empty := by
    intro closed
    obtain ⟨idle, maxSize⟩ := known.empty closed
    have full : p.maxSize < p.size := by
      rw [maxSize, size]
      exact Nat.lt_of_lt_of_le (Nat.succ_pos held) (Nat.le_trans known.lent (Nat.le_add_left _ _))
    exact ⟨(idle_giveBack_of_lt a full).trans idle, maxSize⟩

theorem close (known : p.Accounts held) : p.close.Accounts held :=
  ⟨known.lent, fun _ => ⟨rfl, rfl⟩⟩

end Accounts

theorem isExhausted_of_closed (closed : p.closed = true) : p.isExhausted = false := by
  simp [isExhausted, closed]

end Pool

/-- A connection is opened, its session is prepared, or it is given to a borrower. -/
def Happening.isHandout : Happening → Bool
  | opened _ => true
  | prepared _ _ => true
  | lent _ _ => true
  | _ => false

/-- Between the two journals no connection has been handed out. -/
def Unlent (before after : List Happening) : Prop :=
  ∃ hs, after = before ++ hs ∧ ∀ h ∈ hs, h.isHandout = false

/-- What follows an action begins with its result in the state that it ends in. -/
theorem run_bind_of_eq {σ α β : Type} {x : StateM σ α} {s s' : σ} {a : α} (f : α → StateM σ β)
    (done : x s = (a, s')) : (x >>= f) s = f a s' := by
  show f (x s).1 (x s).2 = _
  rw [done]

namespace Client

variable {c c' : Client} {held : Nat} {before : List Happening}

/-! ## Closed clients -/

/-- Every pool that is used by a client has lent what the client's users hold. -/
theorem accounts_stable : Stable fun c held => c.pool.Accounts held.length where
  quiet known goes := goes.pool ▸ known
  fewer known fewer := known.fewer fewer.length_le
  worked known work := work.goes.pool ▸ known
  instrumented known := known
  acquired {c held} known := by
    refine (acquire_lending c).mono ?_
    intro r c' lending
    cases lending with
    | refused e checked goes =>
      rw [goes.pool]
      exact known.takes checked.left 0
    | again checked atRest resembles goes =>
      rw [goes.pool]
      exact known.takes checked.left 1
    | first checked gone number used timing goes =>
      rw [goes.pool]
      exact known.takes checked.left 1
  released known := known.giveBack _
  closed known := known.close

theorem beginning_accounts (settings : Settings) (setup : SessionSetup) (around : Surroundings) :
    (beginning settings setup around).pool.Accounts 0 :=
  .start _

/-- The client is closed, and since the journal was as it was `before` nothing has been handed
out. -/
structure Shut (before : List Happening) (c : Client) (held : Nat) : Prop where
  accounts : c.pool.Accounts held
  closed : c.pool.closed = true
  since : Unlent before c.around.journal

theorem Shut.goes {hs : List Happening} (shut : Shut before c held) (goes : c.Goes hs c')
    (none : ∀ h ∈ hs, h.isHandout = false) : Shut before c' held where
  accounts := goes.pool ▸ shut.accounts
  closed := goes.pool ▸ shut.closed
  since := by
    obtain ⟨earlier, journal, unlent⟩ := shut.since
    refine ⟨earlier ++ hs, by rw [goes.journal, journal, List.append_assoc], fun h member => ?_⟩
    exact (List.mem_append.1 member).elim (unlent h) (none h)

theorem acquire_of_closed (closed : c.pool.closed = true) : acquire c = (.error .closed, c) := by
  show (if c.pool.closed then _ else _ : ClientM (Except AcquireError Lent)) c = _
  rw [if_pos closed]
  rfl

/-- A closed client stays closed and hands nothing out, whatever is done with it. -/
theorem Shut.stable (before : List Happening) : Stable fun c held => Shut before c held.length where
  quiet shut goes := shut.goes goes nofun
  fewer shut fewer := ⟨shut.accounts.fewer fewer.length_le, shut.closed, shut.since⟩
  worked shut work := shut.goes work.goes fun h member => by
    obtain ⟨text, rfl⟩ := work.sent h member
    rfl
  instrumented shut := shut
  acquired {c held} shut := by
    rw [After, acquire_of_closed shut.closed]
    exact shut
  released {c link held} shut := by
    unfold release
    refine After.bind (record_goes _ c) fun _ c₁ returned => ?_
    have used := shut.goes returned (by simp [Happening.isHandout])
    exact ⟨used.accounts.giveBack link, used.closed, used.since⟩
  closed {c held} shut := by
    unfold close
    refine After.bind (note_goes _ c) fun _ c₁ noted => ?_
    refine After.bind (record_goes _ c₁) fun _ c₂ closed => ?_
    have used := shut.goes (noted.trans closed) (by simp [Happening.isHandout])
    exact ⟨used.accounts.close, rfl, used.since⟩

/-! ## Calls that are refused -/

theorem note_eq (entries : List LogEntry) (c : Client) : note entries c = ((), c.noted entries) :=
  rfl

def closedEntry : LogEntry :=
  ⟨.error, .connection, "Failed to acquire connection from pool",
    [("error", .text AcquireError.closed.message)]⟩

/-- What is logged of a call that is refused. -/
def refusal : List LogEntry := [borrowingEntry, closedEntry]

theorem borrow_of_closed (closed : c.pool.closed = true) :
    borrow c = (.error .closed, c.noted refusal) := by
  have refused : acquire (c.noted [borrowingEntry]) = (.error .closed, c.noted [borrowingEntry]) :=
    acquire_of_closed closed
  refine (run_bind_of_eq _ (note_eq _ c)).trans ?_
  refine (run_bind_of_eq _ refused).trans ?_
  exact congrArg (Prod.mk _) (noted_noted c [borrowingEntry] _)

/-- Nothing is done, whatever the connection was wanted for. -/
theorem withLink_of_closed {α : Type} (closed : c.pool.closed = true)
    (work : Link → ClientM (Link × Except Failure α)) :
    withLink work c = (.error .closed, c.noted refusal) :=
  run_bind_of_eq _ (borrow_of_closed closed)

theorem executeSql_of_closed (closed : c.pool.closed = true) (query : Query) :
    executeSql query c = (.error .closed, c.noted refusal) :=
  withLink_of_closed closed _

theorem loadSql_of_closed (closed : c.pool.closed = true) (names : List String) (query : Query) :
    loadSql names query c = (.error .closed, c.noted refusal) :=
  withLink_of_closed closed _

theorem dispatch_of_closed (closed : c.pool.closed = true) (command : Command) :
    After (dispatch command) c fun _ c' => ∃ entries, c' = c.noted entries := by
  cases command with
  | check => exact ⟨_, congrArg Prod.snd (run_bind_of_eq _ (loadSql_of_closed closed _ _))⟩
  | exec name sql =>
    refine After.bind (P := fun _ c' => c' = c.noted _) rfl ?_
    rintro _ _ rfl
    rw [After, run_bind_of_eq _ (executeSql_of_closed (c := c.noted _) closed _)]
    exact ⟨_, noted_noted c _ _⟩

end Client

namespace UserScene

open Client (refusal)

variable {s : UserScene}

def noted (s : UserScene) (entries : List LogEntry) : UserScene :=
  { s with client := s.client.noted entries }

/-! ## Scenes with a closed client -/

theorem act_eq {α : Type} (x : ClientM α) (s : UserScene) :
    act x s = ((x s.client).1, { s with client := (x s.client).2 }) :=
  rfl

theorem acquire_store_of_closed (closed : s.client.pool.closed = true) (slot : String)
    (waited : Option PoolStatus) :
    (act Client.acquire >>= store slot waited) s =
      (.notBorrowed .closed waited, s.noted [Client.closedEntry]) := by
  have refused : act Client.acquire s = (.error .closed, s) := by
    rw [act_eq, Client.acquire_of_closed closed]
  exact run_bind_of_eq _ refused

theorem call_of_closed {α : Type} (closed : s.client.pool.closed = true) (x : ClientM α)
    (answer : α → UserAnswer) :
    call x answer s = (answer (x s.client).1, { s with client := (x s.client).2 }) := by
  have free : wouldBlock s = (false, s) := by
    show (s.client.pool.isExhausted && _, s) = _
    rw [Pool.isExhausted_of_closed closed, Bool.false_and]
  exact run_bind_of_eq _ free

theorem borrow_of_free (free : s.client.pool.isExhausted = false) (slot : String)
    (meanwhile : Meanwhile) :
    borrow slot meanwhile s =
      (act Client.acquire >>= store slot none) (s.noted [Client.borrowingEntry]) := by
  show (if !s.client.pool.isExhausted then _ else _ : UserM UserAnswer) (s.noted _) = _
  rw [free]
  rfl

theorem borrow_close_of_exhausted (full : s.client.pool.isExhausted = true) (slot : String) :
    borrow slot .close s =
      (act Client.close >>= fun _ => act Client.acquire >>= store slot (some (s.client.pool.status 1)))
        (s.noted [Client.borrowingEntry]) := by
  show (if !s.client.pool.isExhausted then _ else _ : UserM UserAnswer) (s.noted _) = _
  rw [full]
  rfl

theorem borrow_of_closed (closed : s.client.pool.closed = true) (slot : String)
    (meanwhile : Meanwhile) :
    borrow slot meanwhile s = (.notBorrowed .closed none, s.noted refusal) := by
  rw [borrow_of_free (Pool.isExhausted_of_closed closed)]
  refine (acquire_store_of_closed (s := s.noted _) closed slot none).trans ?_
  exact congrArg (fun client => (_, { s with client })) (Client.noted_noted s.client _ _)

theorem execute_of_closed (closed : s.client.pool.closed = true) (query : Query) :
    step (.execute none query) s = (.count (.error .closed), s.noted refusal) := by
  refine (call_of_closed closed _ _).trans ?_
  rw [Client.executeSql_of_closed closed]
  rfl

theorem load_of_closed (closed : s.client.pool.closed = true) (query : Query) :
    step (.load none query) s = (.values (.error .closed), s.noted refusal) := by
  refine (call_of_closed closed _ _).trans ?_
  rw [Client.loadSql_of_closed closed]
  rfl

end UserScene

end SchemaPool
