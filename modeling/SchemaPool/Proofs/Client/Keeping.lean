import Mathlib.Data.List.Perm.Subperm
import SchemaPool.Client.Steps
import SchemaPool.Proofs.Client.Acquisition

/-! # Invariants of a client

Whatever a client or its users do is made of a few things: log entries and waiting, work on a
connection in somebody's hands, borrowing, giving back and closing.  A property of a client and
of the connections in somebody's hands that each of these keeps (`Client.Stable`) is kept by
every action of a client (`Client.Keeps`) and by every step of its users
(`UserScene.step_holds`), and so holds of every scene that users can bring about
(`UserScene.Reachable.holds`). -/

namespace SchemaPool

namespace Client

theorem noteBorrowed_goes (result : Except AcquireError Lent) (c : Client) :
    After (noteBorrowed result) c fun r c' =>
      c.Goes [] c' ∧
        r = (result.mapError Failure.ofAcquire).map Lent.link := by
  unfold noteBorrowed
  cases result with
  | error e => exact After.bind (note_goes _ c) fun _ c₁ noted => ⟨noted, rfl⟩
  | ok lent =>
    dsimp only
    split
    · refine After.bind (note_goes _ c) fun _ c₁ warned => ?_
      exact After.bind (note_goes _ c₁) fun _ c₂ noted => ⟨warned.trans noted, rfl⟩
    · exact After.bind (note_goes _ c) fun _ c₁ noted => ⟨noted, rfl⟩

/-! ## Stable properties -/

/-- A property of a client and of the connections in somebody's hands that nothing makes false
which can happen to them. -/
structure Stable (I : Client → List Link → Prop) : Prop where
  quiet {c c' held} : I c held → c.Goes [] c' → I c' held
  -- Connections may be left out of account.
  fewer {c held held'} : I c held → held'.Subperm held → I c held'
  worked {c c' link link' hs held} : I c (link :: held) → Worked link c hs link' c' →
    I c' (link' :: held)
  -- A connection is put under the client's own monitor.
  instrumented {c link held} : I c (link :: held) →
    I c ({ link with timed := (link.timed.instrument c.setup.monitor).1 } :: held)
  acquired {c held} : I c held →
    After acquire c fun r c' => I c' ((r.toOption.map Lent.link).toList ++ held)
  released {c link held} : I c (link :: held) → After (release link) c fun _ c' => I c' held
  closed {c held} : I c held → After close c fun _ c' => I c' held

/-- An action with which every connection stays in the hands it was in. -/
def Keeps {α : Type} (I : Client → List Link → Prop) (x : ClientM α) : Prop :=
  ∀ c held, I c held → After x c fun _ c' => I c' held

namespace Keeps

variable {I : Client → List Link → Prop} {α β : Type}

theorem pure (a : α) : Keeps I (pure a : ClientM α) := fun _ _ known => known

theorem bind {x : ClientM α} {f : α → ClientM β} (first : Keeps I x)
    (second : ∀ a, Keeps I (f a)) : Keeps I (x >>= f) := fun c held known =>
  After.bind (first c held known) fun a c' known' => second a c' held known'

theorem get {f : Client → ClientM β} (next : ∀ c, Keeps I (f c)) : Keeps I (get >>= f) :=
  fun c held known => next c c held known

end Keeps

namespace Stable

variable {I : Client → List Link → Prop} {α : Type} {c : Client} {held : List Link}

theorem note (stable : Stable I) (entries : List LogEntry) : Keeps I (note entries) :=
  fun c _ known => stable.quiet known (note_goes entries c)

theorem pass (stable : Stable I) (nanos : Nat) : Keeps I (pass nanos) :=
  fun c _ known => stable.quiet known (pass_goes nanos c)

theorem close (stable : Stable I) : Keeps I close := fun _ _ known => stable.closed known

theorem exchange (stable : Stable I) (text : String) : Keeps I (exchange text) := by
  intro c held known
  refine After.bind (stable.acquired known) fun r c₁ acquired => ?_
  cases r with
  | error e => exact acquired
  | ok lent =>
    refine After.bind (batch_worked lent.link text c₁) ?_
    rintro ⟨link, result⟩ c₂ ⟨worked, -⟩
    exact After.bind (stable.released (stable.worked acquired worked)) fun _ c₃ released => released

/-- Every start keeps what there is, however the database answers. -/
theorem hold (stable : Stable I) (dialogue : Startup) : Keeps I (hold dialogue) := by
  induction dialogue with
  | done result => exact .pure result
  | note entries next ih => exact (stable.note entries).bind fun _ => ih
  | exchange text next ih => exact (stable.exchange text).bind fun r => ih r

theorem borrow (stable : Stable I) (known : I c held) :
    After borrow c fun r c' => I c' (r.toOption.toList ++ held) := by
  unfold Client.borrow
  refine After.bind (stable.note _ c held known) fun _ c₁ noted => ?_
  refine After.bind (stable.acquired noted) fun result c₂ acquired => ?_
  refine (noteBorrowed_goes result c₂).mono ?_
  rintro r c₃ ⟨told, rfl⟩
  cases result with
  | error e => exact stable.quiet acquired told
  | ok lent => exact stable.quiet acquired told

theorem withLink (stable : Stable I) {work : Link → ClientM (Link × Except Failure α)}
    (works : Works work) : Keeps I (withLink work) := by
  intro c held known
  unfold Client.withLink
  refine After.bind (stable.borrow known) fun r c₁ borrowed => ?_
  cases r with
  | error f => exact borrowed
  | ok link =>
    apply After.get
    refine After.bind (works _ c₁) ?_
    rintro ⟨link', result⟩ c₂ ⟨hs, worked⟩
    have done := stable.worked (stable.instrumented borrowed) worked
    exact After.bind (stable.released done) fun _ c₃ released => released

theorem executeSql (stable : Stable I) (query : Sql.Query) : Keeps I (executeSql query) :=
  stable.withLink (.executeQuery query)

theorem loadSql (stable : Stable I) (names : List String) (query : Sql.Query) :
    Keeps I (loadSql names query) :=
  stable.withLink (.loadQuery names query)

theorem check (stable : Stable I) : Keeps I check := by
  refine (stable.loadSql _ _).bind fun result => ?_
  split
  · exact .pure _
  · exact .get fun c => (stable.note _).bind fun _ => .pure _
  · exact .pure _

theorem exec (stable : Stable I) (name : Option String) (sql : String) : Keeps I (exec name sql) := by
  refine (stable.note _).bind fun _ => (stable.executeSql _).bind fun result => ?_
  cases result <;> exact .pure _

theorem dispatch (stable : Stable I) (command : Command) : Keeps I (dispatch command) := by
  cases command with
  | check => exact stable.check
  | exec name sql => exact stable.exec name sql

end Stable

end Client

/-! ## What users do -/

namespace UserScene

def held (s : UserScene) : List Link := s.slots.map Prod.snd

/-- The property of the client, whose users hold their connections and others that are on
their way to them. -/
def Holds (I : Client → List Link → Prop) (s : UserScene) (coming : List Link) : Prop :=
  I s.client (coming ++ s.held)

section

open Client (Stable Keeps)

variable {I : Client → List Link → Prop} {s : UserScene} {coming : List Link}

theorem after_act {α : Type} {x : ClientM α} {P : α → Client → Prop}
    (after : After x s.client P) :
    After (act x) s fun a s' => P a s'.client ∧ s'.slots = s.slots :=
  ⟨after, rfl⟩

theorem holds_of_slots {s' : UserScene} (known : I s'.client (coming ++ s.held))
    (slots : s'.slots = s.slots) : s'.Holds I coming := by
  rw [Holds, held, slots]
  exact known

theorem act_holds {α : Type} {x : ClientM α} (keeps : Keeps I x) (known : s.Holds I coming) :
    After (act x) s fun _ s' => s'.Holds I coming :=
  keeps s.client _ known

/-- A connection that is found in a slot is held besides those in other slots. -/
theorem subperm_of_lookup {slot : String} {link : Link} (found : s.slots.lookup slot = some link) :
    (link :: (s.slots.filter (·.1 != slot)).map Prod.snd).Subperm s.held := by
  obtain ⟨before, after, split, -⟩ := List.lookup_eq_some_iff.1 found
  have others : (s.slots.filter (·.1 != slot)).map Prod.snd =
      (before.filter (·.1 != slot)).map Prod.snd ++ (after.filter (·.1 != slot)).map Prod.snd := by
    simp [split, List.filter_append]
  have all : s.held = before.map Prod.snd ++ link :: after.map Prod.snd := by
    simp [held, split]
  rw [others, all]
  refine List.perm_middle.subperm_left.2 ((List.subperm_cons link).2 (List.Sublist.subperm ?_))
  exact (List.filter_sublist.map _).append (List.filter_sublist.map _)

theorem subperm_of_filter (s : UserScene) (p : String × Link → Bool) :
    ((s.slots.filter p).map Prod.snd).Subperm s.held :=
  (List.filter_sublist.map Prod.snd).subperm

theorem fill_holds (stable : Stable I) (slot : String) {link : Link}
    (known : s.Holds I (link :: coming)) : After (fill slot link) s fun _ s' => s'.Holds I coming := by
  refine stable.fewer known ?_
  change (coming ++ link :: (s.slots.filter (·.1 != slot)).map Prod.snd).Subperm _
  refine List.perm_middle.subperm_right.2 ((List.subperm_cons link).2 ?_)
  exact (List.subperm_append_left coming).2 (s.subperm_of_filter _)

/-- A connection leaves its slot before it is given back. -/
theorem vacate_holds (stable : Stable I) (slot : String) (known : s.Holds I coming) :
    After (vacate slot) s fun _ s' => s'.Holds I coming := by
  unfold vacate
  apply After.get
  split
  · exact known
  · rename_i link found
    apply After.set
    have taken : I s.client
        (link :: (coming ++ (s.slots.filter (·.1 != slot)).map Prod.snd)) := by
      refine stable.fewer known (List.perm_middle.subperm_right.1 ?_)
      exact (List.subperm_append_left coming).2 (subperm_of_lookup found)
    refine After.bind (after_act (stable.released taken)) ?_
    rintro - s' ⟨released, slots⟩
    change I s'.client (coming ++ s'.slots.map Prod.snd)
    rw [slots]
    exact released

/-- The work on the connection in a slot leaves it in the slot. -/
theorem on_holds {α : Type} (stable : Stable I) {slot : String} {x : Link → ClientM (Link × α)}
    {answer : α → UserAnswer} (known : s.Holds I [])
    (work : ∀ link held, I s.client (link :: held) →
      After (x link) s.client fun r c' => I c' (r.1 :: held)) :
    After (on slot x answer) s fun _ s' => s'.Holds I [] := by
  unfold on
  apply After.get
  split
  · exact known
  · rename_i link found
    have taken := stable.fewer known (subperm_of_lookup found)
    refine After.bind (after_act (work link _ taken)) ?_
    rintro ⟨link', a⟩ s₁ ⟨worked, slots⟩
    change I s₁.client (link' :: (s₁.slots.filter (·.1 != slot)).map Prod.snd)
    rw [slots]
    exact worked

theorem on_holds_of_works {α : Type} (stable : Stable I) {slot : String}
    {x : Link → ClientM (Link × α)} {answer : α → UserAnswer} (works : Client.Works x)
    (known : s.Holds I []) : After (on slot x answer) s fun _ s' => s'.Holds I [] := by
  refine on_holds stable known fun link held taken => (works link s.client).mono ?_
  rintro r c' ⟨hs, worked⟩
  exact stable.worked taken worked

theorem call_holds {α : Type} {x : ClientM α} {answer : α → UserAnswer} (keeps : Keeps I x)
    (known : s.Holds I []) : After (call x answer) s fun _ s' => s'.Holds I [] := by
  unfold call
  refine After.bind (P := fun _ s' => s' = s) rfl ?_
  rintro blocked _ rfl
  split
  · exact known
  · exact After.bind (act_holds keeps known) fun _ s' done => done

theorem store_holds (stable : Stable I) (slot : String) (waited : Option PoolStatus)
    {result : Except AcquireError Lent}
    (known : s.Holds I (result.toOption.map Lent.link).toList) :
    After (store slot waited result) s fun _ s' => s'.Holds I [] := by
  unfold store
  refine After.bind (after_act (Client.noteBorrowed_goes result s.client)) ?_
  rintro r s₁ ⟨⟨told, rfl⟩, slots⟩
  have still : s₁.Holds I (result.toOption.map Lent.link).toList :=
    holds_of_slots (stable.quiet known told) slots
  cases result with
  | error e => exact still
  | ok lent =>
    refine After.bind (vacate_holds stable slot still) fun _ s₂ vacated => ?_
    exact After.bind (fill_holds stable slot vacated) fun _ s₃ filled => filled

theorem acquire_holds (stable : Stable I) (known : s.Holds I []) :
    After (act Client.acquire) s fun result s' =>
      s'.Holds I (result.toOption.map Lent.link).toList :=
  stable.acquired known

theorem borrow_holds (stable : Stable I) (slot : String) (meanwhile : Meanwhile)
    (known : s.Holds I []) : After (borrow slot meanwhile) s fun _ s' => s'.Holds I [] := by
  unfold borrow
  refine After.bind (act_holds (stable.note _) known) fun _ s₁ noted => ?_
  apply After.get
  by_cases exhausted : s₁.client.pool.isExhausted = true
  · simp only [exhausted, Bool.not_true]
    cases meanwhile with
    | nothing => exact noted
    | release other =>
      refine After.bind (vacate_holds stable other noted) fun freed s₂ vacated => ?_
      cases freed with
      | false => exact vacated
      | true => exact After.bind (acquire_holds stable vacated) fun _ _ => store_holds stable slot _
    | close =>
      refine After.bind (act_holds stable.close noted) fun _ s₂ closed => ?_
      exact After.bind (acquire_holds stable closed) fun _ _ => store_holds stable slot _
    | pass nanos =>
      -- The caller gives up, with an error if it has waited for as long as it may.
      refine After.bind (act_holds (stable.pass nanos) noted) fun _ s₂ passed => ?_
      split
      · exact store_holds stable slot _ passed
      · exact passed
  · simp only [exhausted, Bool.not_false]
    exact After.bind (acquire_holds stable noted) fun _ _ => store_holds stable slot _

/-- Every step of the users keeps what each elementary action keeps. -/
theorem step_holds (stable : Stable I) (known : s.Holds I []) (x : UserStep) :
    After (step x) s fun _ s' => s'.Holds I [] := by
  cases x with
  | borrow slot meanwhile => exact borrow_holds stable slot meanwhile known
  | release slot =>
    refine After.bind (vacate_holds stable slot known) fun found s₁ vacated => ?_
    cases found <;> exact vacated
  | execute slot query =>
    cases slot with
    | some slot => exact on_holds_of_works stable (.executeQuery query) known
    | none => exact call_holds (stable.executeSql query) known
  | load slot query =>
    cases slot with
    | some slot => exact on_holds_of_works stable (.loadQuery valueColumn query) known
    | none => exact call_holds (stable.loadSql valueColumn query) known
  | batch slot text => exact on_holds_of_works stable (.batch text) known
  | built slot text => exact on_holds_of_works stable (.execute text) known
  | run slot query text => exact on_holds_of_works stable (Client.Works.runUnit (.batch text) _) known
  | transaction slot body callOff => exact on_holds_of_works stable (.transaction body callOff) known
  | instrument slot => exact on_holds stable known fun link held taken => stable.instrumented taken
  | inspect slot => exact on_holds_of_works stable (.pure _) known
  | command command => exact call_holds (stable.dispatch command) known
  | close => exact act_holds stable.close known
  | pass nanos => exact act_holds (stable.pass nanos) known
  | describe => exact known
  | info => exact known

end

/-- The scenes that users can bring about with a client that has been started. -/
inductive Reachable (settings : Settings) (reporter : Reporter) (server : Server) :
    UserScene → Prop where
  | start {client : Client}
      (ready : Client.connect settings reporter (.ofServer server) = .ready client) :
      Reachable settings reporter server ⟨client, []⟩
  | step {s : UserScene} (x : UserStep) (before : Reachable settings reporter server s) :
      Reachable settings reporter server (step x s).2

/-- What is true of a client at the beginning of its start is true when it is handed out. -/
theorem connect_holds {I : Client → List Link → Prop} {settings : Settings} {reporter : Reporter}
    {server : Server} {client : Client} (stable : Client.Stable I)
    (ready : Client.connect settings reporter (.ofServer server) = .ready client)
    (begun : ∀ setup, Client.setupFor settings reporter = .ok setup →
      I (Client.beginning settings setup ((Surroundings.ofServer server).announce settings)) []) :
    I client [] := by
  obtain ⟨setup, c, -, asked, held, rfl⟩ := Client.connect_ready ready
  have ended := stable.hold (.plan setup) _ [] (begun setup asked)
  unfold After at ended
  rw [held] at ended
  exact stable.quiet ended (Client.note_goes _ c)

theorem Reachable.holds {I : Client → List Link → Prop} {settings : Settings}
    {reporter : Reporter} {server : Server} {s : UserScene} (stable : Client.Stable I)
    (begun : ∀ setup, Client.setupFor settings reporter = .ok setup →
      I (Client.beginning settings setup ((Surroundings.ofServer server).announce settings)) [])
    (reachable : Reachable settings reporter server s) : s.Holds I [] := by
  induction reachable with
  | start ready => exact connect_holds stable ready begun
  | step x before ih => exact step_holds stable ih x

end UserScene

end SchemaPool
