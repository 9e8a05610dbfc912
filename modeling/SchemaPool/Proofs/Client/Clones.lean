import SchemaPool.Proofs.Client.Closing
import SchemaPool.Proofs.Client.Lockstep

/-! # Closing is final

All clones of a client share it (`SharedClient`), and closing one of them closes them all, for
good.  The connections that were lent before are as good as ever.  A run after the closing is
compared with the run of a client that is not closed and of whose pool nothing is asked
(`SharedClient.Beside.run`): the calls that are refused in between make no difference to what is
done with those connections. -/

namespace SchemaPool

open SchemaPool.Sql (Query)

namespace Client

/-! ## Clients that are used alike -/

/-- The databases behind the clients have been sent the same, it is as late for both, and the same
has been reported.  Their pools and logs may differ. -/
structure Beside (c c' : Client) : Prop where
  settings : c.settings = c'.settings
  setup : c.setup = c'.setup
  server : c.around.server = c'.around.server
  now : c.around.timeline.now = c'.around.timeline.now
  reports : c.around.timeline.reports = c'.around.timeline.reports
  statements : c.around.statements = c'.around.statements

namespace Beside

theorem refl (c : Client) : c.Beside c := ⟨rfl, rfl, rfl, rfl, rfl, rfl⟩

theorem trans {c₁ c₂ c₃ : Client} (first : c₁.Beside c₂) (second : c₂.Beside c₃) : c₁.Beside c₃ where
  settings := first.settings.trans second.settings
  setup := first.setup.trans second.setup
  server := first.server.trans second.server
  now := first.now.trans second.now
  reports := first.reports.trans second.reports
  statements := first.statements.trans second.statements

theorem pass_agree (nanos : Nat) : Agree Beside Eq (pass nanos) (pass nanos) := by
  intro c c' beside
  refine ⟨rfl, beside.settings, beside.setup, beside.server, ?_, beside.reports, beside.statements⟩
  show c.around.timeline.now + nanos = c'.around.timeline.now + nanos
  rw [beside.now]

theorem deliver_agree (report : Option Report) :
    Agree Beside Eq (deliver report) (deliver report) := by
  intro c c' beside
  refine ⟨rfl, beside.settings, beside.setup, beside.server, beside.now, ?_, beside.statements⟩
  show c.around.timeline.reports ++ _ = c'.around.timeline.reports ++ _
  rw [beside.reports]

theorem record_agree (h : Happening) : Agree Beside Eq (record h) (record h) := by
  intro c c' beside
  refine ⟨rfl, beside.settings, beside.setup, beside.server, beside.now, beside.reports, ?_⟩
  show (c.around.journal ++ [h]).filterMap _ = (c'.around.journal ++ [h]).filterMap _
  rw [List.filterMap_append, List.filterMap_append]
  exact congrArg (· ++ _) beside.statements

theorem now_agree : Agree Beside Eq Client.now Client.now := fun _ _ beside => ⟨beside.now, beside⟩

theorem runUnit_agree {α : Type} {query : Query} {work : Link → ClientM (Link × Except QueryError α)}
    (rows : α → Produced) (same : InStep Beside Eq work) :
    InStep Beside Eq (runUnit · query work rows) := by
  rintro link _ rfl
  unfold runUnit
  refine now_agree.andThen fun now => ?_
  refine same.andThen rfl ?_
  rintro link _ result rfl
  refine now_agree.andThen fun now => ?_
  exact (deliver_agree _).andThen fun _ => .pure ⟨rfl, rfl⟩

/-- Work on a connection comes to the same with either client. -/
theorem lockstep : Lockstep Beside Eq where
  now := now_agree
  pass := pass_agree
  server beside := beside.server
  withServer server beside :=
    ⟨beside.settings, beside.setup, rfl, beside.now, beside.reports, beside.statements⟩
  sent link text := record_agree _
  number same := congrArg Link.number same
  lost same := congrArg Link.lost same
  stuck same := congrArg Link.stuck same
  withLost lost same := congrArg (fun l : Link => { l with lost }) same
  withStuck stuck same := congrArg (fun l : Link => { l with stuck }) same
  told f same := by
    subst same
    exact ⟨rfl, deliver_agree _⟩
  runUnit := runUnit_agree

theorem release_agree {link link' : Link} (same : link = link') :
    Agree Beside Eq (release link) (release link') := by
  subst same
  refine (record_agree _).andThen fun _ => Agree.modify fun c c' beside => ?_
  exact ⟨beside.settings, beside.setup, beside.server, beside.now, beside.reports, beside.statements⟩

theorem of_noted (c : Client) (entries : List LogEntry) : (c.noted entries).Beside c :=
  ⟨rfl, rfl, rfl, rfl, rfl, rfl⟩

theorem of_close (c : Client) : After close c fun _ c' => c'.Beside c := by
  refine ⟨rfl, rfl, rfl, rfl, rfl, ?_⟩
  show (c.around.journal ++ [Happening.poolClosed]).filterMap Happening.sent? = _
  rw [List.filterMap_append]
  exact List.append_nil _

end Beside

end Client

/-- The step asks the pool for a connection or for its numbers, or closes it. -/
def UserStep.asksPool : UserStep → Bool
  | borrow _ _ => true
  | execute slot _ => slot.isNone
  | load slot _ => slot.isNone
  | command _ => true
  | close => true
  | describe => true
  | _ => false

namespace UserScene

variable {s s' : UserScene} {x : UserStep}

/-- The pool is to be closed, at once or while somebody waits for a connection. -/
def closes (s : UserScene) : UserStep → Bool
  | .close => true
  | .borrow _ .close => s.client.pool.isExhausted
  | _ => false

/-- From `s` to `s'` nobody has got or given back a connection or worked on one. -/
structure Undisturbed (s s' : UserScene) : Prop where
  client : s'.client.Beside s.client
  slots : s'.slots = s.slots

/-- Nothing comes of what is asked of a closed pool. -/
theorem undisturbed_of_closed (closed : s.client.pool.closed = true) (asks : x.asksPool = true) :
    After (step x) s fun _ s' => s.Undisturbed s' := by
  cases x with
  | borrow slot meanwhile =>
    change After (borrow slot meanwhile) s _
    rw [After, borrow_of_closed closed]
    exact ⟨.of_noted _ _, rfl⟩
  | execute slot query =>
    obtain rfl := Option.isNone_iff_eq_none.1 asks
    rw [After, execute_of_closed closed]
    exact ⟨.of_noted _ _, rfl⟩
  | load slot query =>
    obtain rfl := Option.isNone_iff_eq_none.1 asks
    rw [After, load_of_closed closed]
    exact ⟨.of_noted _ _, rfl⟩
  | command command =>
    obtain ⟨entries, same⟩ := Client.dispatch_of_closed closed command
    change After (call (Client.dispatch command) .printed) s _
    rw [After, call_of_closed closed, same]
    exact ⟨.of_noted _ _, rfl⟩
  | close => exact ⟨.of_close _, rfl⟩
  | describe => exact ⟨.refl _, rfl⟩
  | _ => cases asks

/-- Somebody who waits for a connection is refused when the pool is closed. -/
theorem closed_of_closes (closes : s.closes x = true) :
    After (step x) s fun _ s' => s.Undisturbed s' ∧ s'.client.pool.closed = true ∧
      s'.client.around.journal = s.client.around.journal ++ [.poolClosed] := by
  cases x with
  | close => exact ⟨⟨.of_close _, rfl⟩, rfl, rfl⟩
  | borrow slot meanwhile =>
    cases meanwhile with
    | close =>
      change After (borrow slot .close) s _
      rw [After, borrow_close_of_exhausted closes, run_bind_of_eq _ (act_eq _ _),
        acquire_store_of_closed rfl]
      have beside := (Client.Beside.of_close _).trans (.of_noted s.client [Client.borrowingEntry])
      exact ⟨⟨(Client.Beside.of_noted _ _).trans beside, rfl⟩, rfl, rfl⟩
    | _ => cases closes
  | _ => cases closes

/-- Users of clients that are used alike hold the same connections. -/
def Beside : UserScene → UserScene → Prop := Related Client.Beside Eq

theorem Beside.refl (s : UserScene) : s.Beside s :=
  ⟨.refl _, List.forall₂_same.2 fun _ _ => ⟨rfl, rfl⟩⟩

theorem Beside.after {t : UserScene} (beside : s.Beside t) (undisturbed : s.Undisturbed s') :
    s'.Beside t :=
  ⟨undisturbed.client.trans beside.client, undisturbed.slots ▸ beside.slots⟩

theorem Beside.slots_eq (beside : s.Beside s') : s.slots = s'.slots := by
  have same := beside.slots
  have pairs : SameSlot Eq = Eq := by
    funext a b
    exact propext Prod.ext_iff.symm
  rw [pairs, List.forall₂_eq_eq_eq] at same
  exact same

/-- What asks nothing of the pool comes to the same with either client. -/
theorem work_agree (free : x.asksPool = false) : Agree Beside Eq (step x) (step x) := by
  cases work : x.isLinkWork with
  | true => exact linkWork_agree Client.Beside.lockstep Client.Beside.release_agree work
  | false =>
    cases x with
    | instrument slot =>
      refine Agree.get fun s s' beside => ?_
      refine on_agree slot rfl ?_
      rintro link _ rfl
      rw [beside.client.setup]
      exact .pure ⟨rfl, rfl⟩
    | inspect slot =>
      refine on_agree slot rfl ?_
      rintro link _ rfl
      exact .pure ⟨rfl, rfl⟩
    | info =>
      refine Agree.get fun s s' beside => .pure ?_
      rw [Client.schema, Client.schema, beside.client.setup, beside.client.settings]
    | execute slot query =>
      cases slot with
      | none => cases free
      | some slot => cases work
    | load slot query =>
      cases slot with
      | none => cases free
      | some slot => cases work
    | borrow | command | close | describe => cases free
    | _ => cases work

end UserScene

/-! ## Clones -/

/-- What is done with a client and its clones, which are numbered in the order in which they are
made. -/
inductive CloneStep where
  -- A clone is made of one of them.
  | clone (of : Nat)
  -- A user of one of them takes a step.
  | use (which : Nat) (step : UserStep)

def CloneStep.asksPool : CloneStep → Bool
  | clone _ => false
  | use _ x => x.asksPool

/-- A client and its clones, who have everything in common. -/
structure SharedClient where
  scene : UserScene
  clones : Nat

namespace SharedClient

def ofClient (client : Client) : SharedClient := ⟨⟨client, []⟩, 1⟩

def client (s : SharedClient) : Client := s.scene.client

def noted (s : SharedClient) (entries : List LogEntry) : SharedClient :=
  { s with scene := s.scene.noted entries }

/-- One step, and what it is answered; there is no answer for a clone that has not been made. -/
def step (s : SharedClient) : CloneStep → SharedClient × Option UserAnswer
  | .clone i => (if i < s.clones then { s with clones := s.clones + 1 } else s, none)
  | .use i x =>
    if i < s.clones then
      let (answer, scene) := UserScene.step x s.scene
      ({ s with scene }, some answer)
    else (s, none)

def run (s : SharedClient) : List CloneStep → SharedClient × List (Option UserAnswer)
  | [] => (s, [])
  | x :: xs =>
    let (s, answer) := s.step x
    let (s, answers) := s.run xs
    (s, answer :: answers)

/-- The steps that are left when nothing is asked of the pool. -/
def work (steps : List CloneStep) : List CloneStep := steps.filter fun x => !x.asksPool

/-- What these steps are answered. -/
def replies (steps : List CloneStep) (answers : List (Option UserAnswer)) :
    List (Option UserAnswer) :=
  ((steps.zip answers).filter fun x => !x.1.asksPool).map Prod.snd

variable {s t : SharedClient} {x : CloneStep}

/-- All calls for a connection through the clone fail, and leave log entries and nothing else
behind. -/
structure Refuses (s : SharedClient) (i : Nat) : Prop where
  borrow (slot : String) (meanwhile : Meanwhile) :
    s.step (.use i (.borrow slot meanwhile)) =
      (s.noted Client.refusal, some (.notBorrowed .closed none))
  execute (query : Query) :
    s.step (.use i (.execute none query)) = (s.noted Client.refusal, some (.count (.error .closed)))
  load (query : Query) :
    s.step (.use i (.load none query)) = (s.noted Client.refusal, some (.values (.error .closed)))
  -- Whatever is to be read of the rows.
  rows (names : List String) (query : Query) :
    Client.loadSql names query s.client = (.error .closed, s.client.noted Client.refusal)

theorem step_use {i : Nat} (made : i < s.clones) (x : UserStep) :
    s.step (.use i x) =
      ({ s with scene := (UserScene.step x s.scene).2 }, some (UserScene.step x s.scene).1) :=
  if_pos made

theorem refuses_of_closed {i : Nat} (made : i < s.clones) (closed : s.client.pool.closed = true) :
    s.Refuses i where
  borrow slot meanwhile := by
    have refused : UserScene.step (.borrow slot meanwhile) s.scene = _ :=
      UserScene.borrow_of_closed closed slot meanwhile
    rw [step_use made, refused]
    rfl
  execute query := by
    rw [step_use made, UserScene.execute_of_closed closed]
    rfl
  load query := by
    rw [step_use made, UserScene.load_of_closed closed]
    rfl
  rows := Client.loadSql_of_closed closed

/-! ## Runs -/

theorem run_cons (s : SharedClient) (x : CloneStep) (steps : List CloneStep) :
    s.run (x :: steps) =
      (((s.step x).1.run steps).1, (s.step x).2 :: ((s.step x).1.run steps).2) :=
  rfl

theorem holds_step {I : Client → List Link → Prop} (stable : Client.Stable I)
    (known : s.scene.Holds I []) (x : CloneStep) : (s.step x).1.scene.Holds I [] := by
  cases x with
  | clone i =>
    rw [step]
    split <;> exact known
  | use i x =>
    rw [step]
    split
    · exact UserScene.step_holds stable known x
    · exact known

/-- What every step of a user keeps holds after any run. -/
theorem holds_run {I : Client → List Link → Prop} (stable : Client.Stable I)
    (known : s.scene.Holds I []) (steps : List CloneStep) : (s.run steps).1.scene.Holds I [] := by
  induction steps generalizing s with
  | nil => exact known
  | cons x steps ih => exact ih (holds_step stable known x)

/-- Clients with as many clones, which are used alike. -/
structure Beside (s t : SharedClient) : Prop where
  scene : s.scene.Beside t.scene
  clones : s.clones = t.clones

namespace Beside

theorem of_work (beside : s.Beside t) (work : x.asksPool = false) :
    (s.step x).1.Beside (t.step x).1 ∧ (s.step x).2 = (t.step x).2 := by
  obtain ⟨scene, n⟩ := s
  obtain ⟨scene', n'⟩ := t
  obtain ⟨scenes, rfl⟩ := beside
  cases x with
  | clone i =>
    rw [step, step]
    split <;> exact ⟨⟨scenes, rfl⟩, rfl⟩
  | use i x =>
    rw [step, step]
    split
    · obtain ⟨same, scenes⟩ := UserScene.work_agree work _ _ scenes
      exact ⟨⟨scenes, rfl⟩, congrArg some same⟩
    · exact ⟨⟨scenes, rfl⟩, rfl⟩

theorem of_refused (beside : s.Beside t) (closed : s.client.pool.closed = true)
    (asks : x.asksPool = true) : (s.step x).1.Beside t := by
  cases x with
  | clone i => cases asks
  | use i x =>
    rw [step]
    split
    · exact ⟨beside.scene.after (UserScene.undisturbed_of_closed closed asks), beside.clones⟩
    · exact beside

/-- Calls that are refused make no difference to what is done with the connections that have been
lent. -/
theorem run {before : List Happening}
    (shut : s.scene.Holds (fun c held => Client.Shut before c held.length) []) (beside : s.Beside t)
    (steps : List CloneStep) :
    (s.run steps).1.Beside (t.run (SharedClient.work steps)).1 ∧
      replies steps (s.run steps).2 = (t.run (SharedClient.work steps)).2 := by
  induction steps generalizing s t with
  | nil => exact ⟨beside, rfl⟩
  | cons x steps ih =>
    have still := holds_step (Client.Shut.stable before) shut x
    cases asks : x.asksPool with
    | true =>
      obtain ⟨after, same⟩ := ih still (beside.of_refused shut.closed asks)
      have skipped : SharedClient.work (x :: steps) = SharedClient.work steps := by
        simp [SharedClient.work, asks]
      rw [skipped]
      refine ⟨after, ?_⟩
      rw [← same, run_cons]
      simp [replies, asks]
    | false =>
      obtain ⟨kept, answer⟩ := beside.of_work asks
      obtain ⟨after, same⟩ := ih still kept
      have taken : SharedClient.work (x :: steps) = x :: SharedClient.work steps := by
        simp [SharedClient.work, asks]
      rw [taken, run_cons, run_cons, ← answer, ← same]
      exact ⟨after, by simp [replies, asks]⟩

end Beside

/-- Once the pool has been closed through any clone of a client, at any time, it stays closed and
keeps nothing at rest, and no connection is opened, prepared or lent, whatever is done later.  All
calls for a connection are refused, through every clone and for every query, and leave two log
entries and nothing else behind.  The connections that are held then can be worked on and given
back with the same answers, the same statements and the same reports as if the pool had not been
closed. -/
theorem closing_is_final {settings : Settings} {reporter : Reporter} {server : Server}
    {client : Client}
    (ready : Client.connect settings reporter (.ofServer server) = .ready client)
    (before : List CloneStep) {i : Nat} {x : UserStep}
    (made : i < ((ofClient client).run before).1.clones)
    (closes : ((ofClient client).run before).1.scene.closes x = true) (later : List CloneStep) :
    let s := ((ofClient client).run before).1
    let shut := (s.step (.use i x)).1
    let (after, answers) := shut.run later
    let (unclosed, answers') := s.run (work later)
    (after.client.pool.closed = true ∧ after.client.pool.idle = [] ∧
      Unlent s.client.around.journal after.client.around.journal) ∧
    (∀ j < after.clones, after.Refuses j) ∧
    replies later answers = answers' ∧ after.scene.slots = unclosed.scene.slots ∧
      after.client.around.timeline.reports = unclosed.client.around.timeline.reports ∧
      after.client.around.statements = unclosed.client.around.statements := by
  intro s shut
  have begun : (ofClient client).scene.Holds (fun c held => c.pool.Accounts held.length) [] :=
    UserScene.connect_holds Client.accounts_stable ready fun setup _ =>
      Client.beginning_accounts settings setup _
  have accounts := holds_run Client.accounts_stable begun before
  have taken : shut = { s with scene := (UserScene.step x s.scene).2 } :=
    congrArg Prod.fst (step_use made x)
  obtain ⟨undisturbed, closed, journal⟩ := UserScene.closed_of_closes closes
  have shutting : shut.scene.Holds
      (fun c held => Client.Shut s.client.around.journal c held.length) [] := by
    rw [taken]
    exact ⟨UserScene.step_holds Client.accounts_stable accounts x, closed, _, journal,
      by simp [Happening.isHandout]⟩
  have beside : shut.Beside s := by
    rw [taken]
    exact ⟨(UserScene.Beside.refl s.scene).after undisturbed, rfl⟩
  have final := holds_run (Client.Shut.stable _) shutting later
  obtain ⟨alike, same⟩ := beside.run shutting later
  have still : (shut.run later).1.client.pool.closed = true := final.closed
  exact ⟨⟨still, (final.accounts.empty still).1, final.since⟩,
    fun j made => refuses_of_closed made still, same, alike.scene.slots_eq,
    alike.scene.client.reports, alike.scene.client.statements⟩

/-- Statements about carts take 60 milliseconds. -/
def sluggish : Server := .ofScript [] [⟨"carts", none, none, ⟨60000000, .table ⟨[], [], 1⟩, false⟩⟩]

/-- A clone has borrowed a connection when the client is closed; it is refused another one, and its
statement on the one that it has is still reported. -/
theorem closing_is_final_of_borrower : ∃ client,
    Client.connect
        { Settings.new "postgres://localhost/app" with schema := "sales", slowQuery := ⟨50⟩ } .log
        (.ofServer sluggish) = .ready client ∧
    let s := ((ofClient client).run [.clone 0, .use 1 (.borrow "a" .nothing)]).1
    let shut := (s.step (.use 0 .close)).1
    let query : Query := ⟨none, some "DELETE FROM carts"⟩
    let later : List CloneStep :=
      [.use 1 (.execute none query), .use 1 (.execute (some "a") query), .use 1 (.release "a")]
    let after := (shut.run later).1
    after.client.pool.idle = [] ∧ after.Refuses 1 ∧
      after.client.around.timeline.reports.length = 1 := by
  let query : Query := ⟨none, some "DELETE FROM carts"⟩
  let later : List CloneStep :=
    [.use 1 (.execute none query), .use 1 (.execute (some "a") query), .use 1 (.release "a")]
  have reported : (Client.connect
      { Settings.new "postgres://localhost/app" with schema := "sales", slowQuery := ⟨50⟩ } .log
      (.ofServer sluggish)).client?.map (fun client =>
        let s := ((ofClient client).run [.clone 0, .use 1 (.borrow "a" .nothing)]).1
        let after := ((s.step (.use 0 .close)).1.run later).1
        after.client.around.timeline.reports.length) = some 1 := by
    decide +kernel
  obtain ⟨client, handed, once⟩ := Option.map_eq_some_iff.1 reported
  have ready := Opening.client?_eq_some.1 handed
  obtain ⟨⟨-, idle, -⟩, refuses, -⟩ := closing_is_final ready
    [.clone 0, .use 1 (.borrow "a" .nothing)] (i := 0) (x := .close) Nat.zero_lt_two rfl later
  exact ⟨client, ready, idle, refuses 1 Nat.one_lt_two, once⟩

end SharedClient

end SchemaPool
