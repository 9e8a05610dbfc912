import Mathlib.Data.List.Forall2
import SchemaPool.Client.Steps

/-! # Two runs in step

An action is done by two clients that differ in something or other, and is compared by what it
comes to in either run (`Agree`).  Work on a connection is made of few things: it asks for the
time, waits, has a statement answered, and tells the driver of it.  Where two clients and two
connections stay related by each of these (`Client.Lockstep`), they stay related by work of any
length, which has the same result in either run.  So do scenes with such connections in their
slots (`UserScene.Related`). -/

namespace SchemaPool

open SchemaPool.Sql (Query)

/-! ## Two runs of an action -/

/-- From related states two actions come to related results, and to related states again. -/
def Agree {σ α β : Type} (S : σ → σ → Prop) (R : α → β → Prop) (x : StateM σ α)
    (y : StateM σ β) : Prop :=
  ∀ s s', S s s' → R (x s).1 (y s').1 ∧ S (x s).2 (y s').2

namespace Agree

variable {σ α β α' β' : Type} {S : σ → σ → Prop} {R : α → β → Prop} {Q : α' → β' → Prop}

theorem pure {a : α} {b : β} (related : R a b) : Agree S R (Pure.pure a) (Pure.pure b) :=
  fun _ _ alike => ⟨related, alike⟩

theorem bind {x : StateM σ α} {y : StateM σ β} {f : α → StateM σ α'} {g : β → StateM σ β'}
    (first : Agree S R x y) (second : ∀ a b, R a b → Agree S Q (f a) (g b)) :
    Agree S Q (x >>= f) (y >>= g) := by
  intro s s' alike
  obtain ⟨related, alike⟩ := first s s' alike
  exact second _ _ related _ _ alike

theorem mono {R' : α → β → Prop} {x : StateM σ α} {y : StateM σ β} (agree : Agree S R x y)
    (weaker : ∀ a b, R a b → R' a b) : Agree S R' x y := by
  intro s s' alike
  obtain ⟨related, alike⟩ := agree s s' alike
  exact ⟨weaker _ _ related, alike⟩

theorem get {f : σ → StateM σ α} {g : σ → StateM σ β}
    (next : ∀ s s', S s s' → Agree S R (f s) (g s')) : Agree S R (get >>= f) (get >>= g) :=
  fun s s' alike => next s s' alike s s' alike

theorem set {s s' : σ} {f : PUnit → StateM σ α} {g : PUnit → StateM σ β} (alike : S s s')
    (next : Agree S R (f ⟨⟩) (g ⟨⟩)) : Agree S R (set s >>= f) (set s' >>= g) :=
  fun _ _ _ => next s s' alike

theorem modify {f g : σ → σ} (keeps : ∀ s s', S s s' → S (f s) (g s')) :
    Agree S Eq (modify f) (modify g) :=
  fun s s' alike => ⟨rfl, keeps s s' alike⟩

/-- Two actions that have the same results in a row with others. -/
theorem andThen {x : StateM σ α} {y : StateM σ α} {f : α → StateM σ α'} {g : α → StateM σ β'}
    (first : Agree S Eq x y) (second : ∀ a, Agree S Q (f a) (g a)) :
    Agree S Q (x >>= f) (y >>= g) :=
  first.bind fun a _ same => same ▸ second a

end Agree

namespace Client

/-- Related connections, and the same result of the work on them. -/
def Both {α : Type} (L : Link → Link → Prop) (r r' : Link × α) : Prop := L r.1 r'.1 ∧ r.2 = r'.2

/-- Work on a connection that comes to the same on related connections of related clients. -/
def InStep {α : Type} (S : Client → Client → Prop) (L : Link → Link → Prop)
    (work : Link → ClientM (Link × α)) : Prop :=
  ∀ link link', L link link' → Agree S (Both L) (work link) (work link')

/-- Clients and connections that stay related whatever is done with them in the course of some
work. -/
structure Lockstep (S : Client → Client → Prop) (L : Link → Link → Prop) : Prop where
  now : Agree S Eq now now
  pass (nanos : Nat) : Agree S Eq (pass nanos) (pass nanos)
  server {c c'} : S c c' → c.around.server = c'.around.server
  withServer {c c'} (server : Server) : S c c' →
    S { c with around := { c.around with server } } { c' with around := { c'.around with server } }
  sent (link : Nat) (text : String) :
    Agree S Eq (record (.sent link text)) (record (.sent link text))
  number {l l'} : L l l' → l.number = l'.number
  lost {l l'} : L l l' → l.lost = l'.lost
  stuck {l l'} : L l l' → l.stuck = l'.stuck
  withLost {l l'} (lost : Bool) : L l l' → L { l with lost } { l' with lost }
  withStuck {l l'} (stuck : Bool) : L l l' → L { l with stuck } { l' with stuck }
  -- The driver is told of something, and may report something.
  told {l l'} (f : TimedConnection → TimedConnection × Option Report) : L l l' →
    L { l with timed := (f l.timed).1 } { l' with timed := (f l'.timed).1 } ∧
      Agree S Eq (deliver (f l.timed).2) (deliver (f l'.timed).2)
  runUnit {α : Type} {query : Query} {work : Link → ClientM (Link × Except QueryError α)}
    (rows : α → Produced) : InStep S L work → InStep S L (runUnit · query work rows)

namespace InStep

variable {S : Client → Client → Prop} {L : Link → Link → Prop} {α β : Type} {link link' : Link}

theorem pure (f : Link → α) (same : ∀ link link', L link link' → f link = f link') :
    InStep S L fun link => return (link, f link) :=
  fun link link' related => .pure ⟨related, same link link' related⟩

theorem andThen {work : Link → ClientM (Link × α)} {next next' : Link × α → ClientM β}
    {R : β → β → Prop} (first : InStep S L work) (related : L link link')
    (second : ∀ link link' a, L link link' → Agree S R (next (link, a)) (next' (link', a))) :
    Agree S R (work link >>= next) (work link' >>= next') := by
  refine (first link link' related).bind ?_
  rintro ⟨after, a⟩ ⟨after', _⟩ ⟨related, rfl⟩
  exact second after after' a related

theorem map {work : Link → ClientM (Link × α)} (inStep : InStep S L work) (f : α → β) :
    InStep S L fun link => work link >>= fun (link, a) => return (link, f a) :=
  fun _ _ related => inStep.andThen related fun _ _ _ related => .pure ⟨related, rfl⟩

end InStep

namespace Lockstep

variable {S : Client → Client → Prop} {L : Link → Link → Prop} {α : Type}

theorem react (lockstep : Lockstep S L) {link link' : Link} (related : L link link')
    (text : String) : Agree S Eq (react link text) (react link' text) := by
  unfold Client.react
  refine Agree.get fun c c' clients => ?_
  dsimp only
  rw [← lockstep.server clients, ← lockstep.number related]
  exact Agree.set (lockstep.withServer _ clients)
    ((lockstep.sent _ text).andThen fun _ => .pure rfl)

theorem finish (lockstep : Lockstep S L) {link link' : Link} (related : L link link')
    (shown : String) (result : Except QueryError α) :
    Agree S L (finish link shown result) (finish link' shown result) := by
  unfold Client.finish
  refine lockstep.now.andThen fun now => ?_
  obtain ⟨after, delivered⟩ :=
    lockstep.told (·.finishStatement now shown (errorText result)) related
  exact delivered.andThen fun _ => .pure after

theorem sendWithin (lockstep : Lockstep S L) (limit : Option Nat) (s : Statement) :
    InStep S L (sendWithin limit · s) := by
  intro link link' related
  unfold Client.sendWithin
  refine lockstep.now.andThen fun now => ?_
  have started := (lockstep.told (fun t => (t.startStatement now s.shown, none)) related).1
  have same := lockstep.lost related
  dsimp only
  by_cases lost : link.lost = true
  · rw [if_pos lost, if_pos (same ▸ lost)]
    exact (lockstep.finish started _ _).bind fun _ _ related => .pure ⟨related, rfl⟩
  · rw [if_neg lost, if_neg (same ▸ lost)]
    refine (lockstep.react started s.text).andThen fun reaction => ?_
    split
    · exact (lockstep.pass _).andThen fun _ => .pure ⟨started, rfl⟩
    · refine (lockstep.pass _).andThen fun _ => ?_
      have known := lockstep.withLost reaction.loses started
      exact (lockstep.finish known _ _).bind fun _ _ related => .pure ⟨related, rfl⟩

theorem send (lockstep : Lockstep S L) (s : Statement) : InStep S L (send · s) :=
  (lockstep.sendWithin none s).map fun result => result.getD (.error .connectionLost)

theorem batch (lockstep : Lockstep S L) (text : String) : InStep S L (batch · text) :=
  (lockstep.send _).map _

theorem execute (lockstep : Lockstep S L) (text : String) : InStep S L (execute · text) :=
  (lockstep.send _).map _

theorem load (lockstep : Lockstep S L) (names : List String) (text : String) :
    InStep S L (load names · text) :=
  (lockstep.send _).map fun result => result.bind (readColumns names)

theorem runQuery (lockstep : Lockstep S L) {query : Query}
    {work : Link → String → ClientM (Link × Except QueryError α)}
    (inStep : ∀ text, InStep S L (work · text)) (rows : α → Produced) :
    InStep S L (runQuery · query work rows) := by
  intro link link' related
  unfold Client.runQuery
  cases query.sql with
  | error f => exact .pure ⟨related, rfl⟩
  | ok text =>
    exact ((lockstep.runUnit rows (inStep text)).map (Except.mapError Failure.query)) link link'
      related

theorem executeQuery (lockstep : Lockstep S L) (query : Query) :
    InStep S L (executeQuery · query) :=
  lockstep.runQuery lockstep.execute .count

theorem loadQuery (lockstep : Lockstep S L) (names : List String) (query : Query) :
    InStep S L (loadQuery names · query) :=
  lockstep.runQuery (lockstep.load names) fun rows => .rows rows.length

theorem executeAll (lockstep : Lockstep S L) (total : Nat) (texts : List String) :
    InStep S L (executeAll · total texts) := by
  induction texts generalizing total with
  | nil => exact .pure _ fun _ _ _ => rfl
  | cons text texts ih =>
    intro link link' related
    refine (lockstep.execute text).andThen related fun after after' result related => ?_
    cases result with
    | ok n => exact ih (total + n) after after' related
    | error e => exact .pure ⟨related, rfl⟩

theorem rollback (lockstep : Lockstep S L) (f : Failure) : InStep S L (rollback · f) := by
  intro link link' related
  refine (lockstep.batch "ROLLBACK").andThen related fun link link' result related => ?_
  cases result with
  | ok => exact .pure ⟨related, rfl⟩
  | error e => exact .pure ⟨lockstep.withStuck true related, rfl⟩

theorem transaction (lockstep : Lockstep S L) (body : List String) (callOff : Option String) :
    InStep S L (transaction · body callOff) := by
  intro link link' related
  unfold Client.transaction
  dsimp only
  rw [← lockstep.stuck related]
  split
  · exact .pure ⟨related, rfl⟩
  · refine (lockstep.batch "BEGIN").andThen related fun link link' begun related => ?_
    cases begun with
    | error e => exact .pure ⟨related, rfl⟩
    | ok =>
      refine (lockstep.executeAll 0 body).andThen related fun link link' result related => ?_
      cases result with
      | error e => exact lockstep.rollback (.query e) link link' related
      | ok total =>
        cases callOff with
        | some reason => exact lockstep.rollback (.unexpected reason) link link' related
        | none =>
          refine (lockstep.batch "COMMIT").andThen related fun link link' committed related => ?_
          cases committed with
          | ok => exact .pure ⟨related, rfl⟩
          | error e => exact .pure ⟨related, rfl⟩

end Lockstep

end Client

/-! ## Two scenes -/

/-- The step is work on the connection in a slot, or gives it back, or takes time. -/
def UserStep.isLinkWork : UserStep → Bool
  | release _ => true
  | execute slot _ => slot.isSome
  | load slot _ => slot.isSome
  | batch _ _ => true
  | built _ _ => true
  | run _ _ _ => true
  | transaction _ _ _ => true
  | pass _ => true
  | _ => false

namespace UserScene

def SameSlot (L : Link → Link → Prop) (a b : String × Link) : Prop := a.1 = b.1 ∧ L a.2 b.2

/-- Users of related clients hold related connections, in slots of the same names. -/
structure Related (S : Client → Client → Prop) (L : Link → Link → Prop) (s s' : UserScene) :
    Prop where
  client : S s.client s'.client
  slots : List.Forall₂ (SameSlot L) s.slots s'.slots

variable {S : Client → Client → Prop} {L : Link → Link → Prop} {α β : Type}

theorem act_agree {R : α → β → Prop} {x : ClientM α} {y : ClientM β} (agree : Agree S R x y) :
    Agree (Related S L) R (act x) (act y) := by
  intro s s' scenes
  obtain ⟨related, client⟩ := agree _ _ scenes.client
  exact ⟨related, client, scenes.slots⟩

theorem lookup_related (slot : String) {slots slots' : List (String × Link)}
    (related : List.Forall₂ (SameSlot L) slots slots') :
    Option.Rel L (slots.lookup slot) (slots'.lookup slot) := by
  induction related with
  | nil => exact .none
  | @cons a b slots slots' first rest ih =>
    obtain ⟨name, link⟩ := a
    obtain ⟨name', link'⟩ := b
    obtain ⟨rfl, related⟩ := first
    rw [List.lookup_cons, List.lookup_cons]
    cases slot == name with
    | true => exact .some related
    | false => exact ih

theorem filter_related (slot : String) {slots slots' : List (String × Link)}
    (related : List.Forall₂ (SameSlot L) slots slots') :
    List.Forall₂ (SameSlot L) (slots.filter (·.1 != slot)) (slots'.filter (·.1 != slot)) := by
  refine List.rel_filter ?_ related
  intro a b same
  show (a.1 != slot) = true ↔ (b.1 != slot) = true
  rw [same.1]

theorem fill_agree (slot : String) {link link' : Link} (related : L link link') :
    Agree (Related S L) Eq (fill slot link) (fill slot link') :=
  Agree.modify fun _ _ scenes =>
    ⟨scenes.client, .cons ⟨rfl, related⟩ (filter_related slot scenes.slots)⟩

theorem vacate_agree
    (released : ∀ {link link'}, L link link' →
      Agree S Eq (Client.release link) (Client.release link'))
    (slot : String) : Agree (Related S L) Eq (vacate slot) (vacate slot) := by
  unfold vacate
  refine Agree.get fun s s' scenes => ?_
  have found := lookup_related slot scenes.slots
  revert found
  generalize s.slots.lookup slot = there
  generalize s'.slots.lookup slot = there'
  intro found
  cases found with
  | none => exact .pure rfl
  | some related =>
    refine Agree.set ?_ ((act_agree (released related)).andThen fun _ => .pure rfl)
    exact ⟨scenes.client, filter_related slot scenes.slots⟩

/-- What is done on the connection in a slot. -/
theorem on_agree (slot : String) {x y : Link → ClientM (Link × α)} {answer : α → UserAnswer}
    {R : UserAnswer → UserAnswer → Prop} (none : R .noSlot .noSlot)
    (agree : ∀ link link', L link link' →
      Agree S (fun r r' => L r.1 r'.1 ∧ R (answer r.2) (answer r'.2)) (x link) (y link')) :
    Agree (Related S L) R (on slot x answer) (on slot y answer) := by
  unfold on
  refine Agree.get fun s s' scenes => ?_
  have found := lookup_related slot scenes.slots
  revert found
  generalize s.slots.lookup slot = there
  generalize s'.slots.lookup slot = there'
  intro found
  cases found with
  | none => exact .pure none
  | some related =>
    refine (act_agree (agree _ _ related)).bind ?_
    rintro ⟨link, a⟩ ⟨link', a'⟩ ⟨related, same⟩
    exact (fill_agree slot related).andThen fun _ => .pure same

theorem on_inStep (slot : String) {x : Link → ClientM (Link × α)} (inStep : Client.InStep S L x)
    (answer : α → UserAnswer) :
    Agree (Related S L) Eq (on slot x answer) (on slot x answer) := by
  refine on_agree slot rfl fun link link' related => (inStep link link' related).mono ?_
  rintro ⟨link, a⟩ ⟨link', _⟩ ⟨related, rfl⟩
  exact ⟨related, rfl⟩

/-- Work is answered in the same way in either scene, and they stay related. -/
theorem linkWork_agree (lockstep : Client.Lockstep S L)
    (released : ∀ {link link'}, L link link' →
      Agree S Eq (Client.release link) (Client.release link'))
    {x : UserStep} (work : x.isLinkWork = true) : Agree (Related S L) Eq (step x) (step x) := by
  cases x with
  | release slot => exact (vacate_agree released slot).andThen fun _ => by split <;> exact .pure rfl
  | execute slot query =>
    obtain ⟨slot, rfl⟩ := Option.isSome_iff_exists.1 work
    exact on_inStep slot (lockstep.executeQuery query) .count
  | load slot query =>
    obtain ⟨slot, rfl⟩ := Option.isSome_iff_exists.1 work
    exact on_inStep slot (lockstep.loadQuery valueColumn query) column
  | batch slot text => exact on_inStep slot (lockstep.batch text) _
  | built slot text => exact on_inStep slot (lockstep.execute text) _
  | run slot query text => exact on_inStep slot (lockstep.runUnit _ (lockstep.batch text)) _
  | transaction slot body callOff => exact on_inStep slot (lockstep.transaction body callOff) .count
  | pass nanos => exact (act_agree (lockstep.pass nanos)).andThen fun _ => .pure rfl
  | _ => cases work

end UserScene

end SchemaPool
