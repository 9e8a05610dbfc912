import SchemaPool.Proofs.Client.Protocol
import SchemaPool.Proofs.Client.Race

/-! # Clients that start at the same time agree

How far a client has got in its start is a `Milestone`, and a turn takes it from one milestone to
the next (`Advances`).  Past the creation of the schema there is a schema, whoever has created it.
This is what a turn preserves, and everything about a race follows from it (`Race.Sound`). -/

namespace SchemaPool

theorem createsSchema_eq (text : String) : createsSchema text = (createdSchema? text).isSome := by
  rw [createdSchema?, Option.isSome_map]
  rfl

theorem ServerError.TurnsAway.isLostRace {e : ServerError} (turnsAway : e.TurnsAway) :
    e.toQueryError.isLostRace = true := by
  rw [toQueryError]
  cases turnsAway with
  | inl unique =>
    rw [unique]
    rfl
  | inr told =>
    cases DatabaseErrorKind.ofCode e.code with
    | uniqueViolation => rfl
    | _ => exact told

/-! ## Milestones -/

/-- How far a client has got in its start. -/
inductive Milestone where
  | planned
  -- A connection is there on which the schema is to be created.
  | asking
  | inserting
  | provisioned
  | verifying
  | trying
  -- A connection is there on which the session's statement is to be tried.
  | concluding
  | finished
deriving DecidableEq, Repr

namespace Milestone

/-- The number of turns that are left. -/
def left : Milestone → Nat
  | planned => 7
  | asking => 6
  | inserting => 5
  | provisioned => 4
  | verifying => 3
  | trying => 2
  | concluding => 1
  | finished => 0

/-- The creation of the schema lies behind. -/
def isProvisioned (m : Milestone) : Bool := m.left ≤ 4

end Milestone

namespace Startup

/-- The session's statement is tried, and that is all. -/
def Tries (statement : String) (left : Startup) : Prop :=
  ∃ next, left = .exchange statement next ∧ next (.ok (.ok ())) = .done (.ok ())

def Verifies (statement : String) (left : Startup) : Prop :=
  ∃ entries next, left = .note entries next ∧ next.Tries statement

/-- Whether the schema is created or somebody else has been faster, the start goes on. -/
def Tolerates (statement : String)
    (next : Except AcquireError (Except QueryError Unit) → Startup) : Prop :=
  ∀ answer : Except QueryError Unit, (∀ e, answer = .error e → e.isLostRace = true) →
    ∃ entries left, next (.ok answer) = .note entries left ∧ left.Verifies statement

theorem verify_verifies (setup : SessionSetup) : (verify setup).Verifies setup.statement :=
  ⟨_, _, rfl, _, rfl, rfl⟩

theorem plan_tolerates {setup : SessionSetup} {create : String}
    (created : setup.schema.createStatement = .ok (some create)) :
    ∃ next, plan setup = .exchange create next ∧ Tolerates setup.statement next := by
  rw [plan, provision, created]
  refine ⟨_, rfl, fun answer lost => ?_⟩
  cases answer with
  | ok => exact ⟨_, _, rfl, verify_verifies setup⟩
  | error e =>
    simp only [lost e rfl, if_true]
    exact ⟨_, _, rfl, verify_verifies setup⟩

end Startup

/-- What a turn comes to while there are these schemas. -/
inductive Advances (statement schema : String) (catalog : List String) :
    Milestone → List Act → Milestone → Prop where
  | ask : Advances statement schema catalog .planned [] .asking
  | absent {text} (creates : createdSchema? text = some schema) (missing : schema ∉ catalog) :
      Advances statement schema catalog .asking [.issued text] .inserting
  | present {text} (creates : createdSchema? text = some schema) (there : schema ∈ catalog) :
      Advances statement schema catalog .asking [.issued text] .provisioned
  | create (missing : schema ∉ catalog) :
      Advances statement schema catalog .inserting [.created schema] .provisioned
  | lose (there : schema ∈ catalog) :
      Advances statement schema catalog .inserting [.turnedAway schema] .provisioned
  | note : Advances statement schema catalog .provisioned [] .verifying
  | verify : Advances statement schema catalog .verifying [] .trying
  | borrow : Advances statement schema catalog .trying [] .concluding
  | conclude : Advances statement schema catalog .concluding [.issued statement] .finished
  | rest : Advances statement schema catalog .finished [] .finished

namespace Advances

variable {statement schema : String} {catalog : List String} {before after : Milestone}
  {acts : List Act}

theorem left_le (advances : Advances statement schema catalog before acts after) :
    after.left ≤ before.left - 1 := by
  cases advances <;> decide

/-- A schema is created just if there is none. -/
theorem created (advances : Advances statement schema catalog before acts after) :
    acts.filterMap Act.created? = [] ∨
      schema ∉ catalog ∧ acts.filterMap Act.created? = [schema] := by
  cases advances with
  | create missing => exact .inr ⟨missing, rfl⟩
  | _ => exact .inl rfl

/-- Nobody gets past the creation of the schema without there being one. -/
theorem provisioned (advances : Advances statement schema catalog before acts after)
    (known : before.isProvisioned = true → schema ∈ catalog)
    (past : after.isProvisioned = true) : schema ∈ catalog ++ acts.filterMap Act.created? := by
  cases advances with
  | ask | absent => cases past
  | present _ there | lose there => exact List.mem_append_left _ there
  | create => exact List.mem_append_right _ List.mem_cons_self
  | _ => exact List.mem_append_left _ (known rfl)

/-- The session's statement is issued by those only who have got past the creation. -/
theorem issued (advances : Advances statement schema catalog before acts after)
    (plain : createdSchema? statement = none) (member : .issued statement ∈ acts) :
    before.isProvisioned = true := by
  cases advances with
  | absent creates | present creates =>
    cases List.mem_singleton.1 member
    rw [plain] at creates
    cases creates
  | conclude => rfl
  | _ => simp at member

end Advances

namespace Racer

open Startup (Tries Verifies Tolerates)

/-- The client has got so far in its start. -/
inductive At (statement schema : String) : Milestone → Racer → Prop where
  | planned {c text next} (served : c.Served 0) (creates : createdSchema? text = some schema)
      (tolerates : Tolerates statement next) :
      At statement schema .planned ⟨c, .onward (.exchange text next)⟩
  | asking {c lent text next} (served : c.Served 1) (here : lent.link.lost = false)
      (creates : createdSchema? text = some schema) (tolerates : Tolerates statement next) :
      At statement schema .asking ⟨c, .speaking lent text next⟩
  | inserting {c lent text next} (served : c.Served 1) (here : lent.link.lost = false)
      (tolerates : Tolerates statement next) :
      At statement schema .inserting ⟨c, .inserting lent text schema next⟩
  | provisioned {c entries left} (served : c.Served 0) (verifies : left.Verifies statement) :
      At statement schema .provisioned ⟨c, .onward (.note entries left)⟩
  | verifying {c left} (served : c.Served 0) (verifies : left.Verifies statement) :
      At statement schema .verifying ⟨c, .onward left⟩
  | trying {c left} (served : c.Served 0) (tries : left.Tries statement) :
      At statement schema .trying ⟨c, .onward left⟩
  | concluding {c lent next} (served : c.Served 1) (here : lent.link.lost = false)
      (accepts : next (.ok (.ok ())) = .done (.ok ())) :
      At statement schema .concluding ⟨c, .speaking lent statement next⟩
  | finished {c} (served : c.Served 0) :
      At statement schema .finished ⟨c, .onward (.done (.ok ()))⟩

variable {statement schema text : String} {c : Client} {lent : Lent}
  {next : Except AcquireError (Except QueryError Unit) → Startup}

/-! ## Answers -/

theorem hear_of_answer {result : Except QueryError Unit}
    (answer : (Client.converse lent text c).1 = result) :
    hear lent text next c = ⟨(Client.converse lent text c).2, .onward (next (.ok result))⟩ := by
  subst answer
  rfl

theorem hear_obliged (text : String)
    (next : Except AcquireError (Except QueryError Unit) → Startup) (served : c.Served 1)
    (here : lent.link.lost = false) :
    ∃ c', c'.Served 0 ∧ hear lent text next c = ⟨c', .onward (next (.ok (.ok ())))⟩ := by
  obtain ⟨obliged, isOpen, sized, one⟩ := served
  obtain ⟨kind, rest⟩ := Server.react_obliging obliged lent.link.number text
  obtain ⟨answer, served⟩ := Client.converse_reacts text here isOpen sized one rest
  obtain ⟨table, reply⟩ := kind.answers
  rw [reply] at answer
  exact ⟨_, served, hear_of_answer answer⟩

/-- What has been laid down is answered, and the database is as obliging as before. -/
theorem hear_told (text : String)
    (next : Except AcquireError (Except QueryError Unit) → Startup) (nanos : Nat) (reply : Reply)
    (served : c.Served 1) (here : lent.link.lost = false) :
    ∃ c', c'.Served 0 ∧ hear lent text next (told c text nanos reply) =
      ⟨c', .onward (next (.ok (reply.result.map fun _ => ())))⟩ := by
  obtain ⟨obliged, isOpen, sized, one⟩ := served
  have reacts : (told c text nanos reply).around.server.react lent.link.number text = _ :=
    Server.react_answering c.around.server lent.link.number text ⟨nanos, reply, false⟩
  have rest : ((told c text nanos reply).around.server.react lent.link.number text).2.Obliging
      c.borrowLimit := by
    rw [reacts]
    exact ⟨obliged.accepts, List.forall_mem_cons.2 ⟨.inl rfl, obliged.answers⟩⟩
  obtain ⟨answer, served⟩ :=
    Client.converse_reacts text (c := told c text nanos reply) here isOpen sized one rest
  rw [reacts] at answer
  exact ⟨_, served, hear_of_answer answer⟩

/-! ## What a turn comes to -/

/-- An answer that the start puts up with takes the client past the creation. -/
theorem at_provisioned {answer : Except QueryError Unit} (served : c.Served 0)
    (tolerates : Tolerates statement next) (lost : ∀ e, answer = .error e → e.isLostRace = true) :
    At statement schema .provisioned ⟨c, .onward (next (.ok answer))⟩ := by
  obtain ⟨entries, left, same, verifies⟩ := tolerates answer lost
  rw [same]
  exact .provisioned served verifies

theorem at_of_created (nanos : Nat) (served : c.Served 1) (here : lent.link.lost = false)
    (tolerates : Tolerates statement next) :
    At statement schema .provisioned (hear lent text next (told c text nanos created)) := by
  obtain ⟨c', served, heard⟩ := hear_told text next nanos created served here
  rw [heard]
  exact at_provisioned served tolerates nofun

theorem turn_borrows (m : Move) (catalog : List String) (served : c.Served 0) :
    ∃ lent c', lent.link.lost = false ∧ c'.Served 1 ∧
      turn m catalog ⟨c, .onward (.exchange text next)⟩ = (⟨c', .speaking lent text next⟩, []) := by
  obtain ⟨lent, got, here, served⟩ := Client.acquire_served served
  refine ⟨lent, _, here, served, ?_⟩
  rw [turn]
  revert got
  rcases Client.acquire c with ⟨r, c'⟩
  rintro ⟨⟩
  rfl

/-- A turn takes a client from its milestone to the next one. -/
theorem turn_advances (m : Move) (catalog : List String) {milestone : Milestone} {r : Racer}
    (stands : r.At statement schema milestone) (plain : createdSchema? statement = none)
    (turnsAway : m.refusal.TurnsAway) :
    ∃ after, Advances statement schema catalog milestone (r.turn m catalog).2 after ∧
      (r.turn m catalog).1.At statement schema after := by
  cases stands with
  | @planned c text next served creates tolerates =>
    obtain ⟨lent, c', here, served, borrowed⟩ := turn_borrows m catalog served
    rw [borrowed]
    exact ⟨_, .ask, .asking served here creates tolerates⟩
  | @asking c lent text next served here creates tolerates =>
    simp only [turn, creates]
    by_cases there : schema ∈ catalog
    · rw [if_pos there]
      exact ⟨_, .present creates there, at_of_created m.nanos served here tolerates⟩
    · rw [if_neg there]
      exact ⟨_, .absent creates there, .inserting served here tolerates⟩
  | @inserting c lent text next served here tolerates =>
    rw [turn]
    by_cases there : schema ∈ catalog
    · rw [if_pos there]
      obtain ⟨c', served, heard⟩ := hear_told text next m.nanos (.refused m.refusal) served here
      refine ⟨_, .lose there, ?_⟩
      rw [heard]
      apply at_provisioned served tolerates
      rintro _ ⟨⟩
      exact turnsAway.isLostRace
    · rw [if_neg there]
      exact ⟨_, .create there, at_of_created m.nanos served here tolerates⟩
  | provisioned served verifies =>
    exact ⟨_, .note, .verifying (Client.note_served _ served) verifies⟩
  | verifying served verifies =>
    obtain ⟨entries, next, rfl, tries⟩ := verifies
    exact ⟨_, .verify, .trying (Client.note_served _ served) tries⟩
  | trying served tries =>
    obtain ⟨next, rfl, accepts⟩ := tries
    obtain ⟨lent, c', here, served, borrowed⟩ := turn_borrows m catalog served
    rw [borrowed]
    exact ⟨_, .borrow, .concluding served here accepts⟩
  | @concluding c lent next served here accepts =>
    obtain ⟨c', served, heard⟩ := hear_obliged statement next served here
    simp only [turn, plain]
    refine ⟨_, .conclude, ?_⟩
    rw [heard, accepts]
    exact .finished served
  | finished served => exact ⟨_, .rest, .finished served⟩

/-- A client that starts, with sound settings for this schema and an obliging database. -/
inductive Starts (schema : SchemaName) : Racer → Prop where
  | intro {settings reporter around setup} (valid : settings.validate = .ok ())
      (named : settings.schemaName = .ok schema)
      (asked : Client.setupFor settings reporter = .ok setup)
      (obliged : (Client.beginning settings setup around).Obliged) :
      Starts schema (start settings setup around)

theorem Starts.planned {schema : SchemaName} {create name statement : String} {r : Racer}
    (starts : r.Starts schema) (created : schema.createStatement = .ok (some create))
    (creates : createdSchema? create = some name)
    (stated : schema.searchPathStatement = .ok statement) : r.At statement name .planned := by
  cases starts with
  | @intro settings reporter around setup valid named asked obliged =>
    obtain ⟨known, said, -, -⟩ := Client.setupFor_ok asked
    rw [named, Except.ok.injEq] at known
    subst known
    rw [stated, Except.ok.injEq] at said
    subst said
    obtain ⟨next, planned, tolerates⟩ := Startup.plan_tolerates created
    rw [start, planned]
    have allowed := Settings.allows_maxConnections_of_valid valid
    rw [Limit.allows, Bool.and_eq_true, decide_eq_true_iff] at allowed
    have sized : 0 < settings.maxConnections.toNat := Nat.lt_of_lt_of_le (by decide) allowed.1
    exact .planned ⟨obliged, rfl, sized, rfl⟩ creates tolerates

end Racer

namespace Race

open Racer (Starts)

/-- What is true of a race all the time, when the clients have had so many turns. -/
structure Sound (statement schema : String) (turns : Nat → Nat) (race : Race) : Prop where
  catalog : race.catalog = [] ∨ race.catalog = [schema]
  racers : ∀ i r, race.racers[i]? = some r → ∃ milestone, r.At statement schema milestone ∧
    milestone.left ≤ 7 - turns i ∧ (milestone.isProvisioned = true → schema ∈ race.catalog)
  early : ∀ n i, race.history[n]? = some (i, .issued statement) →
    ∃ j, (j, .created schema) ∈ race.history.take n

variable {statement schema : String} {turns : Nat → Nat} {race : Race}

theorem mem_catalog : schema ∈ race.catalog ↔ ∃ i, (i, .created schema) ∈ race.history := by
  have shown : ∀ act : Act, act.created? = some schema ↔ act = .created schema := by
    intro act
    cases act <;> simp [Act.created?]
  simp [catalog, List.mem_filterMap, shown]

theorem catalog_moved (i : Nat) (r : Racer) (acts : List Act) :
    (race.moved i r acts).catalog = race.catalog ++ acts.filterMap Act.created? := by
  rw [catalog, moved, List.filterMap_append, List.filterMap_map]
  rfl

/-- What a turn preserves. -/
theorem Sound.moved (sound : race.Sound statement schema turns) {i : Nat} {r : Racer}
    {acts : List Act} {before after : Milestone} (plain : createdSchema? statement = none)
    (due : before.left ≤ 7 - turns i) (known : before.isProvisioned = true → schema ∈ race.catalog)
    (advances : Advances statement schema race.catalog before acts after)
    (reached : r.At statement schema after) :
    (race.moved i r acts).Sound statement schema fun j => turns j + if i = j then 1 else 0 := by
  refine ⟨?_, fun j other there => ?_, fun n j issued => ?_⟩
  · rw [catalog_moved]
    rcases advances.created with none | ⟨missing, one⟩
    · rw [none, List.append_nil]
      exact sound.catalog
    · right
      rcases sound.catalog with empty | there
      · rw [empty, one]
        rfl
      · simp [there] at missing
  · rw [catalog_moved]
    by_cases same : i = j
    · subst same
      have less := advances.left_le
      rw [Race.moved, List.getElem?_set_self'] at there
      obtain ⟨-, -, rfl⟩ := Option.map_eq_some_iff.1 there
      exact ⟨after, reached, by simp only [if_true]; omega, advances.provisioned known⟩
    · rw [Race.moved, List.getElem?_set_ne same] at there
      obtain ⟨milestone, stands, left, past⟩ := sound.racers j other there
      exact ⟨milestone, stands, by simpa [same] using left,
        fun provisioned => List.mem_append_left _ (past provisioned)⟩
  · rw [Race.moved] at issued ⊢
    by_cases old : n < race.history.length
    · rw [List.getElem?_append_left old] at issued
      rw [List.take_append_of_le_length (Nat.le_of_lt old)]
      exact sound.early n j issued
    · -- The statement is issued in this turn, so the client has got past the creation.
      have all := Nat.le_of_not_lt old
      rw [List.getElem?_append_right all] at issued
      obtain ⟨act, member, same⟩ := List.mem_map.1 (List.mem_of_getElem? issued)
      obtain ⟨-, rfl⟩ := Prod.mk.inj same
      obtain ⟨k, made⟩ := mem_catalog.1 (known (advances.issued plain member))
      refine ⟨k, ?_⟩
      rw [List.take_append, List.take_of_length_le all]
      exact List.mem_append_left _ made

theorem Sound.step (sound : race.Sound statement schema turns) {m : Move}
    (plain : createdSchema? statement = none) (turnsAway : m.refusal.TurnsAway) :
    (race.step m).Sound statement schema fun i => turns i + if m.racer = i then 1 else 0 := by
  rw [Race.step]
  cases found : race.racers[m.racer]? with
  | none =>
    refine ⟨sound.catalog, fun i r known => ?_, sound.early⟩
    have other : m.racer ≠ i := by
      rintro rfl
      rw [found] at known
      cases known
    rw [if_neg other]
    exact sound.racers i r known
  | some racer =>
    obtain ⟨milestone, stands, due, past⟩ := sound.racers m.racer racer found
    obtain ⟨after, advances, reached⟩ :=
      Racer.turn_advances m race.catalog stands plain turnsAway
    exact sound.moved plain due past advances reached

/-- What a whole race preserves. -/
theorem Sound.run {moves : List Move} (sound : race.Sound statement schema turns)
    (plain : createdSchema? statement = none) (turnsAway : ∀ m ∈ moves, m.refusal.TurnsAway) :
    (race.run moves).Sound statement schema fun i =>
      turns i + moves.countP fun m => m.racer == i := by
  induction moves generalizing race turns with
  | nil => exact sound
  | cons m moves ih =>
    obtain ⟨first, others⟩ := List.forall_mem_cons.1 turnsAway
    have rest := ih (sound.step plain first) others
    have turned : ∀ i, (turns i + if m.racer = i then 1 else 0) +
        moves.countP (fun m => m.racer == i) =
          turns i + (m :: moves).countP fun m => m.racer == i := by
      intro i
      simp only [List.countP_cons, beq_iff_eq]
      omega
    simp only [turned] at rest
    exact rest

theorem length_step (race : Race) (m : Move) : (race.step m).racers.length = race.racers.length := by
  rw [Race.step]
  cases race.racers[m.racer]? with
  | none => rfl
  | some racer => exact List.length_set

theorem length_run (race : Race) (moves : List Move) :
    (race.run moves).racers.length = race.racers.length := by
  induction moves generalizing race with
  | nil => rfl
  | cons m moves ih => exact (ih (race.step m)).trans (length_step race m)

end Race

theorem createdSchema?_createStatement {schema : SchemaName} {create name : String}
    (created : schema.createStatement = .ok (some create)) (quoted : schema.quoted = .ok name) :
    createdSchema? create = some name := by
  rw [SchemaName.createStatement, quoted] at created
  split at created
  · cases created
  · cases created
    rw [createdSchema?, String.toList_append, Text.after?_append]
    exact congrArg some String.ofList_toList

namespace Racer

variable {statement schema : String} {r : Racer}

/-- Only a start that has come to a good end has come to an end. -/
theorem At.result {milestone : Milestone} (stands : r.At statement schema milestone)
    {result : Except Failure Unit} (ended : r.result? = some result) :
    result = .ok () ∧ milestone.isProvisioned = true := by
  cases stands with
  | verifying served verifies =>
    obtain ⟨entries, next, rfl, -⟩ := verifies
    cases ended
  | trying served tries =>
    obtain ⟨next, rfl, -⟩ := tries
    cases ended
  | finished =>
    cases ended
    exact ⟨rfl, rfl⟩
  | _ => cases ended

theorem At.finished_of_left {milestone : Milestone} (stands : r.At statement schema milestone)
    (none : milestone.left = 0) : r.result? = some (.ok ()) := by
  cases stands with
  | finished => rfl
  | _ => cases none

end Racer

/-- Clients that start at the same time agree on the schema, in whatever order they have their
turns: whoever has finished has succeeded, the schema is created at most once and has been when
somebody has finished, it is there before anybody tries the session's statement, and with seven
turns everybody has finished. -/
theorem Race.racers_agree {schema : SchemaName} {racers : List Racer}
    (other : schema.isDefault = false) (starts : ∀ r ∈ racers, r.Starts schema) {moves : List Move}
    (turnsAway : ∀ m ∈ moves, m.refusal.TurnsAway) :
    ∃ name statement, schema.quoted = .ok name ∧ schema.searchPathStatement = .ok statement ∧
      let race := (Race.mk racers []).run moves
      (∀ r ∈ race.racers, ∀ result, r.result? = some result →
        result = .ok () ∧ race.creations name = 1) ∧
      race.creations name ≤ 1 ∧
      (∀ n i, race.history[n]? = some (i, .issued statement) →
        ∃ j, (j, .created name) ∈ race.history.take n) ∧
      ∀ i < racers.length, 7 ≤ moves.countP (fun m => m.racer == i) →
        ∃ r, race.racers[i]? = some r ∧ r.result? = some (.ok ()) := by
  obtain ⟨name, quoted⟩ : ∃ name, schema.quoted = .ok name := ⟨_, schema.quoted_eq⟩
  obtain ⟨statement, stated⟩ : ∃ statement, schema.searchPathStatement = .ok statement :=
    ⟨_, schema.searchPathStatement_eq⟩
  obtain ⟨create, created⟩ : ∃ create, schema.createStatement = .ok (some create) := by
    rw [SchemaName.createStatement_eq, other]
    exact ⟨_, rfl⟩
  have creates := createdSchema?_createStatement created quoted
  have plain : createdSchema? statement = none := by
    rw [← Option.isNone_iff_eq_none, ← Option.not_isSome, ← createsSchema_eq,
      createsSchema_of_searchPathStatement stated]
    rfl
  have begun : (Race.mk racers []).Sound statement name fun _ => 0 := by
    refine ⟨.inl rfl, fun i r there => ?_, nofun⟩
    have planned := (starts r (List.mem_of_getElem? there)).planned created creates stated
    exact ⟨_, planned, Nat.le_refl 7, nofun⟩
  have sound := begun.run plain turnsAway
  have once : ((Race.mk racers []).run moves).creations name ≤ 1 ∧
      (name ∈ ((Race.mk racers []).run moves).catalog →
        ((Race.mk racers []).run moves).creations name = 1) := by
    rw [creations]
    rcases sound.catalog with same | same
    · simp [same]
    · simp [same]
  refine ⟨name, statement, quoted, stated, fun r member result ended => ?_, once.1, sound.early,
    fun i bound turns => ?_⟩
  · obtain ⟨i, there⟩ := List.mem_iff_getElem?.1 member
    obtain ⟨milestone, stands, -, past⟩ := sound.racers i r there
    obtain ⟨good, provisioned⟩ := stands.result ended
    exact ⟨good, once.2 (past provisioned)⟩
  · have kept : i < ((Race.mk racers []).run moves).racers.length := by
      rw [length_run]
      exact bound
    obtain ⟨milestone, stands, due, -⟩ := sound.racers i _ (List.getElem?_eq_getElem kept)
    have none : milestone.left = 0 := by omega
    exact ⟨_, List.getElem?_eq_getElem kept, stands.finished_of_left none⟩

/-- Three clients need the schema `sales`, of which everybody finds it missing before the first one
creates it. -/
def closeRace (setup : SessionSetup) : Race :=
  ⟨List.replicate 3 (.start { Settings.new "postgres://localhost/app" with schema := "sales" } setup
    (.ofServer (.ofScript [] []))), []⟩

/-- One who has lost the race hears of the catalog's unique index, the other that the schema
exists. -/
def closeMoves : List Move :=
  (List.range 7).flatMap fun _ =>
    [⟨0, 5, ⟨"23505", "duplicate key"⟩⟩, ⟨1, 5, ⟨"23505", "duplicate key"⟩⟩,
      ⟨2, 5, ⟨"42P06", "schema already exists"⟩⟩]

theorem Race.racers_agree_of_close_race : ∃ setup schema name,
    schema.isDefault = false ∧ schema.quoted = .ok name ∧
    (∀ r ∈ (closeRace setup).racers, r.Starts schema) ∧
    (∀ m ∈ closeMoves, m.refusal.TurnsAway) ∧
    (((closeRace setup).run closeMoves).history.countP fun event =>
      event.2 == .turnedAway name) = 2 ∧
    ((closeRace setup).run closeMoves).creations name = 1 ∧
    ∀ i < 3, ∃ r, ((closeRace setup).run closeMoves).racers[i]? = some r ∧
      r.result? = some (.ok ()) := by
  have valid : ({ Settings.new "postgres://localhost/app" with schema := "sales" } :
      Settings).validate = .ok () := rfl
  obtain ⟨setup, asked⟩ := Client.setupFor_of_valid valid .log
  have computed : ((Client.setupFor
      { Settings.new "postgres://localhost/app" with schema := "sales" } .log).toOption.map
        fun setup => (setup.schema.isDefault, setup.schema.quoted.toOption,
          ((closeRace setup).run closeMoves).history.countP fun event =>
            event.2 == .turnedAway "\"sales\"")) = some (false, some "\"sales\"", 2) := by
    decide +kernel
  rw [asked] at computed
  simp only [Except.toOption, Option.map_some, Option.some.injEq, Prod.mk.injEq] at computed
  obtain ⟨other, named, losers⟩ := computed
  have starts : ∀ r ∈ (closeRace setup).racers, r.Starts setup.schema := by
    intro r member
    rw [List.eq_of_mem_replicate member]
    exact .intro valid (Client.setupFor_ok asked).1 asked ⟨nofun, nofun⟩
  have turnsAway : ∀ m ∈ closeMoves, m.refusal.TurnsAway := by
    have told : ∀ m ∈ closeMoves, DatabaseErrorKind.ofCode m.refusal.code = .uniqueViolation ∨
        Text.occursIn "already exists".toList m.refusal.message.toList = true := by
      decide +kernel
    exact told
  obtain ⟨name, statement, quoted, -, finished, -, -, all⟩ :=
    Race.racers_agree other starts turnsAway
  rw [quoted] at named
  cases named
  have everybody : ∀ i < 3, ∃ r, ((closeRace setup).run closeMoves).racers[i]? = some r ∧
      r.result? = some (.ok ()) := by
    intro i bound
    have turns : ∀ i < 3, 7 ≤ closeMoves.countP fun m => m.racer == i := by decide +kernel
    exact all i bound (turns i bound)
  obtain ⟨r, there, ended⟩ := everybody 0 (by decide)
  exact ⟨setup, setup.schema, _, other, quoted, starts, turnsAway, losers,
    (finished r (List.mem_of_getElem? there) _ ended).2, everybody⟩

end SchemaPool
