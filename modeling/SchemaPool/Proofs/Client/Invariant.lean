import SchemaPool.Proofs.Client.Keeping

/-! # Sessions are prepared once

What has happened to a connection is read off the journal (`Surroundings.history`).  The
history of every connection begins with its creation, in which the session is prepared and the
first borrower gets it; from then on it is only used.

The invariant (`Client.Sound`) says this of the whole journal, and of each connection at rest
or in somebody's hands that it is one of those and is timed as its session wants it.  Use of
known connections keeps it (`Sound.use`), and so does the creation of a connection
(`Sound.create`); every elementary action is made of these (`Sound.stable`). -/

namespace SchemaPool

namespace Happening

/-- The connection that it is about. -/
def link? : Happening → Option Nat
  | opened link => some link
  | prepared link _ => some link
  | lent link _ => some link
  | sent link _ => some link
  | returned link => some link
  | discarded link => some link
  | poolClosed => none

/-- The connection whose session was prepared with a statement that was refused. -/
def refused? : Happening → Option Nat
  | prepared link false => some link
  | _ => none

/-- What may happen to a connection once it has been created. -/
def isUse (setup : SessionSetup) : Happening → Bool
  | opened _ => false
  | prepared _ _ => false
  | lent _ timing => timing == setup.timing
  | _ => true

theorem refused?_of_isUse {setup : SessionSetup} {h : Happening} (use : h.isUse setup = true) :
    h.refused? = none := by
  cases h with
  | prepared link accepted => cases use
  | _ => rfl

end Happening

/-- What has happened to one connection, in order. -/
def Surroundings.history (s : Surroundings) (link : Nat) : List Happening :=
  s.journal.filter (·.link? == some link)

/-- The connections on which the session's statement was refused. -/
def Surroundings.refusals (s : Surroundings) : List Nat := s.journal.filterMap Happening.refused?

namespace Client

/-! ## The creation of a connection -/

section Creation

variable {setup : SessionSetup} {number : Nat} {accepted : Bool}

theorem link?_of_mem_creation {h : Happening} (member : h ∈ creation setup number accepted) :
    h.link? = some number := by
  simp only [creation, List.mem_cons, List.not_mem_nil, or_false] at member
  rcases member with rfl | rfl | rfl | rfl <;> rfl

theorem filter_creation_self :
    (creation setup number accepted).filter (·.link? == some number) =
      creation setup number accepted :=
  List.filter_eq_self.2 fun _ member => beq_iff_eq.2 (link?_of_mem_creation member)

theorem filter_creation_of_ne {n : Nat} (other : n ≠ number) :
    (creation setup number accepted).filter (·.link? == some n) = [] := by
  refine List.filter_eq_nil_iff.2 fun h member about => other ?_
  rw [link?_of_mem_creation member] at about
  exact (Option.some.inj (beq_iff_eq.1 about)).symm

theorem refusals_creation : (creation setup number accepted).filterMap Happening.refused? =
    if accepted then [] else [number] := by
  cases accepted <;> rfl

end Creation

/-! ## The invariant -/

def Knows (c : Client) (link : Nat) : Prop :=
  ∃ h ∈ c.around.journal, h.link? = some link

/-- The happening is a use of a known connection. -/
def Allows (setup : SessionSetup) (c : Client) (h : Happening) : Prop :=
  h.isUse setup = true ∧ ∀ n, h.link? = some n → c.Knows n

/-- Every connection has been created once, with the setup, and only used since; those at rest
and those that are held are among them. -/
structure Sound (setup : SessionSetup) (c : Client) (held : List Link) : Prop where
  counted : c.setup = { setup with failures := c.around.refusals.length }
  fresh : ∀ n, c.Knows n → n < c.around.server.attempts
  history : ∀ n, c.Knows n → ∃ accepted rest,
    c.around.history n = creation setup n accepted ++ rest ∧ ∀ h ∈ rest, h.isUse setup = true
  known : ∀ link, link ∈ c.pool.idle ∨ link ∈ held → c.Knows link.number
  timed : ∀ link, link ∈ c.pool.idle ∨ link ∈ held → link.timed.timing = setup.timing

theorem mem_refusals {s : Surroundings} {n : Nat} :
    n ∈ s.refusals ↔ .prepared n false ∈ s.journal := by
  rw [Surroundings.refusals, List.mem_filterMap]
  constructor
  · rintro ⟨h, member, refused⟩
    cases h with
    | prepared link accepted =>
      cases accepted with
      | true => cases refused
      | false => exact Option.some.inj refused ▸ member
    | _ => cases refused
  · exact fun member => ⟨_, member, rfl⟩

theorem history_of_not_knows {c : Client} {n : Nat} (unknown : ¬ c.Knows n) :
    c.around.history n = [] :=
  List.filter_eq_nil_iff.2 fun h member about => unknown ⟨h, member, beq_iff_eq.1 about⟩

namespace Sound

variable {setup : SessionSetup} {c c' : Client} {held : List Link} {hs : List Happening}

theorem setup_timing (sound : Sound setup c held) : c.setup.timing = setup.timing := by
  rw [sound.counted]
  rfl

theorem creation_eq (sound : Sound setup c held) (number : Nat) (accepted : Bool) :
    creation c.setup number accepted = creation setup number accepted := by
  rw [sound.counted]
  rfl

theorem regroup (sound : Sound setup c held) (pool : Pool Link) (held' : List Link)
    (among : ∀ link, link ∈ pool.idle ∨ link ∈ held' →
      ∃ old, (old ∈ c.pool.idle ∨ old ∈ held) ∧ Resembles link old) :
    Sound setup { c with pool } held' where
  counted := sound.counted
  fresh := sound.fresh
  history := sound.history
  known link member := by
    obtain ⟨old, before, same⟩ := among link member
    exact same.number ▸ sound.known old before
  timed link member := by
    obtain ⟨old, before, same⟩ := among link member
    exact same.timing.trans (sound.timed old before)

/-- Use of known connections makes no others known. -/
theorem knows_iff_of_use (goes : c.Goes hs c') (uses : ∀ h ∈ hs, c.Allows setup h) {n : Nat} :
    c'.Knows n ↔ c.Knows n := by
  simp only [Knows, goes.journal, List.mem_append]
  constructor
  · rintro ⟨h, member | member, about⟩
    · exact ⟨h, member, about⟩
    · exact (uses h member).2 n about
  · rintro ⟨h, member, about⟩
    exact ⟨h, .inl member, about⟩

theorem use (sound : Sound setup c held) (goes : c.Goes hs c')
    (uses : ∀ h ∈ hs, c.Allows setup h) : Sound setup c' held where
  counted := by
    have none : hs.filterMap Happening.refused? = [] :=
      List.filterMap_eq_nil_iff.2 fun h member => Happening.refused?_of_isUse (uses h member).1
    rw [goes.setup, sound.counted, Surroundings.refusals, Surroundings.refusals, goes.journal,
      List.filterMap_append, none, List.append_nil]
  fresh n known :=
    Nat.lt_of_lt_of_le (sound.fresh n ((knows_iff_of_use goes uses).1 known)) goes.attempts
  history n known := by
    obtain ⟨accepted, rest, begun, used⟩ := sound.history n ((knows_iff_of_use goes uses).1 known)
    refine ⟨accepted, rest ++ hs.filter (·.link? == some n), ?_, ?_⟩
    · rw [Surroundings.history, goes.journal, List.filter_append, ← List.append_assoc, ← begun]
      rfl
    · intro h member
      cases List.mem_append.1 member with
      | inl member => exact used h member
      | inr member => exact (uses h (List.mem_filter.1 member).1).1
  known link member := (knows_iff_of_use goes uses).2 (sound.known link (goes.pool ▸ member))
  timed link member := sound.timed link (goes.pool ▸ member)

theorem quiet (sound : Sound setup c held) (goes : c.Goes [] c') : Sound setup c' held :=
  sound.use goes nofun

theorem allows_of_checked (sound : Sound setup c held) {left : List Link}
    (checked : Checked c.pool.idle hs left) : ∀ h ∈ hs, c.Allows setup h := by
  intro h member
  obtain ⟨link, atRest, either⟩ := checked.happenings h member
  have known := sound.known link (.inl atRest)
  rcases either with rfl | rfl
  · exact ⟨rfl, fun n about => Option.some.inj about ▸ known⟩
  · exact ⟨rfl, fun n about => Option.some.inj about ▸ known⟩

/-- A new connection is created; its session's statement may be refused. -/
theorem create (sound : Sound setup c held) {lent : Link} {pool : Pool Link}
    {result : Except QueryError Unit} (number : lent.number = c.around.server.attempts)
    (used : lent.number < c'.around.server.attempts)
    (timing : lent.timed.timing = c.setup.timing) (idle : ∀ link ∈ pool.idle, link ∈ c.pool.idle)
    (goes : ({ c with setup := (c.setup.conclude result).1, pool } : Client).Goes
      (creation c.setup lent.number result.isOk) c') : Sound setup c' (lent :: held) := by
  -- The number of the attempt is greater than all that are known.
  have unknown : ¬ c.Knows lent.number := fun known =>
    Nat.lt_irrefl _ (number ▸ sound.fresh _ known)
  have known : ∀ n, c'.Knows n → c.Knows n ∨ n = lent.number := by
    rintro n ⟨h, member, about⟩
    rw [goes.journal, List.mem_append] at member
    cases member with
    | inl member => exact .inl ⟨h, member, about⟩
    | inr member => exact .inr (Option.some.inj (about.symm.trans (link?_of_mem_creation member)))
  have created : c'.Knows lent.number := by
    refine ⟨.opened lent.number, ?_, rfl⟩
    rw [goes.journal]
    exact List.mem_append_right _ List.mem_cons_self
  constructor
  case counted =>
    rw [goes.setup, Surroundings.refusals, goes.journal, List.filterMap_append, refusals_creation,
      SessionSetup.conclude_eq, sound.counted, List.length_append]
    cases result <;> rfl
  case fresh =>
    intro n mentioned
    rcases known n mentioned with before | rfl
    · exact Nat.lt_of_lt_of_le (sound.fresh n before) goes.attempts
    · exact used
  case history =>
    intro n mentioned
    rw [Surroundings.history, goes.journal, List.filter_append]
    rcases known n mentioned with before | rfl
    · -- The creation adds nothing to the history of another connection.
      have other : n ≠ lent.number := fun same => unknown (same ▸ before)
      obtain ⟨accepted, rest, begun, used⟩ := sound.history n before
      refine ⟨accepted, rest, ?_, used⟩
      rw [filter_creation_of_ne other, List.append_nil]
      exact begun
    · refine ⟨result.isOk, [], ?_, nofun⟩
      rw [filter_creation_self, sound.creation_eq, List.append_nil]
      exact congrArg (· ++ creation setup lent.number result.isOk) (history_of_not_knows unknown)
  case known =>
    have same : c'.pool = pool := goes.pool
    have kept : ∀ n, c.Knows n → c'.Knows n := fun n ⟨h, member, about⟩ =>
      ⟨h, goes.journal ▸ List.mem_append_left _ member, about⟩
    intro link member
    cases member with
    | inl member => exact kept _ (sound.known link (.inl (idle link (same ▸ member))))
    | inr member =>
      cases member with
      | head => exact created
      | tail _ member => exact kept _ (sound.known link (.inr member))
  case timed =>
    have same : c'.pool = pool := goes.pool
    intro link member
    cases member with
    | inl member => exact sound.timed link (.inl (idle link (same ▸ member)))
    | inr member =>
      cases member with
      | head => exact timing.trans sound.setup_timing
      | tail _ member => exact sound.timed link (.inr member)

/-- Some hands may be left out of account, and some counted twice. -/
theorem subset (sound : Sound setup c held) {held' : List Link}
    (among : ∀ link ∈ held', link ∈ held) : Sound setup c held' :=
  sound.regroup c.pool held' fun link member =>
    ⟨link, member.imp_right (among link), rfl, rfl⟩

theorem worked {link link' : Link} (sound : Sound setup c (link :: held))
    (work : Worked link c hs link' c') : Sound setup c' (link' :: held) := by
  have known := sound.known link (.inr List.mem_cons_self)
  have used := sound.use work.goes fun h sent => by
    obtain ⟨text, rfl⟩ := work.sent h sent
    exact ⟨rfl, fun n about => Option.some.inj about ▸ known⟩
  refine used.regroup c'.pool _ fun other among => ?_
  cases among with
  | inl atRest => exact ⟨other, .inl atRest, rfl, rfl⟩
  | inr among =>
    cases among with
    | head => exact ⟨link, .inr List.mem_cons_self, work.number, work.timing⟩
    | tail _ among => exact ⟨other, .inr (List.mem_cons_of_mem _ among), rfl, rfl⟩

theorem timing_of_lent (sound : Sound setup c held) {n : Nat} {timing : Timing}
    (lent : .lent n timing ∈ c.around.journal) : timing = setup.timing := by
  obtain ⟨accepted, rest, begun, used⟩ := sound.history n ⟨_, lent, rfl⟩
  have member : .lent n timing ∈ c.around.history n :=
    List.mem_filter.2 ⟨lent, beq_self_eq_true _⟩
  rw [begun, List.mem_append] at member
  cases member with
  | inl member => simpa [creation] using member
  | inr member => exact beq_iff_eq.1 (used _ member)

theorem opened_of_knows (sound : Sound setup c held) {n : Nat} (known : c.Knows n) :
    .opened n ∈ c.around.journal := by
  obtain ⟨accepted, rest, begun, -⟩ := sound.history n known
  have member : .opened n ∈ c.around.history n := by
    rw [begun]
    exact List.mem_cons_self
  exact (List.mem_filter.1 member).1

/-- No connection is refused twice, because none is prepared twice. -/
theorem nodup_refusals (sound : Sound setup c held) : c.around.refusals.Nodup := by
  rw [List.nodup_iff_count]
  intro n
  -- What was refused on the connection is part of its history.
  have counted : c.around.refusals.count n =
      (c.around.history n).countP fun h => h.refused? == some n := by
    rw [Surroundings.refusals, List.count_filterMap, Surroundings.history, List.countP_filter]
    refine List.countP_congr fun h _ => ?_
    cases h with
    | prepared link accepted =>
      cases accepted <;> simp [Happening.refused?, Happening.link?]
    | _ => simp [Happening.refused?]
  rw [counted]
  by_cases known : c.Knows n
  · obtain ⟨accepted, rest, begun, used⟩ := sound.history n known
    have once : (creation setup n accepted).countP (fun h => h.refused? == some n) ≤ 1 := by
      cases accepted <;> simp [creation, Happening.refused?]
    have never : rest.countP (fun h => h.refused? == some n) = 0 :=
      List.countP_eq_zero.2 fun h member => by simp [Happening.refused?_of_isUse (used h member)]
    rw [begun, List.countP_append]
    omega
  · rw [history_of_not_knows known]
    exact Nat.zero_le _

end Sound

/-! ## What a client does -/

/-- Borrowing never fails because of what was answered to the statement of a new session. -/
theorem Sound.acquired {setup : SessionSetup} {c : Client} {held : List Link}
    (sound : Sound setup c held) :
    After acquire c fun r c' => Sound setup c' ((r.toOption.map Lent.link).toList ++ held) := by
  refine (acquire_lending c).mono ?_
  intro r c' lending
  cases lending with
  | @refused hs left _ e checked goes =>
    -- Nothing but checks has happened, and fewer connections may be at rest.
    have kept := sound.regroup { c.pool with idle := left } held fun link among =>
      ⟨link, among.imp_left (checked.left link), rfl, rfl⟩
    exact kept.use goes (sound.allows_of_checked checked)
  | @again hs left old lent _ checked atRest resembles goes =>
    have kept := sound.regroup { c.pool with idle := left, lent := c.pool.lent + 1 }
      (lent.link :: held) fun link among => by
        cases among with
        | inl among => exact ⟨link, .inl (checked.left link among), rfl, rfl⟩
        | inr among =>
          cases among with
          | head => exact ⟨old, .inl atRest, resembles⟩
          | tail _ among => exact ⟨link, .inr among, rfl, rfl⟩
    refine kept.use goes fun h member => ?_
    cases List.mem_append.1 member with
    | inl member => exact sound.allows_of_checked checked h member
    | inr member =>
      cases List.mem_singleton.1 member
      refine ⟨beq_iff_eq.2 (kept.timed lent.link (.inr List.mem_cons_self)), fun n about => ?_⟩
      exact Option.some.inj about ▸ kept.known lent.link (.inr List.mem_cons_self)
  | @first hs left c₁ result lent _ checked gone number used timing goes =>
    -- `result` is arbitrary here: the connection is lent whether it is an error or not.
    have kept := sound.use gone (sound.allows_of_checked checked)
    have idle : c₁.pool.idle = c.pool.idle := congrArg Pool.idle gone.pool
    rw [← gone.setup] at timing goes
    exact kept.create number used timing (fun link among => idle ▸ checked.left link among) goes

theorem prepared_of_acquire_error (c : Client) :
    After acquire c fun r c' => ∀ e, r = .error e → ∀ n accepted,
      .prepared n accepted ∈ c'.around.journal → .prepared n accepted ∈ c.around.journal := by
  refine (acquire_lending c).mono ?_
  rintro r c' lending e rfl n accepted member
  obtain ⟨hs, journal, -, -, refused⟩ := lending.happenings
  rw [journal, List.mem_append] at member
  cases member with
  | inl member => exact member
  | inr member =>
    obtain ⟨_, same | same⟩ := refused e rfl _ member
    · cases same
    · cases same

theorem Sound.released {setup : SessionSetup} {c : Client} {held : List Link} {link : Link}
    (sound : Sound setup c (link :: held)) :
    After (release link) c fun _ c' => Sound setup c' held := by
  have known := sound.known link (.inr List.mem_cons_self)
  unfold release
  refine After.bind (record_goes _ c) fun _ c₁ returned => ?_
  have used := sound.use returned fun h member => by
    cases List.mem_singleton.1 member
    exact ⟨rfl, fun n about => Option.some.inj about ▸ known⟩
  refine used.regroup (c₁.pool.giveBack link) held fun other among => ?_
  cases among with
  | inl among =>
    rcases Pool.mem_idle_giveBack among with among | rfl
    · exact ⟨other, .inl among, rfl, rfl⟩
    · exact ⟨other, .inr List.mem_cons_self, rfl, rfl⟩
  | inr among => exact ⟨other, .inr (List.mem_cons_of_mem _ among), rfl, rfl⟩

theorem Sound.closed {setup : SessionSetup} {c : Client} {held : List Link}
    (sound : Sound setup c held) : After close c fun _ c' => Sound setup c' held := by
  refine After.bind (note_goes _ c) fun _ c₁ noted => ?_
  refine After.bind (record_goes .poolClosed c₁) fun _ c₂ closed => ?_
  have used := (sound.quiet noted).use closed fun h member => by
    cases List.mem_singleton.1 member
    exact ⟨rfl, nofun⟩
  exact used.regroup c₂.pool.close held fun link among => ⟨link, among.imp_left nofun, rfl, rfl⟩

/-- A borrowed connection is under the client's monitor already if it is ever to be. -/
theorem Sound.instrument_eq {setup : SessionSetup} {c : Client} {held : List Link} {link : Link}
    (sound : Sound setup c (link :: held)) :
    link.timed.instrument c.setup.monitor = (link.timed, false) :=
  SessionSetup.instrument_of_timing_eq
    ((sound.timed link (.inr List.mem_cons_self)).trans sound.setup_timing.symm)

theorem Sound.stable (setup : SessionSetup) : Stable (Sound setup) where
  quiet sound goes := sound.quiet goes
  fewer sound fewer := sound.subset fewer.subset
  worked sound work := sound.worked work
  instrumented sound := by
    rw [sound.instrument_eq]
    exact sound
  acquired sound := sound.acquired
  released sound := sound.released
  closed sound := sound.closed

end Client

end SchemaPool
