import SchemaPool.Proofs.Client.Invariant

/-! # The sessions of a pool

Users borrow, work, give back and close in any order, on connections that may be lost at any
time, with a database that may refuse any statement.  The client's invariant holds of every scene
that they can bring about, with the connections in their slots among those that are held
(`Reachable.sound`).  Hence the sessions of these connections have been prepared once each
(`Reachable.sessions_prepared_once`). -/

namespace SchemaPool

namespace UserScene

/-- The session's setup that the settings ask for has prepared every session. -/
theorem Reachable.sound {settings : Settings} {reporter : Reporter} {server : Server}
    {s : UserScene} (reachable : Reachable settings reporter server s) :
    ∃ setup, Client.setupFor settings reporter = .ok setup ∧
      s.client.Sound setup s.held := by
  have started : ∃ setup, Client.setupFor settings reporter = .ok setup := by
    induction reachable with
    | start ready =>
      obtain ⟨setup, _, -, asked, -, -⟩ := Client.connect_ready ready
      exact ⟨setup, asked⟩
    | step x before ih => exact ih
  obtain ⟨setup, asked⟩ := started
  refine ⟨setup, asked, reachable.holds (Client.Sound.stable setup) fun other asked' => ?_⟩
  obtain rfl : setup = other := Except.ok.inj (asked.symm.trans asked')
  have unrefused : setup.failures = 0 := (Client.setupFor_ok asked).2.2.2
  -- Nothing has happened to any connection when the start begins.
  refine ⟨?_, nofun, nofun, nofun, nofun⟩
  cases setup
  cases unrefused
  rfl

/-- In every scene that users can bring about, every connection that was ever opened had its
session prepared exactly once by the setup that the settings ask for, before its first borrower
got it, and was then lent whether its session's statement had been accepted or refused.  It is
timed by the client's own monitor just if the threshold is not zero.  The failures that the
client counts are the connections whose statement was refused, and borrowing that fails has
prepared no session at all. -/
theorem Reachable.sessions_prepared_once {settings : Settings} {reporter : Reporter}
    {server : Server} {s : UserScene} (reachable : Reachable settings reporter server s) :
    let c := s.client
    let monitor : Monitor := { settings.monitor with reporter }
    (settings.schemaName = .ok c.setup.schema ∧
      c.setup.schema.searchPathStatement = .ok c.setup.statement ∧ c.setup.monitor = monitor) ∧
    (∀ n, .opened n ∈ c.around.journal → ∃ accepted timing rest,
      c.around.history n = .opened n :: .sent n c.setup.statement :: .prepared n accepted ::
        .lent n timing :: rest ∧
      ∀ h ∈ rest, h ≠ .opened n ∧ ∀ again, h ≠ .prepared n again) ∧
    (∀ n timing, .lent n timing ∈ c.around.journal → .opened n ∈ c.around.journal ∧
      (timing = .driver monitor ↔ settings.slowQuery.millis ≠ 0)) ∧
    (∀ link, link ∈ s.held ∨ link ∈ c.pool.idle → .opened link.number ∈ c.around.journal ∧
      (link.timed.timing = .driver monitor ↔ settings.slowQuery.millis ≠ 0)) ∧
    c.setup.failures = c.around.refusals.length ∧ c.around.refusals.Nodup ∧
    (∀ n, n ∈ c.around.refusals ↔ .prepared n false ∈ c.around.journal) ∧
    ∀ e, (Client.acquire c).1 = .error e → ∀ n accepted,
      .prepared n accepted ∈ (Client.acquire c).2.around.journal →
        .prepared n accepted ∈ c.around.journal := by
  obtain ⟨setup, asked, sound⟩ := reachable.sound
  have sound : s.client.Sound setup s.held := sound
  obtain ⟨named, stated, monitor, -⟩ := Client.setupFor_ok asked
  have timed : setup.timing = .driver { settings.monitor with reporter } ↔
      settings.slowQuery.millis ≠ 0 := by
    have driver := setup.timing_eq_driver_iff
    rwa [monitor] at driver
  refine ⟨?_, ?_, ?_, ?_, ?_, sound.nodup_refusals, ?_, ?_⟩
  · rw [sound.counted]
    exact ⟨named, stated, monitor⟩
  -- the history of each connection
  · intro n opened
    obtain ⟨accepted, rest, begun, used⟩ := sound.history n ⟨_, opened, rfl⟩
    refine ⟨accepted, setup.timing, rest, ?_, ?_⟩
    · rw [begun, sound.counted]
      rfl
    · rintro h member
      refine ⟨?_, fun again => ?_⟩
      · rintro rfl
        cases used _ member
      · rintro rfl
        cases used _ member
  -- each loan
  · intro n timing lent
    rw [sound.timing_of_lent lent]
    exact ⟨sound.opened_of_knows ⟨_, lent, rfl⟩, timed⟩
  -- each connection in a slot or at rest
  · intro link member
    have known := sound.known link member.symm
    rw [sound.timed link member.symm]
    exact ⟨sound.opened_of_knows known, timed⟩
  · rw [sound.counted]
  · intro n
    exact Client.mem_refusals
  · exact Client.prepared_of_acquire_error s.client

/-- The session's statement is refused once on the first connection, and always on the second. -/
def reluctant : Server :=
  .ofScript []
    [⟨"search_path", none, some 1, ⟨0, .refused ⟨"42501", "denied"⟩, false⟩⟩,
      ⟨"search_path", some 1, none, ⟨0, .refused ⟨"42501", "denied"⟩, false⟩⟩]

/-- The first connection serves the start and is lent again to the first user. -/
theorem sessions_prepared_once_of_reluctant : ∃ client,
    Client.connect
        { Settings.new "postgres://localhost/app" with schema := "sales", slowQuery := ⟨50⟩ } .log
        (.ofServer reluctant) = .ready client ∧
    let s := (step (.borrow "b" .nothing) (step (.borrow "a" .nothing) ⟨client, []⟩).2).2
    s.client.around.refusals = [0, 1] ∧ s.client.setup.failures = 2 := by
  have refused : (Client.connect
      { Settings.new "postgres://localhost/app" with schema := "sales", slowQuery := ⟨50⟩ } .log
      (.ofServer reluctant)).client?.map (fun client => (step (.borrow "b" .nothing)
        (step (.borrow "a" .nothing) ⟨client, []⟩).2).2.client.around.refusals) = some [0, 1] := by
    decide +kernel
  obtain ⟨client, handed, refusals⟩ := Option.map_eq_some_iff.1 refused
  have ready := Opening.client?_eq_some.1 handed
  have reachable := ((Reachable.start ready).step (.borrow "a" .nothing)).step (.borrow "b" .nothing)
  obtain ⟨-, -, -, -, failures, -⟩ := reachable.sessions_prepared_once
  exact ⟨client, ready, refusals, failures.trans (congrArg List.length refusals)⟩

end UserScene

end SchemaPool
