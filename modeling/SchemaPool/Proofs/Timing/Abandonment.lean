import SchemaPool.Proofs.Timing.Remembering

/-! # Statements that are never finished

On a connection that runs one statement at a time a statement may be abandoned: the next one
is started and no finish of the first ever comes.  The timer goes on remembering it, until a
finish of another statement answers it or a start drops it.

The statement that runs is always the newest that is remembered
(`TimerTrace.remembered_of_running`), and every other remembered start has a text of which a
statement has been abandoned (`TimerTrace.remembered_of_abandoned`).  So a finish answers its
own start unless an older start of the same text is still remembered, and abandoned statements
of other texts never matter (`TimerTrace.finish_answers_oldest_of_text`). -/

namespace SchemaPool

namespace TimerTrace

/-- The statement that runs after the first steps when there is one at a time: the last that
was started, unless something has been finished since. -/
def running? (steps : List TimerStep) : Nat → Option StartAt
  | 0 => none
  | n + 1 =>
    match steps[n]? with
    | some (.start text) => some ⟨n, stripBinds text⟩
    | some (.finish _ _) => none
    | _ => running? steps n

/-- One statement at a time: what is finished is the statement that runs.  Another may be
started before that. -/
def OneAtATime (steps : List TimerStep) : Prop :=
  ∀ i < steps.length, ∀ text ∈ steps[i]?.bind TimerStep.finished?,
    ∃ own ∈ running? steps i, own.text = text

instance (steps : List TimerStep) : Decidable (OneAtATime steps) :=
  inferInstanceAs (Decidable (∀ i < steps.length, _))

/-- The step at the position starts another statement while `b` runs. -/
def AbandonedAt (steps : List TimerStep) (position : Nat) (b : StartAt) : Prop :=
  running? steps position = some b ∧ ∃ text, steps[position]? = some (.start text)

section Running

variable {steps : List TimerStep} {n : Nat}

theorem OneAtATime.running {text : String} {error : Option String} (serial : OneAtATime steps)
    (here : steps[n]? = some (.finish text error)) :
    ∃ own, running? steps n = some own ∧ own.text = stripBinds text := by
  have inside : n < steps.length := (List.getElem?_eq_some_iff.1 here).1
  exact serial n inside (stripBinds text) (by rw [here]; rfl)

theorem running?_start {text : String} (here : steps[n]? = some (.start text)) :
    running? steps (n + 1) = some ⟨n, stripBinds text⟩ := by
  rw [running?, here]

theorem running?_finish {text : String} {error : Option String}
    (here : steps[n]? = some (.finish text error)) : running? steps (n + 1) = none := by
  rw [running?, here]

theorem running?_aside {x : TimerStep} (here : steps[n]? = some x) (started : x.started? = none)
    (finished : x.finished? = none) : running? steps (n + 1) = running? steps n := by
  rw [running?, here]
  cases x with
  | start _ => simp [TimerStep.started?] at started
  | finish _ _ => simp [TimerStep.finished?] at finished
  | pass _ | enter | leaveLast | leaveFirst | leaveAt _ => rfl

/-! ## What is remembered beside the statement that runs -/

/-- However many statements have been abandoned before it, the statement that runs is
remembered, as the newest of all. -/
theorem remembered_of_running {own : StartAt} (runs : running? steps n = some own) :
    (remembered steps n).getLast? = some own := by
  induction n with
  | zero => simp [running?] at runs
  | succ n ih =>
    cases here : steps[n]? with
    | none =>
      simp only [running?, here] at runs
      simpa only [remembered, here] using ih runs
    | some x =>
      cases x with
      | start text =>
        rw [running?_start here] at runs
        obtain rfl := Option.some.inj runs
        have room : ¬ (remembered steps n).length + 1 ≤
            (remembered steps n).length + 1 - QueryTimer.capacity := by
          have positive : 0 < QueryTimer.capacity := by decide
          omega
        rw [remembered_start here, List.rtake, List.getLast?_drop, List.length_append,
          List.length_singleton, if_neg room, List.getLast?_concat]
      | finish text error => simp [running?_finish here] at runs
      | pass _ | enter | leaveLast | leaveFirst | leaveAt _ =>
        rw [running?_aside here rfl rfl] at runs
        rw [remembered_aside here rfl rfl]
        exact ih runs

/-- Whatever else is remembered has a text of which a statement was abandoned.  It need not be
that statement: a finish that answers an abandoned start leaves its own behind. -/
theorem remembered_of_abandoned {b : StartAt} (serial : OneAtATime steps)
    (member : b ∈ remembered steps n) :
    running? steps n = some b ∨ ∃ m < n, ∃ c, AbandonedAt steps m c ∧ c.text = b.text := by
  induction n generalizing b with
  | zero => cases member
  | succ n ih =>
    -- What was abandoned earlier was abandoned by now.
    have earlier (b : StartAt) (old : ∃ m < n, ∃ c, AbandonedAt steps m c ∧ c.text = b.text) :
        ∃ m < n + 1, ∃ c, AbandonedAt steps m c ∧ c.text = b.text := by
      obtain ⟨m, before, abandoned⟩ := old
      exact ⟨m, Nat.lt_succ_of_lt before, abandoned⟩
    cases here : steps[n]? with
    | none =>
      simp only [remembered, running?, here] at member ⊢
      exact (ih member).imp_right (earlier b)
    | some x =>
      cases x with
      | start text =>
        rcases mem_remembered_succ member with old | ⟨_, started, rfl⟩
        · rcases ih old with runs | abandoned
          · exact .inr ⟨n, Nat.lt_succ_self n, b, ⟨runs, text, here⟩, rfl⟩
          · exact .inr (earlier b abandoned)
        · exact .inl (running?_start started)
      | finish text error =>
        rw [remembered_finish here, List.mem_filter] at member
        obtain ⟨old, unanswered⟩ := member
        rcases ih old with runs | abandoned
        · -- Its own finish has passed the statement over for an older one of its text.
          obtain ⟨own, runs', own_text⟩ := serial.running here
          obtain rfl : b = own := Option.some.inj (runs.symm.trans runs')
          obtain ⟨first, answer, -, first_mem, first_text⟩ := answered?_of_mem old own_text
          rcases ih first_mem with also | ⟨m, before, c, abandoned, text_eq⟩
          · obtain rfl : b = first := Option.some.inj (runs.symm.trans also)
            simp [answer] at unanswered
          · exact .inr ⟨m, Nat.lt_succ_of_lt before, c, abandoned,
              by rw [text_eq, first_text, own_text]⟩
        · exact .inr (earlier b abandoned)
      | pass _ | enter | leaveLast | leaveFirst | leaveAt _ =>
        rw [remembered_aside here rfl rfl] at member
        rw [running?_aside here rfl rfl]
        exact (ih member).imp_right (earlier b)

/-! ## Older and newer starts -/

theorem eq_of_position_eq {b c : StartAt} (left : b ∈ remembered steps n)
    (right : c ∈ remembered steps n) (same : b.position = c.position) : b = c := by
  obtain ⟨-, t, here, text⟩ := start_of_remembered left
  obtain ⟨-, u, there, text'⟩ := start_of_remembered right
  rw [same, there] at here
  obtain rfl : u = t := by simpa using here
  cases b
  cases c
  simp_all

/-- The start that is found first among those of a text is the oldest of them. -/
theorem position_le_of_find? {text : String} {first b : StartAt}
    (found : (remembered steps n).find? (·.text == text) = some first)
    (member : b ∈ remembered steps n) (text_eq : b.text = text) : first.position ≤ b.position := by
  obtain ⟨-, older, younger, split, before⟩ := List.find?_eq_some_iff_append.1 found
  have ordered := remembered_ordered steps n
  rw [split, List.pairwise_append, List.pairwise_cons] at ordered
  rw [split, List.mem_append, List.mem_cons] at member
  rcases member with old | rfl | young
  · exact absurd text_eq (by simpa using before b old)
  · exact Nat.le_refl _
  · exact Nat.le_of_lt (ordered.2.1.1 b young)

theorem position_le_of_getLast? {own b : StartAt}
    (newest : (remembered steps n).getLast? = some own) (member : b ∈ remembered steps n) :
    b.position ≤ own.position := by
  obtain ⟨older, split⟩ := List.getLast?_eq_some_iff.1 newest
  have ordered := remembered_ordered steps n
  rw [split, List.pairwise_append] at ordered
  rw [split, List.mem_append, List.mem_singleton] at member
  rcases member with old | rfl
  · exact Nat.le_of_lt (ordered.2.2 b old own (List.mem_singleton.2 rfl))
  · exact Nat.le_refl _

end Running

/-! ## What a finish reports -/

/-- On a connection that runs one statement at a time every finish answers the oldest start of
its text that the timer remembers: it reports just what a statement started there and
finished now is to report.  Its own start is always among them, as the newest, and is the one
that is answered just if no other start of its text is remembered; so it is if no statement of
that text has been abandoned before.  No other step reports anything.

What the timer remembers are, in their order, just the starts so far that no finish has answered
and no start has dropped. -/
theorem finish_answers_oldest_of_text (w : Monitor) (steps : List TimerStep)
    (serial : OneAtATime steps) :
    (∀ i text error, steps[i]? = some (.finish text error) →
      ∃ own first, running? steps i = some own ∧ own.text = stripBinds text ∧
        (remembered steps i).getLast? = some own ∧ first ∈ remembered steps i ∧
        first.text = own.text ∧
        (∀ b ∈ remembered steps i, b.text = own.text →
          first.position ≤ b.position ∧ b.position ≤ own.position) ∧
        AnsweredAt steps i first ∧ Ends w steps first i error ∧
        (first = own ↔ ∀ b ∈ remembered steps i, b.text = own.text → b = own) ∧
        ((∀ m < i, ∀ c, AbandonedAt steps m c → c.text ≠ own.text) → first = own)) ∧
    (∀ i x, steps[i]? = some x → x.finished? = none →
      ((begin w).run (steps.take (i + 1))).timeline.reports =
        ((begin w).run (steps.take i)).timeline.reports) ∧
    ∀ n ≤ steps.length,
      ((begin w).run (steps.take n)).timer.pending =
        (remembered steps n).map (statementOf w steps) ∧
      (remembered steps n).Pairwise (·.position < ·.position) ∧
      ∀ b, b ∈ remembered steps n ↔
        (b.position < n ∧
          ∃ text, steps[b.position]? = some (.start text) ∧ b.text = stripBinds text) ∧
        ∀ m < n, ¬AnsweredAt steps m b ∧ ¬DroppedAt steps m b := by
  refine ⟨fun i text error here => ?_, fun i x here => reports_aside w here, fun n inside =>
    ⟨(remembers w steps n inside).pending, remembered_ordered steps n, fun _ =>
      mem_remembered_iff⟩⟩
  obtain ⟨own, runs, own_text⟩ := serial.running here
  have newest := remembered_of_running runs
  have member : own ∈ remembered steps i := List.mem_of_getLast? newest
  obtain ⟨first, answer, found, first_mem, first_text⟩ := answered?_of_mem member own_text
  have ordered (b : StartAt) (known : b ∈ remembered steps i) (text_eq : b.text = own.text) :
      first.position ≤ b.position ∧ b.position ≤ own.position :=
    ⟨position_le_of_find? found known (text_eq.trans own_text),
      position_le_of_getLast? newest known⟩
  have same_text : first.text = own.text := first_text.trans own_text.symm
  refine ⟨own, first, runs, own_text, newest, first_mem, same_text, ordered,
    ⟨text, error, here, answer⟩, ends_of_finish w here answer first_mem, ⟨?_, ?_⟩, ?_⟩
  · -- When the oldest is the newest there is nothing between them.
    rintro rfl b known text_eq
    have bounds := ordered b known text_eq
    exact eq_of_position_eq known member (Nat.le_antisymm bounds.2 bounds.1)
  · exact fun alone => alone first first_mem same_text
  · intro kept
    rcases remembered_of_abandoned serial first_mem with also | ⟨m, before, c, abandoned, text_eq⟩
    · exact Option.some.inj (also.symm.trans runs)
    · exact absurd (text_eq.trans same_text) (kept m before c abandoned)

/-- A statement is abandoned inside a labelled unit, one of another text is finished, and one
of the same text is finished after 50 milliseconds. -/
def interrupted : List TimerStep :=
  [.enter, .start "SELECT 1", .leaveLast, .pass 60000000, .start "SELECT 2",
    .finish "SELECT 2" none, .start "SELECT 1 -- binds: [7]", .pass 50000000,
    .finish "SELECT 1 -- binds: [7]" none]

/-- The last finish answers the start inside the unit, and so reports nothing; its own start is
remembered beyond it. -/
theorem finish_answers_oldest_of_text_of_interrupted :
    OneAtATime interrupted ∧ running? interrupted 8 = some ⟨6, "SELECT 1"⟩ ∧
      Ends ⟨⟨50⟩, .collector 0⟩ interrupted ⟨1, "SELECT 1"⟩ 8 none ∧
      (∀ m < 9, ¬AnsweredAt interrupted m ⟨6, "SELECT 1"⟩) ∧
      ((begin ⟨⟨50⟩, .collector 0⟩).run interrupted).timer.pending =
        [⟨"SELECT 1", 60000000, true⟩] := by
  have serial : OneAtATime interrupted := by decide +kernel
  have runs : running? interrupted 8 = some ⟨6, "SELECT 1"⟩ := by decide +kernel
  have known : remembered interrupted 8 = [⟨1, "SELECT 1"⟩, ⟨6, "SELECT 1"⟩] := by decide +kernel
  have left : remembered interrupted 9 = [⟨6, "SELECT 1"⟩] := by decide +kernel
  obtain ⟨finishes, -, stands⟩ :=
    finish_answers_oldest_of_text ⟨⟨50⟩, .collector 0⟩ interrupted serial
  obtain ⟨own, first, runs', -, -, member, -, ordered, -, ends, -⟩ := finishes 8 _ none rfl
  obtain rfl : own = ⟨6, "SELECT 1"⟩ := Option.some.inj (runs'.symm.trans runs)
  have oldest := (ordered ⟨1, "SELECT 1"⟩ (by simp [known]) rfl).1
  obtain ⟨pending, -, kept⟩ := stands 9 (by decide)
  refine ⟨serial, runs, ?_, fun m before => (((kept _).1 (by simp [left])).2 m before).1, ?_⟩
  · rw [known] at member
    rcases List.mem_cons.1 member with rfl | last
    · exact ends
    · rw [List.mem_singleton.1 last] at oldest
      exact absurd oldest (by decide)
  · rw [show interrupted = interrupted.take 9 from rfl, pending, left]
    decide +kernel

/-- The finish of a statement that has just been started is taken for the end of one that was
abandoned 60 milliseconds ago. -/
theorem finish_mistakes_abandoned_start :
    let steps : List TimerStep :=
      [.start "SELECT 1", .pass 60000000, .start "SELECT 1", .finish "SELECT 1" none]
    OneAtATime steps ∧ running? steps 3 = some ⟨2, "SELECT 1"⟩ ∧
      lateness ⟨⟨50⟩, .collector 0⟩ steps ⟨2, "SELECT 1"⟩ 3 none = [] ∧
      ¬ Ends ⟨⟨50⟩, .collector 0⟩ steps ⟨2, "SELECT 1"⟩ 3 none ∧
      ((begin ⟨⟨50⟩, .collector 0⟩).run steps).timeline.reports =
        [⟨.collector 0, ⟨60, ⟨"SELECT"⟩, .completed none⟩⟩] := by
  simp only [Ends]
  decide +kernel

end TimerTrace

end SchemaPool
