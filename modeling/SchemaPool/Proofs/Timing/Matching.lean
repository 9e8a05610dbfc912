import Mathlib.Data.List.Induction
import SchemaPool.Proofs.Timing.Reporting
import SchemaPool.Timing.Trace

/-! # Which start a finish belongs to

A timer keeps one queue for all statements under way, takes finished ones out of the
middle of it, and decides at the start of a statement whether it will be reported.  Seen
text by text it is a plain queue: what is under way of a text are its starts without as
many as have been finished (`TimerTrace.Tracks.queue`).

It follows that the finish number `k` of a text belongs to the start number `k` of that
text, however the statements of other texts come and go in between, and that only the
holders at that start matter (`TimerTrace.finish_answers_start`). -/

namespace SchemaPool

open SchemaPool.Sql (Label Query)

/-! ## Steps by the text they are about -/

namespace TimerStep

def started? : TimerStep → Option String
  | .start text => some (stripBinds text)
  | _ => none

def finished? : TimerStep → Option String
  | .finish text _ => some (stripBinds text)
  | _ => none

def nanos : TimerStep → Nat
  | .pass nanos => nanos
  | _ => 0

/-- How often statements of the text are started. -/
def starts (text : String) (steps : List TimerStep) : Nat :=
  steps.countP (·.started? == some text)

/-- How often statements of the text are finished. -/
def finishes (text : String) (steps : List TimerStep) : Nat :=
  steps.countP (·.finished? == some text)

def allStarts (steps : List TimerStep) : Nat := steps.countP (·.started?.isSome)

def allFinishes (steps : List TimerStep) : Nat := steps.countP (·.finished?.isSome)

def total : List TimerStep → Nat
  | [] => 0
  | x :: xs => x.nanos + total xs

@[simp] theorem total_append (xs ys : List TimerStep) : total (xs ++ ys) = total xs + total ys := by
  induction xs with
  | nil => exact (Nat.zero_add _).symm
  | cons x xs ih => rw [List.cons_append, total, total, ih, Nat.add_assoc]

/-- The nanoseconds that pass from the step at one position to the step at another. -/
def between (steps : List TimerStep) (first last : Nat) : Nat :=
  total ((steps.take last).drop first)

/-- The step at the position is the start number `k` of the text, counted from zero. -/
def IsStart (text : String) (k : Nat) (steps : List TimerStep) (position : Nat) : Prop :=
  (∃ step, steps[position]? = some step ∧ step.started? = some text) ∧
    starts text (steps.take position) = k

/-- The step at the position is the finish number `k` of the text, counted from zero. -/
def IsFinish (text : String) (k : Nat) (steps : List TimerStep) (position : Nat) : Prop :=
  (∃ step, steps[position]? = some step ∧ step.finished? = some text) ∧
    finishes text (steps.take position) = k

theorem IsStart.append {text : String} {k position : Nat} {steps : List TimerStep}
    (first : IsStart text k steps position) (more : List TimerStep) :
    IsStart text k (steps ++ more) position := by
  obtain ⟨⟨step, here, text⟩, count⟩ := first
  have inside : position < steps.length := (List.getElem?_eq_some_iff.1 here).1
  refine ⟨⟨step, ?_, text⟩, ?_⟩
  · rw [List.getElem?_append_left inside, here]
  · rw [List.take_append_of_le_length (Nat.le_of_lt inside), count]

end TimerStep

/-! ## Taking a statement out of the queue -/

namespace QueryTimer

/-- The statements of one text among those under way. -/
def ofText (text : String) (pending : List PendingStatement) : List PendingStatement :=
  pending.filter (·.text == text)

theorem ofText_append (text : String) (ps qs : List PendingStatement) :
    ofText text (ps ++ qs) = ofText text ps ++ ofText text qs :=
  List.filter_append ..

/-- A finish takes out the oldest statement of its text, and what is under way of any text
is otherwise as before. -/
theorem take?_of_ofText {text : String} {pending rest : List PendingStatement}
    {p : PendingStatement} (front : ofText text pending = p :: rest) :
    ∃ remaining, take? text pending = some (p, remaining) ∧ p.text = text ∧
      remaining.length + 1 = pending.length ∧
      ∀ other, ofText other remaining =
        if other = text then rest else ofText other pending := by
  -- No statement of the text is among those that are older than its first one.
  obtain ⟨older, younger, rfl, before, here, after⟩ := List.filter_eq_cons_iff.1 front
  have text_eq : p.text = text := by simpa using here
  have none_before : older.findIdx? (·.text == text) = none := by
    rw [List.findIdx?_eq_none_iff]
    intro q member
    simpa using before q member
  have position : (older ++ p :: younger).findIdx? (·.text == text) = some older.length := by
    rw [List.findIdx?_append, none_before, List.findIdx?_cons, here]
    simp
  refine ⟨older ++ younger, ?_, text_eq, ?_, ?_⟩
  · simp [take?, position, List.eraseIdx_append_of_length_le]
  · simp only [List.length_append, List.length_cons]
    omega
  · intro other
    rw [ofText_append]
    by_cases same : other = text
    · have nothing : ofText text older = [] := List.filter_eq_nil_iff.2 before
      rw [if_pos same, same, nothing, List.nil_append]
      exact after
    · have differs : (p.text == other) = false := by
        simpa [text_eq] using fun equal => same equal.symm
      rw [if_neg same, ofText_append]
      simp [ofText, differs]

end QueryTimer

/-! ## What is under way after some steps -/

namespace TimerTrace

open TimerStep (starts finishes allStarts allFinishes between IsStart IsFinish)
open QueryTimer (ofText)

theorem run_concat (s : TimerTrace) (xs : List TimerStep) (x : TimerStep) :
    s.run (xs ++ [x]) = (s.run xs).step x := by
  simp [run]

/-- The statement that a step starts, as it ought to be remembered: with the time, and to be
reported unless somebody holds the scope. -/
def begunBy (s : TimerTrace) : TimerStep → List PendingStatement
  | .start text => [⟨stripBinds text, s.timeline.now, s.guards.isEmpty⟩]
  | _ => []

/-- The statements that some steps start, finished or not. -/
def begun (s : TimerTrace) : List TimerStep → List PendingStatement
  | [] => []
  | x :: xs => s.begunBy x ++ (s.step x).begun xs

theorem begun_concat (s : TimerTrace) (xs : List TimerStep) (x : TimerStep) :
    s.begun (xs ++ [x]) = s.begun xs ++ (s.run xs).begunBy x := by
  induction xs generalizing s with
  | nil => simp [begun, run]
  | cons y ys ih => simp [begun, run, ih]

theorem length_ofText_begun (s : TimerTrace) (text : String) (xs : List TimerStep) :
    (ofText text (s.begun xs)).length = starts text xs := by
  induction xs generalizing s with
  | nil => rfl
  | cons x xs ih =>
    rw [begun, QueryTimer.ofText_append, List.length_append, ih, starts, starts,
      List.countP_cons, Nat.add_comm]
    cases x with
    | start t => by_cases same : stripBinds t = text <;> simp [begunBy, ofText,
        TimerStep.started?, same]
    | finish _ _ | pass _ | enter | leaveLast | leaveFirst | leaveAt _ => rfl

/-- The statement with a number among the statements of a text was started by the start of
that number, at that time and with those holders. -/
theorem start_of_begun {s : TimerTrace} {text : String} {xs : List TimerStep} {k : Nat}
    {p : PendingStatement} (numbered : (ofText text (s.begun xs))[k]? = some p) :
    ∃ j, j < xs.length ∧ IsStart text k xs j ∧ p.started = (s.run (xs.take j)).timeline.now ∧
      p.timed = (s.run (xs.take j)).guards.isEmpty := by
  -- The last step is split off, because the numbers count what comes before.
  induction xs using List.reverseRecOn with
  | nil => simp [begun, ofText] at numbered
  | append_singleton xs x ih =>
    rw [begun_concat, QueryTimer.ofText_append] at numbered
    by_cases earlier : k < (ofText text (s.begun xs)).length
    · rw [List.getElem?_append_left earlier] at numbered
      obtain ⟨j, inside, first, started, timed⟩ := ih numbered
      refine ⟨j, by simp only [List.length_append]; omega, first.append _, ?_⟩
      rw [List.take_append_of_le_length (Nat.le_of_lt inside)]
      exact ⟨started, timed⟩
    · rw [List.getElem?_append_right (Nat.le_of_not_lt earlier)] at numbered
      cases x with
      | start t =>
        by_cases same : stripBinds t = text
        · have here : ofText text ((s.run xs).begunBy (.start t)) =
              [⟨stripBinds t, (s.run xs).timeline.now, (s.run xs).guards.isEmpty⟩] := by
            simp [begunBy, ofText, same]
          rw [here, List.getElem?_singleton] at numbered
          split at numbered
          · next last =>
            have count : starts text xs = k := by
              rw [length_ofText_begun] at earlier last
              omega
            obtain rfl := Option.some.inj numbered
            refine ⟨xs.length, by simp, ⟨⟨.start t, by simp, ?_⟩, ?_⟩, ?_, ?_⟩
            · simp [TimerStep.started?, same]
            · simpa using count
            · simp
            · simp
          · cases numbered
        · simp [begunBy, ofText, same] at numbered
      | finish _ _ | pass _ | enter | leaveLast | leaveFirst | leaveAt _ =>
        simp [begunBy, ofText] at numbered

/-- How the timer of a trace stands after the given steps: the holders are those of the
trace, what is under way of a text are its starts without as many as have been finished, and
nothing has been forgotten. -/
structure Tracks (w : Monitor) (xs : List TimerStep) (s : TimerTrace) : Prop where
  monitor : s.timer.monitor = w
  holders : s.timer.holders = s.guards.length
  queue (text : String) : ofText text s.timer.pending =
    (ofText text ((begin w).begun xs)).drop (finishes text xs)
  size : s.timer.pending.length + allFinishes xs = allStarts xs
  clock : s.timeline.now = TimerStep.total xs

namespace Tracks

variable {w : Monitor} {xs : List TimerStep}

theorem start : Tracks w [] (begin w) := ⟨rfl, rfl, fun _ => rfl, rfl, rfl⟩

/-- A step that neither starts nor finishes a statement changes nothing about what is under
way. -/
theorem aside {s s' : TimerTrace} {x : TimerStep} (tracks : Tracks w xs s)
    (started : x.started? = none) (finished : x.finished? = none)
    (monitor : s'.timer.monitor = s.timer.monitor) (holders : s'.timer.holders = s'.guards.length)
    (pending : s'.timer.pending = s.timer.pending)
    (clock : s'.timeline.now = s.timeline.now + x.nanos) : Tracks w (xs ++ [x]) s' where
  monitor := monitor.trans tracks.monitor
  holders := holders
  queue text := by
    have nothing (a : TimerTrace) : a.begunBy x = [] := by
      cases x with
      | start _ => simp [TimerStep.started?] at started
      | finish _ _ | pass _ | enter | leaveLast | leaveFirst | leaveAt _ => rfl
    have same : finishes text (xs ++ [x]) = finishes text xs := by simp [finishes, finished]
    rw [pending, tracks.queue, begun_concat, nothing, List.append_nil, same]
  size := by
    have size := tracks.size
    simp only [allStarts, allFinishes, List.countP_append, List.countP_singleton, started, finished,
      pending] at size ⊢
    simpa using size
  clock := by
    rw [clock, tracks.clock]
    simp [TimerStep.total]

/-- A start is put behind the other statements under way, of which there are fewer than the
timer has room for. -/
theorem begins {s : TimerTrace} (tracks : Tracks w xs s) (run : s = (begin w).run xs)
    (matched : ∀ text, finishes text xs ≤ starts text xs)
    (room : allStarts (xs ++ [.start text]) ≤
      allFinishes (xs ++ [.start text]) + QueryTimer.capacity) :
    Tracks w (xs ++ [.start text]) (s.step (.start text)) := by
  have size := tracks.size
  have more : allStarts (xs ++ [.start text]) = allStarts xs + 1 := by
    simp [allStarts, TimerStep.started?]
  have same : allFinishes (xs ++ [.start text]) = allFinishes xs := by
    simp [allFinishes, TimerStep.finished?]
  -- So nothing is forgotten to make room.
  have spare : ¬ QueryTimer.capacity ≤ s.timer.pending.length := by omega
  have unheld : (!s.timer.isHeld) = s.guards.isEmpty := by
    rw [QueryTimer.isHeld, tracks.holders]
    cases s.guards <;> simp
  have behind : (s.step (.start text)).timer.pending = s.timer.pending ++ s.begunBy (.start text) := by
    simp [step, QueryTimer.start, spare, begunBy, unheld]
  refine ⟨tracks.monitor, tracks.holders, ?_, ?_, ?_⟩
  · intro other
    have finished : finishes other (xs ++ [.start text]) = finishes other xs := by
      simp [finishes, TimerStep.finished?]
    -- What is dropped for the finishes does not reach the new statement.
    have enough : finishes other xs ≤ (ofText other ((begin w).begun xs)).length := by
      rw [length_ofText_begun]
      exact matched other
    rw [behind, QueryTimer.ofText_append, tracks.queue, finished, begun_concat, ← run,
      QueryTimer.ofText_append, List.drop_append_of_le_length enough]
  · rw [behind, List.length_append, more, same, begunBy, List.length_singleton]
    omega
  · simpa [step, TimerStep.total, TimerStep.nanos] using tracks.clock

/-- What is under way of a text of which more is started than finished begins with the start
whose number is that of the next finish. -/
theorem front {s : TimerTrace} {text : String} (tracks : Tracks w xs s)
    (more : finishes text xs < starts text xs) :
    ∃ p, (ofText text ((begin w).begun xs))[finishes text xs]? = some p ∧
      ofText text s.timer.pending =
        p :: (ofText text ((begin w).begun xs)).drop (finishes text xs + 1) := by
  have inside : finishes text xs < (ofText text ((begin w).begun xs)).length := by
    rw [length_ofText_begun]
    exact more
  refine ⟨_, List.getElem?_eq_getElem inside, ?_⟩
  rw [tracks.queue, List.drop_eq_getElem_cons inside]

/-- A finish takes the front of its text out of what is under way and judges it. -/
theorem ends {s : TimerTrace} {text : String} (tracks : Tracks w xs s)
    (more : finishes (stripBinds text) xs < starts (stripBinds text) xs) (error : Option String) :
    Tracks w (xs ++ [.finish text error]) (s.step (.finish text error)) ∧
    ∃ p, (ofText (stripBinds text) ((begin w).begun xs))[finishes (stripBinds text) xs]? = some p ∧
      (s.step (.finish text error)).timeline.reports = s.timeline.reports ++
        (if p.timed then
          w.verdict (s.timeline.now - p.started) (.ofText (stripBinds text)) (.ofError error)
        else none).toList := by
  obtain ⟨p, numbered, front⟩ := tracks.front more
  obtain ⟨remaining, taken, text_eq, shorter, others⟩ := QueryTimer.take?_of_ofText front
  have finished : s.timer.finish s.timeline.now text error =
      ({ s.timer with pending := remaining },
        if p.timed then
          w.verdict (s.timeline.now - p.started) (.ofText (stripBinds text)) (.ofError error)
        else none) := by
    simp only [QueryTimer.finish, taken, Monitor.judge_ofNanos, tracks.monitor, text_eq]
    cases error <;> rfl
  refine ⟨⟨?_, ?_, ?_, ?_, ?_⟩, p, numbered, ?_⟩
  · simp only [step, finished]
    exact tracks.monitor
  · simp only [step, finished]
    exact tracks.holders
  · intro other
    have count : finishes other (xs ++ [.finish text error]) =
        finishes other xs + if stripBinds text = other then 1 else 0 := by
      simp [finishes, TimerStep.finished?, List.countP_singleton]
    simp only [step, finished, others other, count, begun_concat, begunBy, List.append_nil]
    by_cases same : other = stripBinds text
    · subst same
      simp
    · rw [if_neg same, if_neg (fun equal => same equal.symm), tracks.queue, Nat.add_zero]
  · have size := tracks.size
    have one : allFinishes (xs ++ [.finish text error]) = allFinishes xs + 1 := by
      simp [allFinishes, TimerStep.finished?]
    have none : allStarts (xs ++ [.finish text error]) = allStarts xs := by
      simp [allStarts, TimerStep.started?]
    simp only [step, finished, one, none]
    omega
  · simpa [step, finished, TimerStep.total, TimerStep.nanos] using tracks.clock
  · simp only [step, finished, Timeline.reports_deliver]

end Tracks

theorem holders_dropGuard {s : TimerTrace} (tracks : s.timer.holders = s.guards.length)
    (place : Nat) : (s.dropGuard place).timer.holders = (s.dropGuard place).guards.length := by
  rw [dropGuard]
  split
  · next inside => simp [QueryTimer.leave, List.length_eraseIdx, inside, tracks]
  · exact tracks

theorem pending_dropGuard (s : TimerTrace) (place : Nat) :
    (s.dropGuard place).timer.pending = s.timer.pending ∧
      (s.dropGuard place).timer.monitor = s.timer.monitor ∧
      (s.dropGuard place).timeline = s.timeline := by
  rw [dropGuard]
  split <;> exact ⟨rfl, rfl, rfl⟩

theorem Tracks.leaves {w : Monitor} {xs : List TimerStep} {s : TimerTrace} {x : TimerStep}
    (tracks : Tracks w xs s) (place : Nat) (step : s.step x = s.dropGuard place)
    (started : x.started? = none) (finished : x.finished? = none) (nanos : x.nanos = 0) :
    Tracks w (xs ++ [x]) (s.step x) := by
  obtain ⟨pending, monitor, timeline⟩ := pending_dropGuard s place
  rw [step]
  refine tracks.aside started finished monitor (holders_dropGuard tracks.holders place) pending ?_
  rw [timeline, nanos, Nat.add_zero]

/-- A run in which no text is finished more often than started, with no more statements under
way than the timer has room for. -/
structure Orderly (steps : List TimerStep) : Prop where
  matched (n : Nat) (text : String) : finishes text (steps.take n) ≤ starts text (steps.take n)
  room (n : Nat) :
    allStarts (steps.take n) ≤ allFinishes (steps.take n) + QueryTimer.capacity

namespace Orderly

variable {steps : List TimerStep}

theorem take_add_one {x : TimerStep} {i : Nat} (here : steps[i]? = some x) :
    steps.take (i + 1) = steps.take i ++ [x] := by
  rw [List.take_add_one, here, Option.toList_some]

theorem more {text : String} {error : Option String} {i : Nat} (orderly : Orderly steps)
    (here : steps[i]? = some (.finish text error)) :
    finishes (stripBinds text) (steps.take i) < starts (stripBinds text) (steps.take i) := by
  have matched := orderly.matched (i + 1) (stripBinds text)
  rw [take_add_one here] at matched
  simp only [finishes, starts, List.countP_append, List.countP_singleton, TimerStep.finished?,
    TimerStep.started?] at matched ⊢
  simp at matched
  omega

/-- At every position of an orderly run the timer stands as it should. -/
theorem tracks (orderly : Orderly steps) (w : Monitor) (i : Nat) :
    Tracks w (steps.take i) ((begin w).run (steps.take i)) := by
  induction i with
  | zero => exact .start
  | succ i ih =>
    cases here : steps[i]? with
    | none =>
      have done : steps.take (i + 1) = steps.take i := by
        rw [List.take_add_one, here, Option.toList_none, List.append_nil]
      rw [done]
      exact ih
    | some x =>
      have room := orderly.room (i + 1)
      rw [take_add_one here] at room ⊢
      rw [run_concat]
      cases x with
      | start text => exact ih.begins rfl (orderly.matched i) room
      | finish text error => exact (ih.ends (orderly.more here) error).1
      | pass nanos => exact ih.aside rfl rfl rfl ih.holders rfl rfl
      | enter =>
        refine ih.aside rfl rfl rfl ?_ rfl rfl
        simp [step, QueryTimer.enter, ih.holders]
      | leaveLast => exact ih.leaves _ rfl rfl rfl rfl
      | leaveFirst => exact ih.leaves _ rfl rfl rfl rfl
      | leaveAt place => exact ih.leaves _ rfl rfl rfl rfl

end Orderly

/-- It is enough to look at the positions of a run and at the texts that are finished in
it. -/
theorem orderly_iff {steps : List TimerStep} :
    Orderly steps ↔ ∀ n, n ≤ steps.length →
      (∀ text ∈ steps.filterMap TimerStep.finished?,
        finishes text (steps.take n) ≤ starts text (steps.take n)) ∧
      allStarts (steps.take n) ≤ allFinishes (steps.take n) + QueryTimer.capacity := by
  constructor
  · intro orderly n _
    exact ⟨fun text _ => orderly.matched n text, orderly.room n⟩
  · intro checked
    have within (n : Nat) : ∃ m, m ≤ steps.length ∧ steps.take n = steps.take m := by
      by_cases inside : n ≤ steps.length
      · exact ⟨n, inside, rfl⟩
      · refine ⟨steps.length, Nat.le_refl _, ?_⟩
        rw [List.take_of_length_le (Nat.le_of_not_le inside), List.take_length]
    refine ⟨fun n text => ?_, fun n => ?_⟩
    · obtain ⟨m, inside, same⟩ := within n
      rw [same]
      by_cases known : text ∈ steps.filterMap TimerStep.finished?
      · exact (checked m inside).1 text known
      · have never : finishes text (steps.take m) = 0 := by
          rw [finishes, List.countP_eq_zero]
          intro x member finished
          exact known (List.mem_filterMap.2
            ⟨x, List.mem_of_mem_take member, by simpa using finished⟩)
        omega
    · obtain ⟨m, inside, same⟩ := within n
      rw [same]
      exact (checked m inside).2

instance (steps : List TimerStep) : Decidable (Orderly steps) :=
  decidable_of_iff _ orderly_iff.symm

theorem between_eq (steps : List TimerStep) {j i : Nat} (before : j ≤ i) :
    between steps j i =
      TimerStep.total (steps.take i) - TimerStep.total (steps.take j) := by
  have split : steps.take j ++ (steps.take i).drop j = steps.take i := by
    have parts := List.take_append_drop j (steps.take i)
    rwa [List.take_take, Nat.min_eq_left before] at parts
  rw [between, ← congrArg TimerStep.total split, TimerStep.total_append]
  omega

/-- In an orderly run the statements under way are always as many as were started and not
finished.  The finish number `k` of a text answers the start number `k` of the same text: it
adds exactly the verdict on the time between the two, with the label of the text and its own
error, if nobody held the scope at that start, and nothing otherwise.  Holders that come or go
later do not matter, and no other step reports anything. -/
theorem finish_answers_start (w : Monitor) (steps : List TimerStep) (orderly : Orderly steps) :
    (∀ n, ((begin w).run (steps.take n)).timer.pending.length + allFinishes (steps.take n) =
      allStarts (steps.take n)) ∧
    (∀ i text error, steps[i]? = some (.finish text error) →
      ∃ j k, j < i ∧ IsStart (stripBinds text) k steps j ∧ IsFinish (stripBinds text) k steps i ∧
        ((begin w).run (steps.take (i + 1))).timeline.reports =
          ((begin w).run (steps.take i)).timeline.reports ++
            (if ((begin w).run (steps.take j)).guards.isEmpty then
              w.verdict (between steps j i) (.ofText (stripBinds text)) (.ofError error)
            else none).toList) ∧
    (∀ i x, steps[i]? = some x → x.finished? = none →
      ((begin w).run (steps.take (i + 1))).timeline.reports =
        ((begin w).run (steps.take i)).timeline.reports) := by
  refine ⟨fun n => (orderly.tracks w n).size, ?_, ?_⟩
  · intro i text error here
    have tracks := orderly.tracks w i
    obtain ⟨_, p, numbered, reports⟩ := tracks.ends (orderly.more here) error
    obtain ⟨j, inside, first, started, timed⟩ := start_of_begun numbered
    have before : j < i := Nat.lt_of_lt_of_le inside (List.length_take_le _ _)
    rw [List.take_take, Nat.min_eq_left (Nat.le_of_lt before)] at started timed
    refine ⟨j, _, before, ?_, ⟨⟨_, here, rfl⟩, rfl⟩, ?_⟩
    · -- The start was numbered among the steps before the finish.
      have whole := first.append (steps.drop i)
      rwa [List.take_append_drop] at whole
    · rw [Orderly.take_add_one here, run_concat, reports, tracks.clock, started, timed,
        (orderly.tracks w j).clock, between_eq steps (Nat.le_of_lt before)]
  · intro i x here unfinished
    rw [Orderly.take_add_one here, run_concat]
    cases x with
    | finish text error => simp [TimerStep.finished?] at unfinished
    | start _ | pass _ | enter => rfl
    | leaveLast | leaveFirst | leaveAt _ =>
      exact congrArg Timeline.reports (pending_dropGuard _ _).2.2

/-- Two statements of one text, the second of which starts while one of two holders is still
there. -/
def overlap : List TimerStep :=
  [.enter, .enter, .leaveFirst, .leaveLast, .start "SELECT 1", .enter, .enter, .leaveAt 0,
    .start "SELECT 1 -- binds: [2]", .start "SELECT 2", .leaveLast, .pass 60000000,
    .finish "SELECT 2" none, .finish "SELECT 1" none, .finish "SELECT 1" (some "late")]

/-- The second finish answers the second start, whose holder has left in between. -/
theorem finish_answers_start_of_overlap :
    Orderly overlap ∧ IsStart "SELECT 1" 1 overlap 8 ∧
      ∃ j k, j < 14 ∧ IsStart (stripBinds "SELECT 1") k overlap j ∧
        IsFinish (stripBinds "SELECT 1") k overlap 14 ∧
        ((begin ⟨⟨50⟩, .collector 0⟩).run (overlap.take (14 + 1))).timeline.reports =
          ((begin ⟨⟨50⟩, .collector 0⟩).run (overlap.take 14)).timeline.reports ++
            (if ((begin ⟨⟨50⟩, .collector 0⟩).run (overlap.take j)).guards.isEmpty then
              Monitor.verdict ⟨⟨50⟩, .collector 0⟩ (between overlap j 14) (.ofText (stripBinds "SELECT 1"))
                (.ofError (some "late"))
            else none).toList := by
  have orderly : Orderly overlap := by decide +kernel
  have second : IsStart "SELECT 1" 1 overlap 8 := ⟨⟨_, rfl, by decide +kernel⟩, by decide +kernel⟩
  exact ⟨orderly, second,
    (finish_answers_start ⟨⟨50⟩, .collector 0⟩ overlap orderly).2.1 14 "SELECT 1" (some "late") rfl⟩

end TimerTrace

end SchemaPool
