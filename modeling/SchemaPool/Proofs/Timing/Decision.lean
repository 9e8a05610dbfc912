import SchemaPool.Timing.Monitor
import SchemaPool.Timing.Timeline

/-! # The decision on one query

A query is slow when its whole milliseconds reach the threshold, and the milliseconds that are
reported of it bear that out.  The decision is taken on seconds and nanoseconds and the report
cuts off at the greatest number of 64 bits, but the two never disagree
(`Monitor.record_reports_whole_millis`). -/

namespace SchemaPool

open SchemaPool.Sql (Query)

/-! ## Which times are slow -/

namespace Threshold

variable {t : Threshold} {elapsed : Duration}

/-- No part of a millisecond makes a difference. -/
theorem isExceededBy_iff_millis :
    t.isExceededBy elapsed = true ↔
      0 < t.millis.toNat ∧ t.millis.toNat ≤ elapsed.toNanos / 1000000 := by
  rw [isExceededBy_iff, Nat.le_div_iff_mul_le (by simp)]

theorem toNat_millis_le (t : Threshold) : t.millis.toNat ≤ Text.maxWord :=
  Nat.le_of_lt_succ t.millis.toNat_lt

theorem isEnabled_iff : t.isEnabled = true ↔ 0 < t.millis.toNat := by
  simp [isEnabled, UInt64.lt_iff_toNat_lt]

/-- What takes longer than something slow is slow. -/
theorem isExceededBy_of_longer {longer : Duration} (more : elapsed.toNanos ≤ longer.toNanos)
    (slow : t.isExceededBy elapsed = true) : t.isExceededBy longer = true := by
  obtain ⟨positive, reached⟩ := (isExceededBy_iff t elapsed).1 slow
  exact (isExceededBy_iff t longer).2 ⟨positive, Nat.le_trans reached more⟩

/-- What is slow under a threshold is slow under every lower one that enables reporting. -/
theorem isExceededBy_of_lower {lower : Threshold} (enabled : lower.isEnabled = true)
    (less : lower.millis ≤ t.millis) (slow : t.isExceededBy elapsed = true) :
    lower.isExceededBy elapsed = true := by
  obtain ⟨-, reached⟩ := isExceededBy_iff_millis.1 slow
  exact isExceededBy_iff_millis.2
    ⟨isEnabled_iff.1 enabled, Nat.le_trans (UInt64.le_iff_toNat_le.1 less) reached⟩

end Threshold

/-! ## What is reported -/

namespace Monitor

theorem judge_eq (w : Monitor) (query : Query) (elapsed : Duration) (outcome : Outcome) :
    w.judge query elapsed outcome =
      if w.threshold.isExceededBy elapsed then
        some ⟨w.reporter, ⟨reportedMillis elapsed, query.label, outcome⟩⟩
      else none := by
  rw [judge, record]
  split <;> rfl

theorem toNat_ofNat_min (n : Nat) :
    (UInt64.ofNat (min n Text.maxWord)).toNat = min n Text.maxWord :=
  UInt64.toNat_ofNat_of_lt' (Nat.lt_succ_of_le (Nat.min_le_right n Text.maxWord))

theorem toNat_reportedMillis (elapsed : Duration) :
    (reportedMillis elapsed).toNat = min (elapsed.toNanos / 1000000) Text.maxWord := by
  rw [reportedMillis, Duration.toMillis_eq, toNat_ofNat_min]

/-- The decision is taken on nanoseconds, and the whole milliseconds that are reported bear it
out, also where they no longer fit. -/
theorem le_reportedMillis_iff {t : Threshold} (enabled : t.isEnabled = true) (elapsed : Duration) :
    t.millis ≤ reportedMillis elapsed ↔ t.isExceededBy elapsed = true := by
  rw [Threshold.isExceededBy_iff_millis, UInt64.le_iff_toNat_le, toNat_reportedMillis, Nat.le_min]
  constructor
  · intro slow
    exact ⟨Threshold.isEnabled_iff.1 enabled, slow.1⟩
  · intro slow
    exact ⟨slow.2, t.toNat_millis_le⟩

section

variable {σ : Type} (w : Monitor) (query : Query) (elapsed : Duration) (ask : StateM σ Outcome)
  (s : σ)

/-- The outcome of a slow query is asked for once. -/
theorem record_of_slow (slow : w.threshold.isExceededBy elapsed = true) :
    w.record query elapsed ask s =
      (some ⟨w.reporter, ⟨reportedMillis elapsed, query.label, (ask s).1⟩⟩, (ask s).2) := by
  rw [record, if_pos slow]
  rfl

/-- The outcome of any other query is not asked for. -/
theorem record_of_quick (quick : ¬ w.threshold.isExceededBy elapsed = true) :
    w.record query elapsed ask s = (none, s) := by
  rw [record, if_neg quick]
  rfl

/-- A query is reported just if reporting is enabled and its whole milliseconds reach the
threshold.  Then there is one report on it and its outcome is asked for once; otherwise there is
no report and the outcome is not asked for.  The reported milliseconds are the whole ones or, if
those need more than 64 bits, the greatest number of 64 bits, and they reach the threshold in
either case.  What takes longer is slow too, and so it is under a lower threshold that enables
reporting. -/
theorem record_reports_whole_millis (line : Timeline) :
    let whole := elapsed.toNanos / 1000000
    let slow := 0 < w.threshold.millis.toNat ∧ w.threshold.millis.toNat ≤ whole
    let recorded := w.record query elapsed ask s
    (slow → ∃ millis : UInt64, millis.toNat = min whole (UInt64.size - 1) ∧
      w.threshold.millis ≤ millis ∧
      (line.deliver recorded.1).reports =
        line.reports ++ [⟨w.reporter, ⟨millis, query.label, (ask s).1⟩⟩] ∧
      recorded.2 = (ask s).2) ∧
    (¬ slow → (line.deliver recorded.1).reports = line.reports ∧ recorded.2 = s) ∧
    (∀ longer : Duration, elapsed.toNanos ≤ longer.toNanos →
      w.threshold.isExceededBy elapsed = true → w.threshold.isExceededBy longer = true) ∧
    ∀ lower : Threshold, 0 < lower.millis → lower.millis ≤ w.threshold.millis →
      w.threshold.isExceededBy elapsed = true → lower.isExceededBy elapsed = true := by
  intro whole slow recorded
  have decided : w.threshold.isExceededBy elapsed = true ↔ slow := Threshold.isExceededBy_iff_millis
  refine ⟨fun h => ?_, fun h => ?_, fun longer => Threshold.isExceededBy_of_longer,
    fun lower enabled => Threshold.isExceededBy_of_lower (decide_eq_true enabled)⟩
  · have exceeded := decided.2 h
    have enabled := Threshold.isEnabled_iff.2 h.1
    have told : recorded = _ := record_of_slow w query elapsed ask s exceeded
    refine ⟨reportedMillis elapsed, toNat_reportedMillis elapsed,
      (le_reportedMillis_iff enabled elapsed).2 exceeded, ?_, ?_⟩
    · rw [told, Timeline.reports_deliver]
      rfl
    · rw [told]
  · have untold : recorded = _ := record_of_quick w query elapsed ask s (mt decided.1 h)
    constructor
    · rw [untold, Timeline.reports_deliver]
      exact List.append_nil _
    · rw [untold]

end

/-- The longest time there is needs more than 64 bits in milliseconds.  Under the greatest
threshold it is reported with the greatest number, and its outcome is asked for once.  A time that
falls one nanosecond short of a threshold is not reported, and nothing is asked. -/
theorem record_reports_whole_millis_of_limits :
    let ask : StateM Nat Outcome := do
      modify (· + 1)
      pure (.completed none)
    let longest : Duration := ⟨UInt64.size - 1, 999999999, by simp⟩
    let short : Duration := ⟨0, 49999999, by simp⟩
    let greatest : Monitor := ⟨⟨18446744073709551615⟩, .log⟩
    (∃ millis : UInt64, millis.toNat = UInt64.size - 1 ∧
      (Timeline.start.deliver (record greatest .empty longest ask 0).1).reports =
        [⟨.log, ⟨millis, Query.empty.label, .completed none⟩⟩] ∧
      (record greatest .empty longest ask 0).2 = 1) ∧
    (Timeline.start.deliver (record ⟨⟨50⟩, .log⟩ .empty short ask 0).1).reports = [] ∧
    (record ⟨⟨50⟩, .log⟩ .empty short ask 0).2 = 0 ∧
    Threshold.isExceededBy ⟨50⟩ longest = true := by
  intro ask longest short greatest
  obtain ⟨reported, -, -, lower⟩ := record_reports_whole_millis greatest .empty longest ask 0 .start
  obtain ⟨-, unreported, -⟩ := record_reports_whole_millis ⟨⟨50⟩, .log⟩ .empty short ask 0 .start
  obtain ⟨millis, capped, -, told, asked⟩ := reported (by decide)
  obtain ⟨untold, unasked⟩ := unreported (by decide)
  have exceeded : greatest.threshold.isExceededBy longest = true := by decide
  exact ⟨⟨millis, capped.trans (by decide), told, asked⟩, untold, unasked,
    lower ⟨50⟩ (by decide) (by decide) exceeded⟩

end Monitor

end SchemaPool
