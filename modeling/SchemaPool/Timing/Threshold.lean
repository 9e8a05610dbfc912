import SchemaPool.Text.Blank
import SchemaPool.Text.Numeral
import SchemaPool.Text.Display
import SchemaPool.Timing.Duration

/-! # The threshold of slowness

A query is slow when it takes at least the threshold.  The threshold zero turns
reporting off.  A configured value that is not a whole number of milliseconds
also turns it off: a mistake in this setting must not keep the program from
starting. -/

namespace SchemaPool

open SchemaPool.Text

/-- A number of milliseconds, zero meaning never. -/
structure Threshold where
  millis : UInt64
deriving DecidableEq, Repr

namespace Threshold

def disabled : Threshold := ⟨0⟩

/-- The threshold that a text sets; any text that is not an unsigned numeral in
range disables. -/
def ofText (s : String) : Threshold :=
  match unsigned? maxWord (trimChars s.toList) with
  | some n => ⟨UInt64.ofNat n⟩
  | none => disabled

/-- The threshold that a variable sets; an unset variable disables. -/
def ofVariable : Option String → Threshold
  | some s => ofText s
  | none => disabled

def isEnabled (t : Threshold) : Bool := 0 < t.millis

def duration (t : Threshold) : Duration := .ofMillis t.millis.toNat

def isExceededBy (t : Threshold) (elapsed : Duration) : Bool :=
  t.isEnabled && t.duration.atMost elapsed

def display (t : Threshold) : String :=
  if t.isEnabled then toString t.millis.toNat ++ "ms" else "disabled"

def view (t : Threshold) : String := "SlowQueryThreshold(" ++ toString t.millis.toNat ++ ")"

def sorted (ts : List Threshold) : List Threshold := ts.mergeSort fun a b => a.millis ≤ b.millis

theorem isExceededBy_iff (t : Threshold) (d : Duration) :
    t.isExceededBy d = true ↔ 0 < t.millis.toNat ∧ t.millis.toNat * 1000000 ≤ d.toNanos := by
  simp [isExceededBy, isEnabled, duration, Duration.atMost_iff, UInt64.lt_iff_toNat_lt]

@[simp] theorem isExceededBy_disabled (d : Duration) : disabled.isExceededBy d = false := rfl

end Threshold

end SchemaPool
