/-! # Lengths of time

A length of time is kept as whole seconds and nanoseconds below one second, and
compared part by part.  Counted in nanoseconds the comparison is the usual one
(`Duration.atMost_iff`). -/

namespace SchemaPool

/-- A length of time. -/
structure Duration where
  secs : Nat
  nanos : Nat
  nanos_lt : nanos < 1000000000

namespace Duration

def ofParts (secs nanos : Nat) : Duration :=
  ⟨secs + nanos / 1000000000, nanos % 1000000000, Nat.mod_lt _ (by decide)⟩

def ofMillis (n : Nat) : Duration := ofParts (n / 1000) (n % 1000 * 1000000)

def ofNanos (n : Nat) : Duration := ofParts 0 n

def ofSeconds (n : Nat) : Duration := ofParts n 0

def toNanos (d : Duration) : Nat := d.secs * 1000000000 + d.nanos

def toMillis (d : Duration) : Nat := d.secs * 1000 + d.nanos / 1000000

/-- Whether `d` is at most as long as `e`: the seconds decide, and on a tie the
nanoseconds. -/
def atMost (d e : Duration) : Bool := d.secs < e.secs || (d.secs == e.secs && d.nanos ≤ e.nanos)

@[simp] theorem toNanos_ofParts (secs nanos : Nat) :
    (ofParts secs nanos).toNanos = secs * 1000000000 + nanos := by
  simp only [ofParts, toNanos]
  omega

@[simp] theorem toNanos_ofMillis (n : Nat) : (ofMillis n).toNanos = n * 1000000 := by
  rw [ofMillis, toNanos_ofParts]
  omega

@[simp] theorem toNanos_ofNanos (n : Nat) : (ofNanos n).toNanos = n := by
  rw [ofNanos, toNanos_ofParts, Nat.zero_mul, Nat.zero_add]

theorem toMillis_eq (d : Duration) : d.toMillis = d.toNanos / 1000000 := by
  have := d.nanos_lt
  simp only [toMillis, toNanos]
  omega

theorem atMost_iff (d e : Duration) : d.atMost e = true ↔ d.toNanos ≤ e.toNanos := by
  have := d.nanos_lt
  have := e.nanos_lt
  simp only [atMost, toNanos, Bool.or_eq_true, Bool.and_eq_true, decide_eq_true_eq, beq_iff_eq]
  omega

end Duration

end SchemaPool
