import SchemaPool.Pool.Binary64

/-! # Pools

A pool lends at most a given number of things.  What is given back waits for the
next borrower behind what was given back before it.  A closed pool lends nothing
and keeps nothing.  Its state in numbers tells whether it is about to be too
small. -/

namespace SchemaPool

/-! ## The state of a pool in numbers -/

/-- How many connections a pool may have, has, has idle, and how many callers wait
for one. -/
structure PoolStatus where
  maxSize : Nat
  size : Nat
  available : Nat
  waiting : Nat
deriving DecidableEq, Repr

namespace PoolStatus

/-- The part of the allowed connections that is lent out; nothing of a pool that
may have none. -/
def utilization (s : PoolStatus) : Binary64 :=
  if s.maxSize = 0 then ⟨0, 0⟩
  else (Binary64.ofNat (s.size - s.available)).div (.ofNat s.maxSize)

/-- Whether the pool is about to be too small: somebody waits, or more than four
fifths of the connections are lent out. -/
def isUnderPressure (s : PoolStatus) : Bool :=
  0 < s.waiting || s.utilization.exceeds .fourFifths

end PoolStatus

/-! ## Pools -/

/-- The things at rest, oldest first, and the number of those lent out. -/
structure Pool (α : Type) where
  maxSize : Nat
  idle : List α
  lent : Nat
  closed : Bool
deriving Repr

namespace Pool

variable {α : Type}

def empty (maxSize : Nat) : Pool α := ⟨maxSize, [], 0, false⟩

def size (p : Pool α) : Nat := p.idle.length + p.lent

/-- The numbers of the pool while so many callers are being served or wait. -/
def status (p : Pool α) (callers : Nat) : PoolStatus :=
  let users := p.lent + callers
  ⟨p.maxSize, p.size, p.size - users, users - p.size⟩

def isExhausted (p : Pool α) : Bool := !p.closed && p.maxSize ≤ p.lent

/-- The pool after a thing has come back: it is kept unless there are too many. -/
def giveBack (p : Pool α) (a : α) : Pool α :=
  { p with
    lent := p.lent - 1
    idle := if p.size ≤ p.maxSize then p.idle ++ [a] else p.idle }

def close (p : Pool α) : Pool α := { p with maxSize := 0, idle := [], closed := true }

/-! ## What comes back -/

theorem idle_giveBack_of_lt {p : Pool α} (a : α) (h : p.maxSize < p.size) :
    (p.giveBack a).idle = p.idle := by
  simp [giveBack, Nat.not_le.2 h]

theorem mem_idle_giveBack {p : Pool α} {a b : α} (h : b ∈ (p.giveBack a).idle) :
    b ∈ p.idle ∨ b = a := by
  unfold giveBack at h
  split at h
  · simpa using h
  · exact .inl h

@[simp] theorem closed_giveBack (p : Pool α) (a : α) : (p.giveBack a).closed = p.closed := rfl

@[simp] theorem maxSize_giveBack (p : Pool α) (a : α) : (p.giveBack a).maxSize = p.maxSize := rfl

@[simp] theorem isExhausted_close (p : Pool α) : p.close.isExhausted = false := rfl

end Pool

end SchemaPool
