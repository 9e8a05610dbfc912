/-! # Quotients in double precision

The quotient of two natural numbers, rounded to the nearest number with 53
significant binary digits; of two that are equally near, the one with an even
last digit is taken.  Numbers of up to 64 bits and their quotients neither
overflow nor come near the smallest numbers of the format. -/

namespace SchemaPool

/-- The number `mantissa * 2 ^ exponent`.  Unless it is zero, the mantissa has
exactly 53 binary digits. -/
structure Binary64 where
  mantissa : Nat
  exponent : Int
deriving DecidableEq, Repr

namespace Binary64

def twoTo (n : Nat) : Nat := Nat.pow 2 n

/-- The quotient rounded to a whole number, halves to the even neighbour. -/
def roundDiv (num den : Nat) : Nat :=
  let q := num / den
  let r := num % den
  if 2 * r < den then q
  else if 2 * r = den then q + q % 2
  else q + 1

/-- The exponent for which a positive quotient has 53 digits before the point. -/
def exponentFor (num den : Nat) : Int :=
  let guess := (Nat.log2 num : Int) - Nat.log2 den - 52
  if num * twoTo (-guess).toNat < twoTo 52 * (den * twoTo guess.toNat) then guess - 1 else guess

def ofRatio (num den : Nat) : Binary64 :=
  if num = 0 ∨ den = 0 then ⟨0, 0⟩
  else
    let e := exponentFor num den
    let m := roundDiv (num * twoTo (-e).toNat) (den * twoTo e.toNat)
    if m = twoTo 53 then ⟨twoTo 52, e + 1⟩ else ⟨m, e⟩

def ofNat (n : Nat) : Binary64 := ofRatio n 1

/-- The quotient of two numbers, rounded once more. -/
def div (a b : Binary64) : Binary64 :=
  let e := a.exponent - b.exponent
  ofRatio (a.mantissa * twoTo e.toNat) (b.mantissa * twoTo (-e).toNat)

/-- The 64 bits of the number: the biased exponent over the mantissa without its
first digit. -/
def bits (a : Binary64) : Nat :=
  if a.mantissa = 0 then 0
  else (a.exponent + 1075).toNat * twoTo 52 + (a.mantissa - twoTo 52)

def hex (a : Binary64) : String :=
  let digits := Nat.toDigits 16 a.bits
  String.ofList (List.replicate (16 - digits.length) '0' ++ digits)

/-- Whether `a` is greater than `b`, neither being negative: the bits of such
numbers are in the order of the numbers. -/
def exceeds (a b : Binary64) : Bool := b.bits < a.bits

def fourFifths : Binary64 := ofRatio 4 5

end Binary64

end SchemaPool
