/-! # Decimal numerals

Reading of whole numbers written with the ASCII digits.  An unsigned numeral may
carry one plus sign; a signed one may carry a minus sign instead.  A numeral
beyond its limit is no numeral at all: nothing wraps and nothing is cut off. -/

namespace SchemaPool.Text

def digitValue? (c : Char) : Option Nat :=
  if '0' ≤ c ∧ c ≤ '9' then some (c.toNat - '0'.toNat) else none

def isDigit (c : Char) : Bool := (digitValue? c).isSome

/-- The value of a run of digits read after the value `acc`; fails on anything
but a digit. -/
def digitsFrom? (acc : Nat) : List Char → Option Nat
  | [] => some acc
  | c :: cs =>
    match digitValue? c with
    | some d => digitsFrom? (10 * acc + d) cs
    | none => none

def digits? : List Char → Option Nat
  | [] => none
  | cs => digitsFrom? 0 cs

def unsigned? (limit : Nat) (cs : List Char) : Option Nat :=
  let value :=
    match cs with
    | '+' :: rest => digits? rest
    | _ => digits? cs
  value.filter (· ≤ limit)

def signed? (cs : List Char) : Option Int :=
  match cs with
  | '-' :: rest => (digits? rest).map fun n => -(n : Int)
  | '+' :: rest => (digits? rest).map fun n => (n : Int)
  | _ => (digits? cs).map fun n => (n : Int)

def maxWord : Nat := 18446744073709551615

def maxHalfWord : Nat := 4294967295

end SchemaPool.Text
