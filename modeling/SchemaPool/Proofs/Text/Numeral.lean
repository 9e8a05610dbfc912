import SchemaPool.Proofs.Text.Trimming
import SchemaPool.Text.Numeral

/-! # Texts that are numerals

A numeral is a run of ASCII digits, perhaps behind one plus sign, and it stands for the number
that its digits are worth (`IsNumeral`).  The numerals up to the limit are read as what they stand
for, and nothing else is read (`unsigned?_eq_some_iff`).  When a text is trimmed first, blanks may
stand around the numeral, and again nothing else (`unsigned?_trimChars_eq_some_iff`). -/

namespace SchemaPool.Text

/-- ASCII digits, at least one, that are worth `n` together. -/
structure IsDigits (cs : List Char) (n : Nat) : Prop where
  nonempty : cs ≠ []
  digit : ∀ c ∈ cs, c.isDigit = true
  worth : Nat.ofDigitChars 10 cs 0 = n

/-- A numeral for `n`. -/
inductive IsNumeral : List Char → Nat → Prop where
  | bare {cs : List Char} {n : Nat} (digits : IsDigits cs n) : IsNumeral cs n
  | signed {cs : List Char} {n : Nat} (digits : IsDigits cs n) : IsNumeral ('+' :: cs) n

/-- A numeral for `n` with blanks around it. -/
inductive IsPaddedNumeral : List Char → Nat → Prop where
  | padded {left cs right : List Char} {n : Nat} (numeral : IsNumeral cs n)
    (before : ∀ c ∈ left, isBlankChar c = true) (after : ∀ c ∈ right, isBlankChar c = true) :
    IsPaddedNumeral (left ++ cs ++ right) n

variable {cs : List Char} {n m limit : Nat}

/-! ## Digits -/

theorem digitValue?_eq_some_iff {c : Char} {d : Nat} :
    digitValue? c = some d ↔ c.isDigit = true ∧ c.toNat - '0'.toNat = d := by
  have digit : c.isDigit = true ↔ '0' ≤ c ∧ c ≤ '9' := by
    rw [Char.isDigit_iff_toNat, Char.le_def, Char.le_def, UInt32.le_iff_toNat_le,
      UInt32.le_iff_toNat_le]
    rfl
  rw [digitValue?, digit]
  split <;> simp [*]

/-- Reading on from `acc` gives what `acc` and the digits behind it are worth. -/
theorem digitsFrom?_eq_some_iff {acc : Nat} :
    digitsFrom? acc cs = some n ↔
      (∀ c ∈ cs, c.isDigit = true) ∧ Nat.ofDigitChars 10 cs acc = n := by
  induction cs generalizing acc with
  | nil => simp [digitsFrom?]
  | cons c cs ih =>
    rw [digitsFrom?, Nat.ofDigitChars_cons]
    cases value : digitValue? c with
    | none =>
      have other : c.isDigit ≠ true := fun digit => by
        have read := digitValue?_eq_some_iff.2 ⟨digit, rfl⟩
        simp [value] at read
      simp [other]
    | some d =>
      obtain ⟨digit, rfl⟩ := digitValue?_eq_some_iff.1 value
      simp [ih, digit]

theorem digits?_eq_some_iff : digits? cs = some n ↔ IsDigits cs n := by
  cases cs with
  | nil =>
    constructor
    · nofun
    · intro digits
      exact absurd rfl digits.nonempty
  | cons c cs =>
    change digitsFrom? 0 (c :: cs) = some n ↔ _
    rw [digitsFrom?_eq_some_iff]
    constructor
    · rintro ⟨digit, worth⟩
      exact ⟨List.cons_ne_nil c cs, digit, worth⟩
    · intro digits
      exact ⟨digits.digit, digits.worth⟩

theorem not_isDigits_of_plus : ¬ IsDigits ('+' :: cs) n := by
  intro digits
  have absurd := digits.digit '+' List.mem_cons_self
  simp at absurd

/-! ## Numerals -/

/-- Exactly the numerals up to the limit are read.  A greater one is not read as anything. -/
theorem unsigned?_eq_some_iff :
    unsigned? limit cs = some n ↔ IsNumeral cs n ∧ n ≤ limit := by
  rw [unsigned?.eq_def, Option.filter_eq_some_iff, decide_eq_true_eq]
  refine and_congr_left fun _ => ?_
  split
  · next rest =>
    rw [digits?_eq_some_iff]
    constructor
    · exact .signed
    · intro numeral
      cases numeral with
      | bare digits => exact absurd digits not_isDigits_of_plus
      | signed digits => exact digits
  · next unsigned =>
    rw [digits?_eq_some_iff]
    constructor
    · exact .bare
    · intro numeral
      cases numeral with
      | bare digits => exact digits
      | signed digits => exact absurd rfl (unsigned _)

/-- The decimal digits of a number are worth it, also behind zeros. -/
theorem isDigits_toDigits (zeros n : Nat) :
    IsDigits (List.replicate zeros '0' ++ Nat.toDigits 10 n) n where
  nonempty := by simp [Nat.toDigits_ne_nil]
  digit := by
    intro c member
    cases List.mem_append.1 member with
    | inl zero =>
      rw [List.eq_of_mem_replicate zero]
      rfl
    | inr digit => exact Nat.isDigit_of_mem_toDigits (by simp) (by simp) digit
  worth := by
    rw [Nat.ofDigitChars_append, Nat.ofDigitChars_replicate_zero, Nat.mul_zero,
      Nat.ofDigitChars_ten_toDigits]

/-- A printed number is read back. -/
theorem isDigits_toString (n : Nat) : IsDigits (toString n).toList n := by
  simpa using isDigits_toDigits 0 n

/-- Digits without a sign are read as a number that could have had one. -/
theorem signed?_of_isDigits (digits : IsDigits cs n) : signed? cs = some (n : Int) := by
  have unsigned {c : Char} {rest : List Char} (whole : cs = c :: rest) : c.isDigit = true :=
    digits.digit c (by simp [whole])
  unfold signed?
  split
  · exact absurd (unsigned rfl) (by decide)
  · exact absurd (unsigned rfl) (by decide)
  · rw [digits?_eq_some_iff.2 digits]
    rfl

/-! ## Blanks around a numeral -/

theorem isBlankChar_of_toNat {c : Char} (low : 43 ≤ c.toNat) (high : c.toNat ≤ 57) :
    isBlankChar c = false := by
  have apart : ∀ range ∈ blankCharacters.ranges, range.2 < 43 ∨ 57 < range.1 := by decide
  rw [isBlankChar, Bool.eq_false_iff, ne_eq, CharRanges.contains_iff]
  rintro ⟨range, ranged, blank⟩
  have outside := apart range ranged
  omega

theorem IsDigits.filled (digits : IsDigits cs n) : ∀ c ∈ cs, isBlankChar c = false := by
  intro c member
  obtain ⟨low, high⟩ := Char.isDigit_iff_toNat.1 (digits.digit c member)
  simp only [Char.reduceToNat] at low high
  exact isBlankChar_of_toNat (by omega) high

theorem IsNumeral.filled (numeral : IsNumeral cs n) : ∀ c ∈ cs, isBlankChar c = false := by
  cases numeral with
  | bare digits => exact digits.filled
  | signed digits =>
    intro c member
    cases member with
    | head => exact isBlankChar_of_toNat (by simp) (by simp)
    | tail _ member => exact digits.filled c member

/-- Blanks around a numeral are taken off, and they are all that is. -/
theorem unsigned?_trimChars_eq_some_iff :
    unsigned? limit (trimChars cs) = some n ↔ IsPaddedNumeral cs n ∧ n ≤ limit := by
  rw [unsigned?_eq_some_iff]
  refine and_congr_left fun _ => ?_
  constructor
  · intro numeral
    obtain ⟨left, right, before, after, whole⟩ := exists_padding cs
    rw [whole]
    exact .padded numeral before after
  · intro padded
    cases padded with
    | padded numeral before after =>
      rwa [trimChars_padded before after, trimChars_of_filled numeral.filled]

/-- A numeral stands for one number. -/
theorem IsPaddedNumeral.unique (one : IsPaddedNumeral cs n) (other : IsPaddedNumeral cs m) :
    n = m := by
  have first := unsigned?_trimChars_eq_some_iff.2 ⟨one, Nat.le_max_left n m⟩
  have second := unsigned?_trimChars_eq_some_iff.2 ⟨other, Nat.le_max_right n m⟩
  rw [first] at second
  exact Option.some.inj second

end SchemaPool.Text
