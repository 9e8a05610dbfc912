import SchemaPool.CommandLine.Basic
import SchemaPool.Proofs.Text.Numeral

/-! # Texts that set the threshold

A text sets a threshold just if it is a numeral in range with nothing but blanks around it.  Every
other text turns reporting off, numerals that are too great included, and so nothing is ever read
as another number than it stands for.  The number itself, printed in decimal digits, sets itself,
and it does not matter where the text comes from (`Threshold.ofText_reads_numerals`). -/

namespace SchemaPool.Threshold

open SchemaPool.Text

variable {s : String} {n : Nat}

theorem ofText_of_isPaddedNumeral (numeral : IsPaddedNumeral s.toList n)
    (fits : n < UInt64.size) : ofText s = ⟨.ofNat n⟩ := by
  have bound : n ≤ maxWord := Nat.le_of_lt_succ fits
  rw [ofText, unsigned?_trimChars_eq_some_iff.2 ⟨numeral, bound⟩]

theorem ofText_of_not_isPaddedNumeral
    (other : ∀ n, IsPaddedNumeral s.toList n → ¬ n < UInt64.size) : ofText s = disabled := by
  rw [ofText]
  split
  · next n read =>
    obtain ⟨numeral, fits⟩ := unsigned?_trimChars_eq_some_iff.1 read
    exact absurd (Nat.lt_succ_of_le fits) (other n numeral)
  · rfl

theorem eq_disabled_of_toNat {t : Threshold} (zero : t.millis.toNat = 0) : t = disabled := by
  cases t
  exact congrArg mk (UInt64.toNat_inj.1 zero)

/-- A text that enables reporting is a numeral for its threshold. -/
theorem toNat_ofText_eq_iff (positive : 0 < n) :
    (ofText s).millis.toNat = n ↔ IsPaddedNumeral s.toList n ∧ n < UInt64.size := by
  constructor
  · intro set
    by_cases read : ∃ m, IsPaddedNumeral s.toList m ∧ m < UInt64.size
    · obtain ⟨m, numeral, fits⟩ := read
      rw [ofText_of_isPaddedNumeral numeral fits, UInt64.toNat_ofNat_of_lt' fits] at set
      subst set
      exact ⟨numeral, fits⟩
    · have off := ofText_of_not_isPaddedNumeral fun m numeral fits => read ⟨m, numeral, fits⟩
      rw [off] at set
      subst set
      exact absurd positive (Nat.lt_irrefl 0)
  · rintro ⟨numeral, fits⟩
    rw [ofText_of_isPaddedNumeral numeral fits, UInt64.toNat_ofNat_of_lt' fits]

/-- What is printed of a number, perhaps with a plus sign, zeros and blanks, is read as it. -/
theorem isPaddedNumeral_printed (left : String) {sign : String} (right : String) (zeros n : Nat)
    (signed : sign = "" ∨ sign = "+") (before : isBlank left = true)
    (after : isBlank right = true) :
    IsPaddedNumeral
      (left ++ (sign ++ String.ofList (List.replicate zeros '0') ++ toString n) ++ right).toList
      n := by
  have numeral : IsNumeral
      (sign ++ String.ofList (List.replicate zeros '0') ++ toString n).toList n := by
    cases signed with
    | inl none =>
      subst none
      simpa using IsNumeral.bare (isDigits_toDigits zeros n)
    | inr plus =>
      subst plus
      simpa using IsNumeral.signed (isDigits_toDigits zeros n)
  rw [String.toList_append, String.toList_append]
  exact .padded numeral (List.all_eq_true.1 before) (List.all_eq_true.1 after)

/-- A text sets the threshold `n`, which is not zero, just if it is a numeral for `n` between
blanks and `n` is in range.  All other texts turn reporting off, and so does a numeral that is out
of range, however long it is.  Every number in range is set by its decimal digits, whatever zeros
and blanks are added.  A variable and the option on the command line are read in the same way. -/
theorem ofText_reads_numerals :
    (∀ s n, 0 < n →
      ((ofText s).millis.toNat = n ↔ IsPaddedNumeral s.toList n ∧ n < UInt64.size)) ∧
    (∀ s, (¬ ∃ n, 0 < n ∧ n < UInt64.size ∧ IsPaddedNumeral s.toList n) → ofText s = disabled) ∧
    (∀ s n, IsPaddedNumeral s.toList n → UInt64.size ≤ n → ofText s = disabled) ∧
    (∀ (t : UInt64) (left sign right : String) (zeros : Nat), (sign = "" ∨ sign = "+") →
      isBlank left = true → isBlank right = true →
      ofText (left ++ (sign ++ String.ofList (List.replicate zeros '0') ++ toString t.toNat) ++
        right) = ⟨t⟩) ∧
    ∀ s, ofVariable (some s) = ofText s ∧
      ∀ d : Draft, d.set? .slowQuery s = some { d with slowQuery := some (ofText s) } := by
  refine ⟨fun s n positive => toNat_ofText_eq_iff positive, fun s other => ?_,
    fun s n numeral great => ?_, fun t left sign right zeros signed before after => ?_,
    fun s => ⟨rfl, fun d => rfl⟩⟩
  · by_cases zero : (ofText s).millis.toNat = 0
    · exact eq_disabled_of_toNat zero
    · have positive := Nat.pos_of_ne_zero zero
      obtain ⟨numeral, fits⟩ := (toNat_ofText_eq_iff positive).1 rfl
      exact absurd ⟨_, positive, fits, numeral⟩ other
  · refine ofText_of_not_isPaddedNumeral fun m other fits => ?_
    rw [← numeral.unique other] at fits
    exact absurd great (Nat.not_le.2 fits)
  · have numeral := isPaddedNumeral_printed left right zeros t.toNat signed before after
    rw [ofText_of_isPaddedNumeral numeral t.toNat_lt, UInt64.ofNat_toNat]

/-- The greatest number in range is read back from behind zeros and blanks, and the next one turns
reporting off. -/
theorem ofText_reads_numerals_of_limits :
    ofText "\u3000+00018446744073709551615\n" = ⟨18446744073709551615⟩ ∧
      (ofText " 250\t").millis.toNat = 250 ∧ ofText "18446744073709551616" = disabled ∧
      ofText "5.0" = disabled := by
  obtain ⟨sets, other, great, printed, -⟩ := ofText_reads_numerals
  have greatest : "\u3000+00018446744073709551615\n" =
      "\u3000" ++ ("+" ++ String.ofList (List.replicate 3 '0') ++
        toString (18446744073709551615 : UInt64).toNat) ++ "\n" := rfl
  have plain : IsPaddedNumeral " 250\t".toList 250 :=
    isPaddedNumeral_printed " " "\t" 0 250 (.inl rfl) rfl rfl
  have beyond : IsPaddedNumeral "18446744073709551616".toList 18446744073709551616 :=
    isPaddedNumeral_printed "" "" 0 18446744073709551616 (.inl rfl) rfl rfl
  have unread : unsigned? maxWord (trimChars "5.0".toList) = none := rfl
  refine ⟨?_, (sets _ 250 (by simp)).2 ⟨plain, by decide⟩, great _ _ beyond le_rfl, other _ ?_⟩
  · rw [greatest]
    exact printed 18446744073709551615 "\u3000" "+" "\n" 3 (.inr rfl) rfl rfl
  · rintro ⟨n, -, fits, numeral⟩
    have bound : n ≤ maxWord := Nat.le_of_lt_succ fits
    have read := unsigned?_trimChars_eq_some_iff.2 ⟨numeral, bound⟩
    rw [unread] at read
    cases read

end SchemaPool.Threshold
