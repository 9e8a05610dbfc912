/-! # Sets of characters, blanks and trimming

A Unicode property is a set of characters, written down as the ranges of code
points that it covers and asked about one character at a time.

A character is blank when it has the property White_Space.  Trimming takes the
blanks off both ends of a text; a text is blank when it holds nothing else. -/

namespace SchemaPool.Text

/-- A set of characters, as ranges of code points with both ends included. -/
structure CharRanges where
  ranges : List (Nat × Nat)

def CharRanges.contains (s : CharRanges) (c : Char) : Bool :=
  s.ranges.any fun range => range.1 ≤ c.toNat && c.toNat ≤ range.2

theorem CharRanges.contains_iff {s : CharRanges} {c : Char} :
    s.contains c = true ↔ ∃ range ∈ s.ranges, range.1 ≤ c.toNat ∧ c.toNat ≤ range.2 := by
  simp [contains, Bool.and_eq_true]

/-! ## Blanks -/

/-- The code points of White_Space. -/
def blankCharacters : CharRanges where
  ranges := [
    (0x9, 0xD), (0x20, 0x20), (0x85, 0x85), (0xA0, 0xA0), (0x1680, 0x1680), (0x2000, 0x200A),
    (0x2028, 0x2029), (0x202F, 0x202F), (0x205F, 0x205F), (0x3000, 0x3000)]

def isBlankChar (c : Char) : Bool := blankCharacters.contains c

/-- Whether a text holds white space only. -/
def isBlank (s : String) : Bool := s.toList.all isBlankChar

/-! ## Trimming -/

def trimRight : List Char → List Char
  | [] => []
  | c :: cs =>
    match trimRight cs with
    | [] => if isBlankChar c then [] else [c]
    | d :: ds => c :: d :: ds

def trimLeft (cs : List Char) : List Char := cs.dropWhile isBlankChar

def trimChars (cs : List Char) : List Char := trimRight (trimLeft cs)

def trim (s : String) : String := String.ofList (trimChars s.toList)

@[simp] theorem toList_trim (s : String) : (trim s).toList = trimChars s.toList := by
  simp [trim]

theorem trimRight_eq_nil_iff {cs : List Char} :
    trimRight cs = [] ↔ ∀ c ∈ cs, isBlankChar c = true := by
  induction cs with
  | nil => simp [trimRight]
  | cons c cs ih =>
    rw [trimRight]
    split
    · next h => by_cases hc : isBlankChar c <;> simp_all
    · next d ds h =>
      have : ¬ ∀ x ∈ cs, isBlankChar x = true := fun hall => by simp [ih.2 hall] at h
      simp only [reduceCtorEq, List.mem_cons, forall_eq_or_imp, false_iff, not_and]
      exact fun _ => this

theorem trimRight_idem (cs : List Char) : trimRight (trimRight cs) = trimRight cs := by
  induction cs with
  | nil => rfl
  | cons c cs ih =>
    rw [trimRight]
    split
    · by_cases hc : isBlankChar c <;> simp [trimRight, hc]
    · next d ds h =>
      rw [h] at ih
      rw [trimRight, ih]

theorem trimRight_head (cs : List Char) {c : Char} (h : isBlankChar c = false) :
    ∃ ds, trimRight (c :: cs) = c :: ds := by
  rw [trimRight]
  split
  · exact ⟨[], by simp [h]⟩
  · next d ds _ => exact ⟨d :: ds, rfl⟩

theorem trimLeft_eq_nil_iff {cs : List Char} :
    trimLeft cs = [] ↔ ∀ c ∈ cs, isBlankChar c = true := by
  induction cs with
  | nil => simp [trimLeft]
  | cons c cs ih => by_cases hc : isBlankChar c <;> simp_all [trimLeft]

theorem trimLeft_head (cs : List Char) :
    trimLeft cs = [] ∨ ∃ c ds, trimLeft cs = c :: ds ∧ isBlankChar c = false := by
  induction cs with
  | nil => exact .inl rfl
  | cons c cs ih =>
    by_cases hc : isBlankChar c
    · simpa [trimLeft, hc] using ih
    · exact .inr ⟨c, cs, by simp [trimLeft, hc], by simpa using hc⟩

theorem trimChars_idem (cs : List Char) : trimChars (trimChars cs) = trimChars cs := by
  unfold trimChars
  rcases trimLeft_head cs with h | ⟨c, ds, h, hc⟩
  · rw [h]
    rfl
  · obtain ⟨es, hes⟩ := trimRight_head ds hc
    have hleft : trimLeft (c :: es) = c :: es := by simp [trimLeft, hc]
    rw [h, hes, hleft, ← hes, trimRight_idem]

theorem trimChars_eq_nil_iff {cs : List Char} :
    trimChars cs = [] ↔ ∀ c ∈ cs, isBlankChar c = true := by
  unfold trimChars
  rw [← trimLeft_eq_nil_iff]
  rcases trimLeft_head cs with h | ⟨c, ds, h, hc⟩
  · rw [h]
    simp [trimRight]
  · obtain ⟨es, hes⟩ := trimRight_head ds hc
    rw [h, hes]
    simp

@[simp] theorem trim_trim (s : String) : trim (trim s) = trim s := by
  simp [trim, trimChars_idem]

theorem trim_eq_empty_iff {s : String} : trim s = "" ↔ isBlank s = true := by
  rw [trim, isBlank, List.all_eq_true, ← trimChars_eq_nil_iff]
  exact ⟨fun h => by simpa using congrArg String.toList h, fun h => by simp [h]⟩

end SchemaPool.Text
