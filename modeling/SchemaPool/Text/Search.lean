/-! # Finding a text inside another

Texts are searched as lists of characters.  `after?` compares the beginning of a
text, `cut?` finds the first occurrence of a pattern, and `cutLast?` finds the
last occurrence of a single character.  Each of them answers with the pieces
around what it found, and a small lemma says how the pieces make up the whole. -/

namespace SchemaPool.Text

/-- What follows the pattern `p` in a text that begins with it. -/
def after? : List Char → List Char → Option (List Char)
  | [], cs => some cs
  | _ :: _, [] => none
  | p :: ps, c :: cs => if p = c then after? ps cs else none

def beginsWith (p cs : List Char) : Bool := (after? p cs).isSome

/-- The pieces of a text before and after the first occurrence of the pattern `p`. -/
def cut? (p : List Char) (cs : List Char) : Option (List Char × List Char) :=
  match after? p cs with
  | some rest => some ([], rest)
  | none =>
    match cs with
    | [] => none
    | c :: cs => (cut? p cs).map fun piece => (c :: piece.1, piece.2)

def occursIn (p cs : List Char) : Bool := (cut? p cs).isSome

/-- The pieces of a text before and after the last occurrence of `x`. -/
def cutLast? (x : Char) : List Char → Option (List Char × List Char)
  | [] => none
  | c :: cs =>
    match cutLast? x cs with
    | some (before, rest) => some (c :: before, rest)
    | none => if c = x then some ([], cs) else none

/-- The pieces of a text between the occurrences of `x`, of which there is one
more than occurrences. -/
def pieces (x : Char) : List Char → List (List Char)
  | [] => [[]]
  | c :: cs =>
    if c = x then [] :: pieces x cs
    else
      match pieces x cs with
      | [] => [[c]]
      | first :: others => (c :: first) :: others

/-! ## The pieces make up the whole -/

theorem after?_eq_some_iff {p cs rest : List Char} :
    after? p cs = some rest ↔ cs = p ++ rest := by
  induction p generalizing cs with
  | nil => simp [after?, eq_comm]
  | cons x xs ih =>
    cases cs with
    | nil => simp [after?]
    | cons c cs =>
      by_cases h : x = c
      · simp [after?, h, ih]
      · simp only [after?, h, if_false, reduceCtorEq, List.cons_append, List.cons.injEq, false_iff]
        exact fun hc => h hc.1.symm

@[simp] theorem after?_append (p rest : List Char) : after? p (p ++ rest) = some rest :=
  after?_eq_some_iff.2 rfl

theorem beginsWith_iff {p cs : List Char} : beginsWith p cs = true ↔ p <+: cs := by
  rw [beginsWith, Option.isSome_iff_exists]
  exact exists_congr fun rest => after?_eq_some_iff.trans eq_comm

theorem eq_append_of_cut? {p cs before rest : List Char} (h : cut? p cs = some (before, rest)) :
    cs = before ++ p ++ rest := by
  induction cs generalizing before with
  | nil =>
    rw [cut?] at h
    split at h
    · next hp =>
      obtain ⟨rfl, rfl⟩ : [] = before ∧ _ = rest := by simpa using h
      simpa using after?_eq_some_iff.1 hp
    · simp at h
  | cons c cs ih =>
    rw [cut?] at h
    split at h
    · next hp =>
      obtain ⟨rfl, rfl⟩ : [] = before ∧ _ = rest := by simpa using h
      simpa using after?_eq_some_iff.1 hp
    · obtain ⟨piece, hpiece, heq⟩ := Option.map_eq_some_iff.1 h
      obtain ⟨rfl, rfl⟩ : c :: piece.1 = before ∧ piece.2 = rest := by simpa using heq
      simp [ih hpiece]

theorem eq_append_of_cutLast? {x : Char} {cs before rest : List Char}
    (h : cutLast? x cs = some (before, rest)) : cs = before ++ x :: rest := by
  induction cs generalizing before with
  | nil => simp [cutLast?] at h
  | cons c cs ih =>
    rw [cutLast?] at h
    split at h
    · next b r hb =>
      obtain ⟨rfl, rfl⟩ : c :: b = before ∧ r = rest := by simpa using h
      simp [ih hb]
    · split at h
      · next hc =>
        obtain ⟨rfl, rfl⟩ : [] = before ∧ cs = rest := by simpa using h
        simp [hc]
      · simp at h

theorem cutLast?_eq_none_iff {x : Char} {cs : List Char} : cutLast? x cs = none ↔ x ∉ cs := by
  induction cs with
  | nil => simp [cutLast?]
  | cons c cs ih =>
    rw [cutLast?]
    split
    · next h =>
      have : x ∈ cs := by
        rw [eq_append_of_cutLast? h]
        simp
      simp [this]
    · next h =>
      have hx : x ∉ cs := ih.1 h
      by_cases hc : c = x
      · simp [hc]
      · simp [hc, hx, Ne.symm hc]

theorem occursIn_iff {p cs : List Char} : occursIn p cs = true ↔ p <:+: cs := by
  have begins (cs : List Char) : after? p cs = none ↔ ¬ p <+: cs := by
    rw [← beginsWith_iff, beginsWith, Option.not_isSome_iff_eq_none]
  induction cs with
  | nil =>
    rw [occursIn, cut?, List.infix_nil, ← List.prefix_nil]
    split
    · next h => simp [after?_eq_some_iff.1 h]
    · next h => simp [(begins []).1 h]
  | cons c cs ih =>
    have later : (cut? p cs).isSome = true ↔ p <:+: cs := ih
    rw [occursIn, cut?, List.infix_cons_iff]
    split
    · next h => simp [after?_eq_some_iff.1 h]
    · next h => simp [(begins (c :: cs)).1 h, later]

/-! ## Where a single character cuts -/

theorem not_mem_of_cut? {x : Char} {cs before rest : List Char}
    (h : cut? [x] cs = some (before, rest)) : x ∉ before := by
  induction cs generalizing before with
  | nil => simp [cut?, after?] at h
  | cons c cs ih =>
    by_cases hc : x = c
    · obtain ⟨rfl, -⟩ : [] = before ∧ cs = rest := by simpa [cut?, after?, hc] using h
      simp
    · obtain ⟨b, hb, rfl⟩ : ∃ b, cut? [x] cs = some (b, rest) ∧ c :: b = before := by
        simpa [cut?, after?, hc] using h
      simp [hc, ih hb]

theorem cut?_singleton_eq_some_iff {x : Char} {cs before rest : List Char} :
    cut? [x] cs = some (before, rest) ↔ cs = before ++ x :: rest ∧ x ∉ before := by
  constructor
  · intro h
    exact ⟨by simpa using eq_append_of_cut? h, not_mem_of_cut? h⟩
  · rintro ⟨rfl, h⟩
    induction before with
    | nil => simp [cut?, after?]
    | cons c before ih =>
      obtain ⟨hc, hb⟩ : x ≠ c ∧ x ∉ before := by simpa using h
      simp [cut?, after?, hc, ih hb]

theorem not_mem_of_cutLast? {x : Char} {cs before rest : List Char}
    (h : cutLast? x cs = some (before, rest)) : x ∉ rest := by
  induction cs generalizing before with
  | nil => simp [cutLast?] at h
  | cons c cs ih =>
    rw [cutLast?] at h
    split at h
    · next b r hb =>
      obtain ⟨-, rfl⟩ : c :: b = before ∧ r = rest := by simpa using h
      exact ih hb
    · next hn =>
      split at h
      · obtain ⟨-, rfl⟩ : [] = before ∧ cs = rest := by simpa using h
        exact cutLast?_eq_none_iff.1 hn
      · simp at h

theorem cutLast?_eq_some_iff {x : Char} {cs before rest : List Char} :
    cutLast? x cs = some (before, rest) ↔ cs = before ++ x :: rest ∧ x ∉ rest := by
  constructor
  · intro h
    exact ⟨eq_append_of_cutLast? h, not_mem_of_cutLast? h⟩
  · rintro ⟨rfl, h⟩
    induction before with
    | nil => simp [cutLast?, cutLast?_eq_none_iff.2 h]
    | cons c before ih => simp [cutLast?, ih]

end SchemaPool.Text
