import Mathlib.Data.List.TakeWhile
import SchemaPool.Sql.Label

/-! # Statements as words

A label is derived from the text of a statement in which every run of blanks has become one
space and the ends are trimmed.  This text is the words of the statement, which are its maximal
runs of characters that are not blank, with one space between each two of them
(`normalize_eq_line`).

So its first word ends with the first space (`takeWhile_line`), and a blank in it is always a
space that another word follows (`spaced_normalize`). -/

namespace SchemaPool.Sql

open SchemaPool.Text

/-- The maximal runs of characters that are not blank. -/
def words (cs : List Char) : List (List Char) := (cs.splitOnP isBlankChar).filter (· ≠ [])

/-- Some words with one space between each two of them. -/
def line (ws : List (List Char)) : List Char := [' '].intercalate ws

/-! ## The words of a text -/

section Words

variable {c d : Char} {cs : List Char}

theorem words_blank (blank : isBlankChar c = true) (cs : List Char) :
    words (c :: cs) = words cs := by
  simp [words, List.splitOnP_cons_eq_if_modifyHead, blank]

theorem words_singleton (filled : isBlankChar c = false) : words [c] = [[c]] := by
  simp [words, List.splitOnP_cons_eq_if_modifyHead, filled]

/-- A blank ends a word. -/
theorem words_end (filled : isBlankChar c = false) (blank : isBlankChar d = true) (cs : List Char) :
    words (c :: d :: cs) = [c] :: words cs := by
  simp [words, List.splitOnP_cons_eq_if_modifyHead, filled, blank]

/-- Two characters that are not blank belong to the same word. -/
theorem words_within (filled : isBlankChar c = false) (next : isBlankChar d = false)
    (cs : List Char) :
    ∃ w ws, words (d :: cs) = w :: ws ∧ words (c :: d :: cs) = (c :: w) :: ws := by
  cases split : cs.splitOnP isBlankChar with
  | nil => exact absurd split (List.splitOnP_ne_nil _ _)
  | cons w ws =>
    refine ⟨d :: w, ws.filter (· ≠ []), ?_, ?_⟩
    · simp [words, List.splitOnP_cons_eq_if_modifyHead, next, split]
    · simp [words, List.splitOnP_cons_eq_if_modifyHead, filled, next, split]

theorem words_filled {w : List Char} (member : w ∈ words cs) :
    w ≠ [] ∧ ∀ c ∈ w, isBlankChar c = false := by
  rw [words, List.mem_filter] at member
  refine ⟨by simpa using member.2, ?_⟩
  replace member := member.1
  induction cs generalizing w with
  | nil => simp_all
  | cons c cs ih =>
    rw [List.splitOnP_cons_eq_if_modifyHead] at member
    split at member
    · cases List.mem_cons.1 member with
      | inl empty => simp [empty]
      | inr later => exact ih later
    · next filled =>
      cases split : cs.splitOnP isBlankChar with
      | nil => exact absurd split (List.splitOnP_ne_nil _ _)
      | cons v ws =>
        rw [split] at member ih
        cases List.mem_cons.1 member with
        | inl first =>
          subst first
          simpa [filled] using ih List.mem_cons_self
        | inr later => exact ih (List.mem_cons_of_mem _ later)

end Words

/-! ## Lines -/

theorem line_cons_char (c : Char) (w : List Char) (ws : List (List Char)) :
    line ((c :: w) :: ws) = c :: line (w :: ws) := by
  cases ws with
  | nil => simp [line]
  | cons v ws => simp [line, List.intercalate_cons_cons]

theorem line_singleton (w : List Char) : line [w] = w := by
  simp [line]

theorem line_cons_cons (w v : List Char) (ws : List (List Char)) :
    line (w :: v :: ws) = w ++ ' ' :: line (v :: ws) := by
  simp [line, List.intercalate_cons_cons]

theorem line_ne_nil {cs w : List Char} {ws : List (List Char)} (all : words cs = w :: ws) :
    line (w :: ws) ≠ [] := by
  have filled : w ≠ [] := (words_filled (by rw [all]; exact List.mem_cons_self)).1
  cases w with
  | nil => exact absurd rfl filled
  | cons c w => simp [line_cons_char]

theorem isBlankChar_space : isBlankChar ' ' = true := by decide

/-- The first word of a line ends with the first space. -/
theorem takeWhile_line {w : List Char} (filled : ∀ c ∈ w, isBlankChar c = false)
    (ws : List (List Char)) : (line (w :: ws)).takeWhile (· != ' ') = w := by
  have all : ∀ c ∈ w, (c != ' ') = true := by
    intro c member
    have other : c ≠ ' ' := by
      rintro rfl
      simpa [isBlankChar_space] using filled ' ' member
    simpa using other
  cases ws with
  | nil => rw [line_singleton, List.takeWhile_eq_self_iff.2 all]
  | cons v ws =>
    rw [line_cons_cons, List.takeWhile_append_of_pos all]
    simp

/-! ## Squeezed texts -/

theorem trimLeft_of_head {cs : List Char} (filled : ∀ c ∈ cs.head?, isBlankChar c = false) :
    trimLeft cs = cs := by
  cases cs with
  | nil => rfl
  | cons c cs => simp [trimLeft, filled c rfl]

/-- What is squeezed after a gap begins with no other gap. -/
theorem head_squeeze_true (cs : List Char) :
    ∀ c ∈ (squeeze true cs).head?, isBlankChar c = false := by
  induction cs with
  | nil => nofun
  | cons c cs ih =>
    cases blank : isBlankChar c with
    | true => simpa [squeeze, blank] using ih
    | false => simp [squeeze, blank]

/-- The gap that a text begins with does not matter once it is trimmed. -/
theorem trimLeft_squeeze_false (cs : List Char) :
    trimLeft (squeeze false cs) = squeeze true cs := by
  cases cs with
  | nil => rfl
  | cons c cs =>
    cases blank : isBlankChar c with
    | true =>
      have skipped : trimLeft (' ' :: squeeze true cs) = trimLeft (squeeze true cs) := by
        simp [trimLeft, isBlankChar_space]
      simp [squeeze, blank, skipped, trimLeft_of_head (head_squeeze_true cs)]
    | false => simp [squeeze, blank, trimLeft]

theorem trimRight_squeeze_true (cs : List Char) :
    trimRight (squeeze true cs) = line (words cs) := by
  induction cs with
  | nil => rfl
  | cons c cs ih =>
    cases blank : isBlankChar c with
    | true => simpa [squeeze, blank, words_blank] using ih
    | false =>
      cases cs with
      | nil => simp [squeeze, blank, trimRight, words_singleton, line_singleton]
      | cons d ds =>
        cases next : isBlankChar d with
        | true =>
          -- One space is kept, unless nothing but blanks follows.
          have later : trimRight (squeeze true ds) = line (words ds) := by
            simpa [squeeze, next, words_blank] using ih
          have squeezed : squeeze true (c :: d :: ds) = c :: ' ' :: squeeze true ds := by
            simp [squeeze, blank, next]
          rw [squeezed, words_end blank next, trimRight, trimRight, later]
          cases all : words ds with
          | nil => simp [line, isBlankChar_space, blank]
          | cons w ws =>
            cases rest : line (w :: ws) with
            | nil => exact absurd rest (line_ne_nil all)
            | cons e es => simp [line_cons_cons, rest]
        | false =>
          obtain ⟨w, ws, inner, outer⟩ := words_within blank next ds
          have squeezed : squeeze true (c :: d :: ds) = c :: squeeze true (d :: ds) := by
            simp [squeeze, blank, next]
          rw [squeezed, outer, line_cons_char, trimRight, ih, inner]
          cases rest : line (w :: ws) with
          | nil => exact absurd rest (line_ne_nil inner)
          | cons e es => rfl

/-- A normalized text is the words of the text with one space between each two. -/
theorem normalize_eq_line (cs : List Char) : normalize cs = line (words cs) := by
  rw [normalize, trimChars, trimLeft_squeeze_false, trimRight_squeeze_true]

/-! ## Gaps -/

/-- Every blank is a space, and no other blank follows it. -/
def Spaced : List Char → Prop
  | [] => True
  | c :: cs =>
    (isBlankChar c = true → c = ' ' ∧ ∀ d ∈ cs.head?, isBlankChar d = false) ∧ Spaced cs

theorem Spaced.drop {cs : List Char} (spaced : Spaced cs) (n : Nat) : Spaced (cs.drop n) := by
  induction n generalizing cs with
  | zero => exact spaced
  | succ n ih =>
    cases cs with
    | nil => trivial
    | cons c cs => exact ih spaced.2

theorem spaced_squeeze (inGap : Bool) (cs : List Char) : Spaced (squeeze inGap cs) := by
  induction cs generalizing inGap with
  | nil => trivial
  | cons c cs ih =>
    cases blank : isBlankChar c with
    | true =>
      cases inGap with
      | true => simpa [squeeze, blank] using ih true
      | false =>
        simp only [squeeze, blank, if_true]
        exact ⟨fun _ => ⟨rfl, head_squeeze_true cs⟩, ih true⟩
    | false =>
      have kept : squeeze inGap (c :: cs) = c :: squeeze false cs := by simp [squeeze, blank]
      rw [kept]
      exact ⟨fun gap => by simp [blank] at gap, ih false⟩

theorem trimRight_begins (cs : List Char) : trimRight cs <+: cs := by
  induction cs with
  | nil => exact List.prefix_refl _
  | cons c cs ih =>
    rw [trimRight]
    split
    · split <;> simp
    · next d ds rest =>
      rw [rest] at ih
      exact List.cons_prefix_cons.2 ⟨rfl, ih⟩

theorem Spaced.front {cs ds : List Char} (begun : ds <+: cs) (spaced : Spaced cs) :
    Spaced ds := by
  induction ds generalizing cs with
  | nil => trivial
  | cons d ds ih =>
    cases cs with
    | nil => simp at begun
    | cons c cs =>
      obtain ⟨rfl, rest⟩ := List.cons_prefix_cons.1 begun
      refine ⟨fun blank => ⟨(spaced.1 blank).1, fun e first => ?_⟩, ih rest spaced.2⟩
      obtain ⟨more, rfl⟩ := rest
      exact (spaced.1 blank).2 e (by rw [List.head?_append, Option.mem_def.1 first]; rfl)

theorem spaced_normalize (cs : List Char) : Spaced (normalize cs) := by
  rw [normalize, trimChars, trimLeft_squeeze_false]
  exact (spaced_squeeze true cs).front (trimRight_begins _)

end SchemaPool.Sql
