import SchemaPool.Proofs.Settings.Passwordless

/-! # What a masked connection string tells

The text that the mask hides is found from the first at-sign and the last colon before it, so there
is one way at most to cut a connection string at it (`Hides.unique`).  The stars that take its place
stand at the same cut of the masked string (`hides_maskUrl_iff`).  So everything outside of the
hidden text can be read off a masked string, nothing else can, and masking once more changes
nothing (`masked_alike_iff`). -/

namespace SchemaPool

open SchemaPool.Text

/-- The connection string has a colon before its first at-sign, and `hidden` stands between the last
such colon and that at-sign. -/
structure Hides (url front hidden behind : String) : Prop where
  whole : url = front ++ ":" ++ hidden ++ "@" ++ behind
  unsigned : '@' ∉ front.toList ∧ '@' ∉ hidden.toList
  plain : ':' ∉ hidden.toList

variable {url front hidden behind front' hidden' behind' : String}

namespace Hides

theorem unique (one : Hides url front hidden behind) (other : Hides url front' hidden' behind') :
    front = front' ∧ hidden = hidden' ∧ behind = behind' := by
  have signed {f h b : String} (cut : Hides url f h b) :
      cut? ['@'] url.toList = some (f.toList ++ ':' :: h.toList, b.toList) := by
    rw [cut?_singleton_eq_some_iff, cut.whole]
    simp [cut.unsigned]
  have last {f h b : String} (cut : Hides url f h b) :
      cutLast? ':' (f.toList ++ ':' :: h.toList) = some (f.toList, h.toList) :=
    cutLast?_eq_some_iff.2 ⟨rfl, cut.plain⟩
  have same := (signed one).symm.trans (signed other)
  simp only [Option.some.injEq, Prod.mk.injEq] at same
  have colon := last one
  rw [same.1, last other] at colon
  simp only [Option.some.injEq, Prod.mk.injEq] at colon
  exact ⟨String.toList_inj.1 colon.1.symm, String.toList_inj.1 colon.2.symm,
    String.toList_inj.1 same.2⟩

theorem masked (hides : Hides url front hidden behind) :
    maskUrl url = front ++ ":***@" ++ behind := by
  rw [hides.whole]
  exact maskUrl_cut behind hides.unsigned hides.plain

/-- The mask hides its own stars. -/
theorem stars (hides : Hides url front hidden behind) :
    Hides (maskUrl url) front "***" behind where
  whole := by
    rw [hides.masked, ← String.toList_inj]
    simp
  unsigned := ⟨hides.unsigned.1, by decide⟩
  plain := by decide

end Hides

/-- Where there is nothing to hide the mask changes nothing. -/
theorem hides_or_shown (url : String) :
    (∃ front hidden behind, Hides url front hidden behind) ∨ maskUrl url = url := by
  rw [maskUrl, maskChars]
  cases cut : cut? ['@'] url.toList with
  | none => simp
  | some pieces =>
    obtain ⟨credentials, rest⟩ := pieces
    cases last : cutLast? ':' credentials with
    | none => simp [last]
    | some pieces =>
      obtain ⟨front, hidden⟩ := pieces
      obtain ⟨url_eq, unsigned⟩ := cut?_singleton_eq_some_iff.1 cut
      obtain ⟨rfl, plain⟩ := cutLast?_eq_some_iff.1 last
      left
      refine ⟨String.ofList front, String.ofList hidden, String.ofList rest, ?_, ?_, ?_⟩
      · rw [← String.toList_inj, url_eq]
        simp
      · simpa using unsigned
      · simpa using plain

/-- A masked string tells where something was hidden. -/
theorem hides_maskUrl_iff :
    Hides (maskUrl url) front hidden behind ↔
      hidden = "***" ∧ ∃ covered, Hides url front covered behind := by
  constructor
  · intro stars
    cases hides_or_shown url with
    | inl hides =>
      obtain ⟨f, covered, b, hides⟩ := hides
      obtain ⟨rfl, rfl, rfl⟩ := stars.unique hides.stars
      exact ⟨rfl, covered, hides⟩
    | inr shown =>
      rw [shown] at stars
      have again := stars.stars
      rw [shown] at again
      exact ⟨(stars.unique again).2.1, hidden, stars⟩
  · rintro ⟨rfl, covered, hides⟩
    exact hides.stars

theorem maskUrl_maskUrl (url : String) : maskUrl (maskUrl url) = maskUrl url := by
  cases hides_or_shown url with
  | inl hides =>
    obtain ⟨front, hidden, behind, hides⟩ := hides
    rw [hides.stars.masked, hides.masked]
  | inr shown => rw [shown, shown]

/-- Two connection strings look alike under the mask just if they are the same, or both hide
something and are the same outside of what they hide.  A masked string is its own mask. -/
theorem masked_alike_iff :
    (∀ u v : String, maskUrl u = maskUrl v ↔
      u = v ∨ ∃ front one other behind, Hides u front one behind ∧ Hides v front other behind) ∧
    ∀ url : String, maskUrl (maskUrl url) = maskUrl url := by
  refine ⟨fun u v => ⟨fun alike => ?_, ?_⟩, maskUrl_maskUrl⟩
  · cases hides_or_shown u with
    | inl hides =>
      obtain ⟨front, one, behind, hides⟩ := hides
      have stars := hides.stars
      rw [alike] at stars
      obtain ⟨-, other, also⟩ := hides_maskUrl_iff.1 stars
      exact .inr ⟨front, one, other, behind, hides, also⟩
    | inr shown =>
      cases hides_or_shown v with
      | inl hides =>
        obtain ⟨front, other, behind, hides⟩ := hides
        have stars := hides.stars
        rw [← alike, shown] at stars
        exact .inr ⟨front, "***", other, behind, stars, hides⟩
      | inr also => exact .inl (shown.symm.trans (alike.trans also))
  · rintro (rfl | ⟨front, one, other, behind, hides, also⟩)
    · rfl
    · rw [hides.masked, also.masked]

end SchemaPool
