import SchemaPool.Proofs.Settings.Masking

/-! # Connection strings without a password

The mask looks for its colon and its at-sign in the whole connection string, whether or not there
are credentials.  So a string with a user alone is never left as it is: everything between the
scheme and the at-sign is covered.  A string without a user is left as it is when it has no at-sign
at all, but an at-sign further on is taken for the end of a password that begins behind the last
colon before it (`passwordless_masked`). -/

namespace SchemaPool

open SchemaPool.Text

/-! ## What is covered -/

theorem maskUrl_of_unsigned {url : String} (unsigned : '@' ∉ url.toList) : maskUrl url = url := by
  have none : cut? ['@'] url.toList = none := by
    cases cut : cut? ['@'] url.toList with
    | none => rfl
    | some pieces =>
      have sign : '@' ∈ url.toList := by
        rw [(cut?_singleton_eq_some_iff.1 cut).1]
        simp
      exact absurd sign unsigned
  rw [maskUrl, maskChars, none, String.ofList_toList]

section

variable {front hidden : String} (behind : String)
  (unsigned : '@' ∉ front.toList ∧ '@' ∉ hidden.toList) (plain : ':' ∉ hidden.toList)

include unsigned plain

theorem maskUrl_cut :
    maskUrl (front ++ ":" ++ hidden ++ "@" ++ behind) = front ++ ":***@" ++ behind := by
  have masked := maskChars_cut behind.toList unsigned plain
  have chars : (front ++ ":" ++ hidden ++ "@" ++ behind).toList =
      front.toList ++ ':' :: hidden.toList ++ '@' :: behind.toList := by
    simp
  rw [maskUrl, chars, masked, ← String.toList_inj]
  simp

/-- The mask shows unless it covers three stars. -/
theorem maskUrl_cut_eq_self_iff :
    maskUrl (front ++ ":" ++ hidden ++ "@" ++ behind) = front ++ ":" ++ hidden ++ "@" ++ behind ↔
      hidden = "***" := by
  have covered : front ++ ":***@" ++ behind = front ++ ":" ++ "***" ++ "@" ++ behind := by
    simp [← String.toList_inj]
  have cancel (shown : String) : front ++ ":" ++ shown ++ "@" ++ behind =
      front ++ ":" ++ hidden ++ "@" ++ behind ↔ shown = hidden := by
    simp [← String.toList_inj]
  rw [maskUrl_cut behind unsigned plain, covered, cancel, eq_comm]

end

theorem exists_last_colon {text : String} (colon : ':' ∈ text.toList) :
    ∃ front hidden : String, text = front ++ ":" ++ hidden ∧ ':' ∉ hidden.toList := by
  cases cut : cutLast? ':' text.toList with
  | none => exact absurd colon (cutLast?_eq_none_iff.1 cut)
  | some pieces =>
    obtain ⟨front, hidden⟩ := pieces
    obtain ⟨whole, last⟩ := cutLast?_eq_some_iff.1 cut
    refine ⟨String.ofList front, String.ofList hidden, ?_, by simpa using last⟩
    rw [← String.toList_inj, whole]
    simp

/-! ## Strings without a password -/

/-- With a user and no password, the mask covers the user and the slashes in front of it.  With no
user, a connection string without at-sign is left alone.  If there is an at-sign behind the
authority, the mask covers what stands between the last colon before the first such sign and that
sign, and so it shows unless three stars stand there already. -/
theorem passwordless_masked (scheme : String)
    (known : scheme = "postgres" ∨ scheme = "postgresql") :
    (∀ user rest : String, ':' ∉ user.toList → '@' ∉ user.toList →
      maskUrl (scheme ++ "://" ++ user ++ "@" ++ rest) = scheme ++ ":***@" ++ rest ∧
      maskUrl (scheme ++ "://" ++ user ++ "@" ++ rest) ≠ scheme ++ "://" ++ user ++ "@" ++ rest) ∧
    (∀ authority rest : String, '@' ∉ authority.toList → '@' ∉ rest.toList →
      maskUrl (scheme ++ "://" ++ authority ++ rest) = scheme ++ "://" ++ authority ++ rest) ∧
    ∀ authority before behind : String, '@' ∉ authority.toList → '@' ∉ before.toList →
      let url := scheme ++ "://" ++ authority ++ (before ++ "@" ++ behind)
      ∃ front hidden : String, scheme ++ "://" ++ authority ++ before = front ++ ":" ++ hidden ∧
        ':' ∉ hidden.toList ∧ maskUrl url = front ++ ":***@" ++ behind ∧
        (maskUrl url = url ↔ hidden = "***") := by
  have unsigned : '@' ∉ scheme.toList := by
    cases known with
    | inl same => simp [same]
    | inr same => simp [same]
  refine ⟨fun user rest uncolonned user' => ?_, fun authority rest authority' rest' => ?_,
    fun authority before behind authority' before' => ?_⟩
  · have split : scheme ++ "://" ++ user ++ "@" ++ rest =
        scheme ++ ":" ++ ("//" ++ user) ++ "@" ++ rest := by
      rw [← String.toList_inj]
      simp
    have apart : '@' ∉ scheme.toList ∧ '@' ∉ ("//" ++ user).toList := by simp [unsigned, user']
    have plain : ':' ∉ ("//" ++ user).toList := by simp [uncolonned]
    rw [split, ne_eq, maskUrl_cut_eq_self_iff rest apart plain]
    refine ⟨maskUrl_cut rest apart plain, ?_⟩
    rw [← String.toList_inj]
    simp
  · apply maskUrl_of_unsigned
    simp [unsigned, authority', rest']
  · intro url
    have colon : ':' ∈ (scheme ++ "://" ++ authority ++ before).toList := by simp
    have free : '@' ∉ (scheme ++ "://" ++ authority ++ before).toList := by
      simp [unsigned, authority', before']
    obtain ⟨front, hidden, whole, last⟩ := exists_last_colon colon
    have split : url = front ++ ":" ++ hidden ++ "@" ++ behind := by
      rw [← whole, ← String.toList_inj]
      simp [url]
    have apart : '@' ∉ front.toList ∧ '@' ∉ hidden.toList := by
      rw [whole] at free
      simpa using free
    rw [split]
    exact ⟨front, hidden, whole, last, maskUrl_cut behind apart last,
      maskUrl_cut_eq_self_iff behind apart last⟩

/-- The user of a connection string is covered, a port is shown, and an at-sign in a parameter
makes the mask cover something. -/
theorem passwordless_masked_of_parameter :
    maskUrl "postgresql://app@db/x" = "postgresql:***@db/x" ∧
      maskUrl "postgresql://db:5432/x" = "postgresql://db:5432/x" ∧
      maskUrl "postgresql://db:5432/x?user=a@b" ≠ "postgresql://db:5432/x?user=a@b" := by
  obtain ⟨named, unsigned, signed⟩ := passwordless_masked "postgresql" (.inr rfl)
  obtain ⟨front, hidden, whole, -, -, same⟩ := signed "db:5432" "/x?user=a" "b" (by simp) (by simp)
  refine ⟨(named "app" "db/x" (by simp) (by simp)).1,
    unsigned "db:5432" "/x" (by simp) (by simp), ?_⟩
  intro shown
  -- The last character in front of the at-sign is no star.
  have ends := congrArg (·.toList.getLast?) (whole.trans (congrArg _ (same.1 shown)))
  simp at ends

/-- A user without a password is covered together with the slashes in front of it, and a port
together with what follows it when a parameter has an at-sign. -/
theorem maskUrl_covers_without_password :
    maskUrl "postgres://user@localhost/db" = "postgres:***@localhost/db" ∧
      maskUrl "postgres://localhost:5432/db?user=a@b" = "postgres://localhost:***@b" := by
  decide +kernel

end SchemaPool
