import SchemaPool.CommandLine.Basic
import SchemaPool.Settings.Validation

/-! # What is shown of a password

A connection string with credentials is shown with stars between the last colon before the first
at-sign and that at-sign.  A password without colons is hidden whole by this.  Of any other
password everything up to its last colon remains to be seen (`maskUrl_credentialUrl`), and that
part alone decides whether two passwords can be told apart by what is shown and logged of the
settings (`shown_alike_iff`). -/

namespace SchemaPool

open SchemaPool.Text

/-- A connection string with a user and a password. -/
def credentialUrl (scheme user password rest : String) : String :=
  scheme ++ "://" ++ user ++ ":" ++ password ++ "@" ++ rest

def exposedChars (password : List Char) : List Char :=
  match cutLast? ':' password with
  | some (before, _) => before ++ [':']
  | none => []

/-- The part of a password that is not hidden: everything up to its last colon. -/
def exposed (password : String) : String := String.ofList (exposedChars password.toList)

theorem exposed_eq_empty_iff {password : String} :
    exposed password = "" ↔ ':' ∉ password.toList := by
  have empty : exposed password = "" ↔ exposedChars password.toList = [] := by
    rw [← String.toList_inj, exposed, String.toList_ofList]
    rfl
  rw [empty, ← cutLast?_eq_none_iff, exposedChars]
  cases cutLast? ':' password.toList <;> simp

/-- The mask covers what stands between the last colon before the first at-sign and that sign. -/
theorem maskChars_cut {front hidden : List Char} (rest : List Char)
    (unsigned : '@' ∉ front ∧ '@' ∉ hidden) (plain : ':' ∉ hidden) :
    maskChars (front ++ ':' :: hidden ++ '@' :: rest) = front ++ ":***@".toList ++ rest := by
  have signed : cut? ['@'] (front ++ ':' :: hidden ++ '@' :: rest) =
      some (front ++ ':' :: hidden, rest) := by
    apply cut?_singleton_eq_some_iff.2
    simp [unsigned]
  have last : cutLast? ':' (front ++ ':' :: hidden) = some (front, hidden) :=
    cutLast?_eq_some_iff.2 ⟨rfl, plain⟩
  rw [maskChars, signed]
  simp only [last]

/-- The mask begins at the last colon before the at-sign, which is the password's last colon, or
else the one in front of the password. -/
theorem maskChars_credentials {front password : List Char} (rest : List Char)
    (unsigned : '@' ∉ front ∧ '@' ∉ password) :
    maskChars (front ++ ':' :: password ++ '@' :: rest) =
      front ++ ':' :: exposedChars password ++ "***@".toList ++ rest := by
  rw [exposedChars]
  cases cut : cutLast? ':' password with
  | none =>
    rw [maskChars_cut rest unsigned (cutLast?_eq_none_iff.1 cut)]
    simp
  | some pieces =>
    obtain ⟨before, after⟩ := pieces
    obtain ⟨rfl, free⟩ := cutLast?_eq_some_iff.1 cut
    have apart : '@' ∉ front ++ ':' :: before ∧ '@' ∉ after := by
      simp only [List.mem_append, List.mem_cons, not_or] at unsigned ⊢
      exact ⟨⟨unsigned.1, unsigned.2.2.1, unsigned.2.1⟩, unsigned.2.2.2⟩
    have masked := maskChars_cut rest apart free
    simp only [List.append_assoc, List.cons_append] at masked ⊢
    rw [masked]
    simp

theorem maskUrl_credentialUrl {scheme user password : String} (rest : String)
    (unsigned : '@' ∉ scheme.toList ∧ '@' ∉ user.toList ∧ '@' ∉ password.toList) :
    maskUrl (credentialUrl scheme user password rest) =
      credentialUrl scheme user (exposed password ++ "***") rest := by
  have front : '@' ∉ scheme.toList ++ "://".toList ++ user.toList := by
    simp [unsigned.1, unsigned.2.1]
  have masked := maskChars_credentials rest.toList ⟨front, unsigned.2.2⟩
  have chars : (credentialUrl scheme user password rest).toList =
      scheme.toList ++ "://".toList ++ user.toList ++ ':' :: password.toList ++
        '@' :: rest.toList := by
    simp [credentialUrl]
  rw [maskUrl, chars, masked, ← String.toList_inj]
  simp [credentialUrl, exposed]

/-- Whatever stands between the same user and the same rest can be read off. -/
theorem credentialUrl_inj {scheme user p q rest : String} :
    credentialUrl scheme user p rest = credentialUrl scheme user q rest ↔ p = q := by
  simp [credentialUrl, ← String.toList_inj]

/-- Nothing is remarked upon in a connection string of a known scheme. -/
theorem validationNotes_of_hasScheme {s : Settings} (known : s.hasScheme = true) :
    s.validationNotes = [] := by
  rw [Settings.validationNotes]
  cases s.checkTexts with
  | error f => rfl
  | ok => simp [known]

theorem hasScheme_credentialUrl (s : Settings) {scheme : String}
    (known : scheme = "postgres" ∨ scheme = "postgresql") (user password rest : String) :
    ({ s with url := credentialUrl scheme user password rest } : Settings).hasScheme = true := by
  have begun : (scheme ++ "://").toList <+:
      (credentialUrl scheme user password rest).toList := by
    simp [credentialUrl]
  rw [Settings.hasScheme, Bool.or_eq_true, beginsWith_iff, beginsWith_iff]
  cases known with
  | inl same => exact .inl (same ▸ begun)
  | inr same => exact .inr (same ▸ begun)

/-- Everything that shows settings shows the masked connection string only. -/
theorem shown_of_masked_eq (s : Settings) {u v : String} (same : maskUrl u = maskUrl v) :
    let one : Settings := { s with url := u }
    let other : Settings := { s with url := v }
    one.maskedUrl = other.maskedUrl ∧ one.view = other.view ∧ one.display = other.display ∧
      one.entry = other.entry := by
  simp only [Settings.maskedUrl, Settings.view, Settings.display, Settings.entry, same, and_self]

/-- The masked connection string has the password's exposed part before the stars, so it has the
stars alone for a password without colons.  Two settings that differ in such passwords only are
shown and logged alike just if the exposed parts agree. -/
theorem shown_alike_iff (s : Settings) {scheme user p q : String} (rest : String)
    (known : scheme = "postgres" ∨ scheme = "postgresql")
    (plain : ':' ∉ user.toList ∧ '@' ∉ user.toList ∧ '/' ∉ user.toList)
    (first : p ≠ "" ∧ '@' ∉ p.toList ∧ '/' ∉ p.toList)
    (second : q ≠ "" ∧ '@' ∉ q.toList ∧ '/' ∉ q.toList) :
    let one : Settings := { s with url := credentialUrl scheme user p rest }
    let other : Settings := { s with url := credentialUrl scheme user q rest }
    one.maskedUrl = credentialUrl scheme user (exposed p ++ "***") rest ∧
    (exposed p = "" ↔ ':' ∉ p.toList) ∧
    (one.maskedUrl = other.maskedUrl ↔ exposed p = exposed q) ∧
    (exposed p = exposed q → one.view = other.view ∧ one.display = other.display ∧
      one.validationNotes = other.validationNotes ∧ one.entry = other.entry) := by
  have scheme' : '@' ∉ scheme.toList := by
    cases known with
    | inl same => exact same ▸ by decide
    | inr same => exact same ▸ by decide
  have one := maskUrl_credentialUrl rest ⟨scheme', plain.2.1, first.2.1⟩
  have other := maskUrl_credentialUrl rest ⟨scheme', plain.2.1, second.2.1⟩
  have alike : maskUrl (credentialUrl scheme user p rest) =
      maskUrl (credentialUrl scheme user q rest) ↔ exposed p = exposed q := by
    rw [one, other, credentialUrl_inj, ← String.toList_inj, ← String.toList_inj]
    simp
  refine ⟨one, exposed_eq_empty_iff, alike, ?_⟩
  intro same
  obtain ⟨-, view, display, entry⟩ := shown_of_masked_eq s (alike.2 same)
  refine ⟨view, display, ?_, entry⟩
  rw [validationNotes_of_hasScheme (hasScheme_credentialUrl s known user p rest),
    validationNotes_of_hasScheme (hasScheme_credentialUrl s known user q rest)]

/-- Passwords that differ behind their last colon cannot be told apart. -/
theorem shown_alike_of_same_exposed :
    let one := Settings.new (credentialUrl "postgres" "app" "s3:cret" "db:5432/a@b")
    let other := Settings.new (credentialUrl "postgres" "app" "s3:word" "db:5432/a@b")
    one.maskedUrl = "postgres://app:s3:***@db:5432/a@b" ∧ one.maskedUrl = other.maskedUrl ∧
      one.view = other.view ∧ one.display = other.display := by
  obtain ⟨masked, -, alike, shown⟩ := shown_alike_iff (Settings.new "") "db:5432/a@b" (.inl rfl)
    (by decide : ':' ∉ "app".toList ∧ '@' ∉ "app".toList ∧ '/' ∉ "app".toList)
    (by decide : "s3:cret" ≠ "" ∧ '@' ∉ "s3:cret".toList ∧ '/' ∉ "s3:cret".toList)
    (by decide : "s3:word" ≠ "" ∧ '@' ∉ "s3:word".toList ∧ '/' ∉ "s3:word".toList)
  have same : exposed "s3:cret" = exposed "s3:word" := by decide +kernel
  refine ⟨?_, alike.2 same, (shown same).1, (shown same).2.1⟩
  exact masked.trans (by decide +kernel)

/-- The mask leaves the beginning of a password with a colon in it to be read, so that two such
passwords are told apart. -/
theorem maskUrl_exposes_password_with_colon :
    maskUrl (credentialUrl "postgres" "user" "s3:cret" "localhost/db") =
        "postgres://user:s3:***@localhost/db" ∧
      maskUrl (credentialUrl "postgres" "user" "s3:cret" "localhost/db") ≠
        maskUrl (credentialUrl "postgres" "user" "s4:cret" "localhost/db") := by
  decide +kernel

end SchemaPool
