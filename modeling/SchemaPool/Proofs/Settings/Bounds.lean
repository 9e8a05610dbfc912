import SchemaPool.Settings.Validation

/-! # What sound settings are

Settings are sound when neither text is blank and every number that is set lies in its range.  The
checks find the first fault in a fixed order: the connection string, the schema, and then the
numbers as they are listed (`validate_of_not_textsGiven`, `validate_of_broken`). -/

namespace SchemaPool.Settings

open SchemaPool.Text

/-- A number that is set, with its name and the range in which it has to lie. -/
structure Bound where
  name : String
  value : Nat
  least : Nat
  greatest : Nat
deriving DecidableEq, Repr

namespace Bound

def isKept (b : Bound) : Bool := b.least ≤ b.value && b.value ≤ b.greatest

def complaint (b : Bound) : String :=
  b.name ++ " is " ++ toString b.value ++ ", expected " ++ toString b.least ++ "..=" ++
    toString b.greatest

def ofLimit (limit : Limit) (value : Nat) : Bound := ⟨limit.name, value, limit.least, limit.greatest⟩

end Bound

/-- The numbers that are set, in the order in which they are checked. -/
def bounds (s : Settings) : List Bound :=
  ⟨"max_connections", s.maxConnections.toNat, 2, 16⟩ ::
    ((s.connectionTimeout.toList.map fun n => ⟨"connection_timeout_secs", n.toNat, 1, 300⟩) ++
      (s.idleTimeout.toList.map fun n => ⟨"idle_timeout_secs", n.toNat, 30, 3600⟩))

/-- The first of the numbers that does not lie in its range, if there is one. -/
def broken? (s : Settings) : Option Bound := s.bounds.find? (!·.isKept)

theorem broken?_eq_none_iff {s : Settings} :
    s.broken? = none ↔ ∀ b ∈ s.bounds, b.isKept = true := by
  simp [broken?]

/-! ## Checks of numbers -/

/-- The result of checking these numbers tells of the first that does not lie in its range. -/
def Tells (bs : List Bound) (result : Except Failure Unit) : Prop :=
  match bs.find? (!·.isKept) with
  | none => result = .ok ()
  | some b => ∃ fault, result = .error (.config fault) ∧ fault.message = b.complaint

namespace Tells

variable {bs : List Bound} {rest : Except Failure Unit}

theorem nil : Tells [] (.ok ()) := rfl

theorem cons (limit : Limit) (value : Nat) (tells : Tells bs rest) :
    Tells (.ofLimit limit value :: bs) (checkLimit limit value >>= fun _ => rest) := by
  have allowed : (Bound.ofLimit limit value).isKept = limit.allows value := rfl
  rw [Tells, List.find?_cons, allowed, checkLimit]
  cases limit.allows value with
  | true => exact tells
  | false => exact ⟨_, rfl, rfl⟩

theorem optional (limit : Limit) (value : Option UInt64) (tells : Tells bs rest) :
    Tells (value.toList.map (.ofLimit limit ·.toNat) ++ bs)
      (checkOptional limit value >>= fun _ => rest) := by
  cases value with
  | none => exact tells
  | some n => exact cons limit n.toNat tells

end Tells

theorem checkNumbers_tells (s : Settings) : Tells s.bounds s.checkNumbers := by
  have last := Tells.optional .idleTimeout s.idleTimeout .nil
  have idle : (checkOptional .idleTimeout s.idleTimeout >>= fun _ => .ok ()) =
      checkOptional .idleTimeout s.idleTimeout := by
    cases checkOptional .idleTimeout s.idleTimeout <;> rfl
  rw [idle, List.append_nil] at last
  exact (last.optional .connectionTimeout s.connectionTimeout).cons .maxConnections
    s.maxConnections.toNat

/-! ## All checks -/

/-- Both texts hold more than blanks. -/
def textsGiven (s : Settings) : Bool := !isBlank s.url && !isBlank s.schema

/-- The text that is found to be blank first. -/
def blankText (s : Settings) : ArgumentFault := if isBlank s.url then .blankUrl else .blankSchema

theorem checkTexts_eq (s : Settings) :
    s.checkTexts = if s.textsGiven then .ok () else .error (.invalidArgument s.blankText) := by
  have schema : trim s.schema = "" ↔ isBlank s.schema = true := trim_eq_empty_iff
  rw [checkTexts, schemaName, SchemaName.ofString, textsGiven, blankText]
  cases url : isBlank s.url with
  | true => rfl
  | false =>
    cases blank : isBlank s.schema with
    | true =>
      rw [dif_pos (schema.2 blank)]
      rfl
    | false =>
      have filled : trim s.schema ≠ "" := fun empty => by simp [schema.1 empty] at blank
      rw [dif_neg filled]
      rfl

/-- Numbers are looked at only if the texts are in order. -/
theorem validate_of_not_textsGiven {s : Settings} (blank : s.textsGiven = false) :
    s.validate = .error (.invalidArgument s.blankText) := by
  rw [validate, checkTexts_eq, blank]
  rfl

theorem validate_of_textsGiven {s : Settings} (given : s.textsGiven = true) :
    Tells s.bounds s.validate := by
  rw [validate, checkTexts_eq, given]
  exact checkNumbers_tells s

theorem validate_of_sound {s : Settings} (given : s.textsGiven = true) (kept : s.broken? = none) :
    s.validate = .ok () := by
  have tells := validate_of_textsGiven given
  rw [broken?] at kept
  rwa [Tells, kept] at tells

theorem validate_of_broken {s : Settings} (given : s.textsGiven = true) {b : Bound}
    (broken : s.broken? = some b) :
    ∃ fault, s.validate = .error (.config fault) ∧ fault.message = b.complaint := by
  have tells := validate_of_textsGiven given
  rw [broken?] at broken
  rwa [Tells, broken] at tells

theorem exists_invalid {s : Settings} (unsound : ¬ (s.textsGiven = true ∧ s.broken? = none)) :
    ∃ f, s.validate = .error f := by
  cases given : s.textsGiven with
  | false => exact ⟨_, validate_of_not_textsGiven given⟩
  | true =>
    cases broken : s.broken? with
    | none => exact absurd ⟨given, broken⟩ unsound
    | some b =>
      obtain ⟨fault, invalid, -⟩ := validate_of_broken given broken
      exact ⟨_, invalid⟩

end SchemaPool.Settings
