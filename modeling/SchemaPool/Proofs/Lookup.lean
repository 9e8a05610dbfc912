import Mathlib.Data.List.Nodup

/-! # Lists of pairs as tables

A table of distinct keys holds what is listed, in whatever order it is listed
(`lookup_eq_some_iff_mem`, `lookup_eq_of_perm`). -/

namespace SchemaPool

variable {α β : Type} [DecidableEq α] {l l' : List (α × β)} {k : α} {v : β}

/-- It is enough that the key is nowhere listed with another value. -/
theorem lookup_eq_some_of_only {m : α × β} (member : m ∈ l) (only : ∀ n ∈ l, n.1 = m.1 → n = m) :
    l.lookup m.1 = some m.2 := by
  have found : (l.lookup m.1).isSome = true := List.lookup_isSome_iff.2 ⟨m, member, by simp⟩
  obtain ⟨v, value⟩ := Option.isSome_iff_exists.1 found
  obtain ⟨before, behind, whole, -⟩ := List.lookup_eq_some_iff.1 value
  have same : (m.1, v) = m := only (m.1, v) (by simp [whole]) rfl
  rw [value, ← same]

theorem lookup_eq_none_iff_not_mem : l.lookup k = none ↔ k ∉ l.map Prod.fst := by
  rw [List.lookup_eq_none_iff]
  constructor
  · intro other listed
    obtain ⟨m, member, rfl⟩ := List.mem_map.1 listed
    exact absurd rfl (bne_iff_ne.1 (other m member))
  · intro unlisted m member
    rw [bne_iff_ne]
    rintro rfl
    exact unlisted (List.mem_map_of_mem member)

theorem lookup_eq_some_iff_mem (distinct : (l.map Prod.fst).Nodup) :
    l.lookup k = some v ↔ (k, v) ∈ l := by
  constructor
  · intro value
    obtain ⟨before, behind, whole, -⟩ := List.lookup_eq_some_iff.1 value
    simp [whole]
  · intro member
    exact lookup_eq_some_of_only member fun n other same =>
      List.inj_on_of_nodup_map distinct other member same

theorem lookup_eq_of_perm (distinct : (l.map Prod.fst).Nodup) (perm : l.Perm l') :
    l.lookup k = l'.lookup k := by
  have distinct' : (l'.map Prod.fst).Nodup := (perm.map Prod.fst).nodup_iff.1 distinct
  ext v
  rw [lookup_eq_some_iff_mem distinct, lookup_eq_some_iff_mem distinct', perm.mem_iff]

/-- Items listed under names are found by their places. -/
theorem lookup_zip {names : List α} (distinct : names.Nodup) {i : Nat}
    (place : i < names.length) (items : List β) :
    (names.zip items).lookup names[i] = items[i]? := by
  induction names generalizing items i with
  | nil => cases place
  | cons name names ih =>
    obtain ⟨fresh, distinct⟩ := List.nodup_cons.1 distinct
    cases items with
    | nil => rfl
    | cons v items =>
      cases i with
      | zero => simp
      | succ i =>
        have inside : i < names.length := Nat.lt_of_succ_lt_succ place
        have apart : names[i] ≠ name := fun same => fresh (same ▸ List.getElem_mem inside)
        simp [List.lookup_cons, beq_eq_false_iff_ne.2 apart, ih distinct inside]

end SchemaPool
