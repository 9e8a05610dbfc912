import SchemaPool.Proofs.Lookup
import SchemaPool.Settings.Codec

/-! # Forms that settings are read from

Settings are written in one form and read from many: the members of the object may stand in any
order and among others, those with their standards may be missing, and the values alone may stand
in an array, of which the last may be missing.  An array is read like the object that gives its
items their names (`ofJson?_array`), and of an object, which must not give a field twice, each field
is read from exactly the one value that it is written as (`ofJson?_object_iff`).  So what has been read is written as something that
is read in the same way, and `null` stands for nothing but a timeout that is not set
(`Settings.read_as_written`). -/

namespace SchemaPool

/-! ## Single values -/

/-- What is read with `read` has been written with `write`. -/
def Inverts {α : Type} (read : Json → Option α) (write : α → Json) : Prop :=
  ∀ v a, read v = some a ↔ v = write a

namespace Json

/-- A whole number is read if it is no greater than the limit. -/
def whole? {α : Type} (limit : Nat) (ofNat : Nat → α) : Json → Option α
  | .int (.ofNat n) => if n ≤ limit then some (ofNat n) else none
  | _ => none

theorem whole?_inverts {α : Type} {limit : Nat} {of : Nat → α} {value : α → Nat}
    (fits : ∀ a, value a ≤ limit) (whole : ∀ a, of (value a) = a)
    (same : ∀ n ≤ limit, value (of n) = n) :
    Inverts (whole? limit of) fun a => ofNat (value a) := by
  intro v a
  constructor
  · intro read
    unfold whole? at read
    split at read
    · next n =>
      split at read
      · next bound =>
        obtain rfl := Option.some.inj read
        simp [ofNat, same n bound]
      · cases read
    · cases read
  · rintro rfl
    simp [whole?, ofNat, fits a, whole a]

theorem word?_inverts : Inverts word? fun n => ofNat n.toNat := by
  have whole : word? = whole? Text.maxWord .ofNat := rfl
  rw [whole]
  exact whole?_inverts (fun n => Nat.le_of_lt_succ n.toNat_lt) (fun _ => UInt64.ofNat_toNat)
    fun _ bound => UInt64.toNat_ofNat_of_lt' (Nat.lt_succ_of_le bound)

theorem halfWord?_inverts : Inverts halfWord? fun n => ofNat n.toNat := by
  have whole : halfWord? = whole? Text.maxHalfWord .ofNat := rfl
  rw [whole]
  exact whole?_inverts (fun n => Nat.le_of_lt_succ n.toNat_lt) (fun _ => UInt32.ofNat_toNat)
    fun _ bound => UInt32.toNat_ofNat_of_lt' (Nat.lt_succ_of_le bound)

theorem str?_inverts : Inverts str? str := by
  intro v t
  cases v <;> simp [str?]

theorem optionalWord?_inverts : Inverts optionalWord? (ofOption fun n => ofNat n.toNat) := by
  intro v o
  have other (word : optionalWord? v = v.word?.map some) (filled : v ≠ .null) :
      optionalWord? v = some o ↔ v = ofOption (fun n => ofNat n.toNat) o := by
    rw [word, Option.map_eq_some_iff]
    constructor
    · rintro ⟨n, read, rfl⟩
      exact (word?_inverts v n).1 read
    · intro written
      cases o with
      | none => exact absurd written filled
      | some n => exact ⟨n, (word?_inverts v n).2 written, rfl⟩
  cases v with
  | null => cases o <;> simp [optionalWord?, ofOption, ofNat]
  | _ => exact other rfl nofun

end Json

theorem Threshold.ofJson?_inverts : Inverts ofJson? toJson := by
  intro v t
  rw [ofJson?, Option.map_eq_some_iff, toJson]
  constructor
  · rintro ⟨n, read, rfl⟩
    exact (Json.word?_inverts v n).1 read
  · intro written
    exact ⟨t.millis, (Json.word?_inverts v t.millis).2 written, rfl⟩

/-! ## Fields -/

namespace Settings

variable {s : Settings}

/-- What a field is written as when it has the value that it gets by being left out. -/
def standard? : String → Option Json
  | "postgres_schema" => some (.str "public")
  | "postgres_slow_query_ms" => some (.ofNat 0)
  | "postgres_max_connections" => some (.ofNat 10)
  | "postgres_connection_timeout_secs" => some .null
  | "postgres_idle_timeout_secs" => some .null
  | _ => none

/-- The members of an object, or the items of an array as the fields whose places they have. -/
def entries : Json → List (String × Json)
  | .obj members => members
  | .arr items => fieldNames.zip items
  | _ => []

theorem map_fst_entries (s : Settings) : (entries s.toJson).map Prod.fst = fieldNames := rfl

theorem nodup_fieldNames : fieldNames.Nodup := by decide

/-- Each field is written once. -/
theorem eq_of_name_eq {m n : String × Json} (one : m ∈ entries s.toJson)
    (other : n ∈ entries s.toJson) (same : m.1 = n.1) : m = n :=
  List.inj_on_of_nodup_map (map_fst_entries s ▸ nodup_fieldNames) one other same

/-- The field that is written as `m` is read from what is given for it: from just what it is
written as, or from nothing if that is its standard. -/
def Supplies (given : Option Json) (m : String × Json) : Prop :=
  given = some m.2 ∨ given = none ∧ standard? m.1 = some m.2

theorem supplies_iff {α : Type} {read : Json → Option α} {write : α → Json}
    (inverts : Inverts read write) {name : String} {standard : α}
    (known : standard? name = some (write standard)) {given : Option Json} {a : α} :
    Supplies given (name, write a) ↔
      (match given with
        | some v => read v
        | none => some standard) = some a := by
  cases given with
  | some v => simp [Supplies, inverts v a]
  | none =>
    have same : write standard = write a ↔ standard = a := by
      constructor
      · intro same
        have again := (inverts (write a) a).2 rfl
        rw [← same, (inverts _ standard).2 rfl] at again
        exact Option.some.inj again
      · exact congrArg write
    simp [Supplies, known, same]

/-! ## Objects -/

theorem givenOnce_of_nodup {ms : List (String × Json)} (distinct : (ms.map Prod.fst).Nodup) :
    GivenOnce ms :=
  fun name _ => List.nodup_iff_count_le_one.1 distinct name

theorem givenOnce_zip (items : List Json) : GivenOnce (fieldNames.zip items) := by
  refine givenOnce_of_nodup ?_
  rw [List.zip_eq_zip_take_min, List.map_fst_zip (by simp)]
  exact nodup_fieldNames.sublist (List.take_sublist ..)

/-- Fields that are each given once stay so among members of other names, in any order. -/
theorem GivenOnce.of_perm {kept extra ms : List (String × Json)} (once : GivenOnce kept)
    (other : ∀ m ∈ extra, m.1 ∉ fieldNames) (variant : ms.Perm (kept ++ extra)) :
    GivenOnce ms := by
  intro name field
  have foreign : name ∉ extra.map Prod.fst := by
    rintro given
    obtain ⟨m, here, rfl⟩ := List.mem_map.1 given
    exact other m here field
  rw [(variant.map Prod.fst).count_eq, List.map_append, List.count_append,
    List.count_eq_zero_of_not_mem foreign]
  exact once name field

theorem ofJson?_object_iff {ms : List (String × Json)} :
    ofJson? (.obj ms) = some s ↔
      GivenOnce ms ∧ ∀ m ∈ entries s.toJson, Supplies (ms.lookup m.1) m := by
  have required (given : Option Json) :
      Supplies given ("postgres_url", .str s.url) ↔ given = some (.str s.url) := by
    have none : standard? "postgres_url" = none := rfl
    simp [Supplies, none]
  by_cases once : GivenOnce ms
  case neg => exact iff_of_false (by simp [ofJson?, once]) fun ⟨given, _⟩ => once given
  rw [ofJson?, if_pos once, and_iff_right once]
  simp only [ofValues?, Option.bind_eq_bind, Option.bind_eq_some_iff, toJson, entries,
    List.forall_mem_cons, List.not_mem_nil, false_implies, implies_true, and_true, required]
  constructor
  · rintro ⟨v, url, _, read, _, schema, _, slowQuery, _, maxConnections, _, connectionTimeout, _,
      idleTimeout, same⟩
    obtain rfl := Option.some.inj same
    rw [(Json.str?_inverts v _).1 read] at url
    exact ⟨url, (supplies_iff Json.str?_inverts rfl).2 schema,
      (supplies_iff Threshold.ofJson?_inverts rfl).2 slowQuery,
      (supplies_iff Json.halfWord?_inverts rfl).2 maxConnections,
      (supplies_iff Json.optionalWord?_inverts rfl).2 connectionTimeout,
      (supplies_iff Json.optionalWord?_inverts rfl).2 idleTimeout⟩
  · rintro ⟨url, schema, slowQuery, maxConnections, connectionTimeout, idleTimeout⟩
    exact ⟨_, url, _, rfl, _, (supplies_iff Json.str?_inverts rfl).1 schema,
      _, (supplies_iff Threshold.ofJson?_inverts rfl).1 slowQuery,
      _, (supplies_iff Json.halfWord?_inverts rfl).1 maxConnections,
      _, (supplies_iff Json.optionalWord?_inverts rfl).1 connectionTimeout,
      _, (supplies_iff Json.optionalWord?_inverts rfl).1 idleTimeout, rfl⟩

/-- An object is read as settings when its members are those that the settings are written with,
in any order, apart from some that are left out and some of other names. -/
theorem ofJson?_variant {kept left extra ms : List (String × Json)}
    (parts : (kept ++ left).Perm (entries s.toJson))
    (standard : ∀ m ∈ left, standard? m.1 = some m.2) (other : ∀ m ∈ extra, m.1 ∉ fieldNames)
    (variant : ms.Perm (kept ++ extra)) : ofJson? (.obj ms) = some s := by
  have distinct : (entries s.toJson |>.map Prod.fst).Nodup := map_fst_entries s ▸ nodup_fieldNames
  have once : (kept.map Prod.fst).Nodup :=
    (((parts.map Prod.fst).nodup_iff.2 distinct).sublist
      ((List.sublist_append_left kept left).map Prod.fst))
  refine ofJson?_object_iff.2 ⟨(givenOnce_of_nodup once).of_perm other variant, ?_⟩
  intro m member
  have named : m.1 ∈ fieldNames := by
    rw [← map_fst_entries s]
    exact List.mem_map_of_mem member
  -- What has the name of a field is the field itself.
  have own {n : String × Json} (given : n ∈ ms) (same : n.1 = m.1) : n ∈ kept ∧ n = m := by
    cases List.mem_append.1 (variant.mem_iff.1 given) with
    | inl here =>
      have written : n ∈ entries s.toJson := parts.mem_iff.1 (List.mem_append_left left here)
      exact ⟨here, eq_of_name_eq written member same⟩
    | inr here => exact absurd (same ▸ named) (other n here)
  cases List.mem_append.1 (parts.mem_iff.2 member) with
  | inl here =>
    have given : m ∈ ms := variant.mem_iff.2 (List.mem_append_left extra here)
    exact .inl (lookup_eq_some_of_only given fun n given same => (own given same).2)
  | inr here =>
    refine .inr ⟨?_, standard m here⟩
    rw [List.lookup_eq_none_iff]
    intro n given
    rw [bne_iff_ne]
    intro same
    obtain ⟨there, rfl⟩ := own given same.symm
    exact (List.nodup_append.1 (parts.nodup_iff.2 (.of_map _ distinct))).2.2 n there n here rfl

/-! ## Arrays -/

/-- An array of no more items than there are fields is read like the object with these entries. -/
theorem ofJson?_array {items : List Json} :
    ofJson? (.arr items) =
      if items.length ≤ 6 then ofJson? (.obj (entries (.arr items))) else none := by
  have named (i : Nat) (place : i < fieldNames.length) :
      (fieldNames.zip items).lookup fieldNames[i] = items[i]? :=
    lookup_zip nodup_fieldNames place items
  rw [show ofJson? (.obj (entries (.arr items))) = _ from if_pos (givenOnce_zip items)]
  change (if items.length ≤ 6 then
    ofValues? items[0]? items[1]? items[2]? items[3]? items[4]? items[5]? else none) = _
  rw [← named 0 (by decide), ← named 1 (by decide), ← named 2 (by decide),
    ← named 3 (by decide), ← named 4 (by decide), ← named 5 (by decide)]
  rfl

/-- Values in their places are given their names back. -/
theorem entries_array {kept left : List (String × Json)} (parts : entries s.toJson = kept ++ left) :
    entries (.arr (kept.map Prod.snd)) = kept := by
  have names : fieldNames = kept.map Prod.fst ++ left.map Prod.fst := by
    rw [← map_fst_entries s, parts, List.map_append]
  rw [entries, names, ← List.append_nil (kept.map Prod.snd), List.zip_append (by simp),
    List.zip_nil_right, List.append_nil]
  exact (List.zip_of_prod rfl rfl).symm

/-! ## Nothing -/

theorem timeout_of_null {m : String × Json} (member : m ∈ entries s.toJson) (null : m.2 = .null) :
    m.1 = "postgres_connection_timeout_secs" ∨ m.1 = "postgres_idle_timeout_secs" := by
  obtain ⟨name, v⟩ := m
  subst null
  simp only [toJson, entries, Json.ofNat, Threshold.toJson, List.mem_cons, Prod.mk.injEq,
    reduceCtorEq, and_false, false_or, List.not_mem_nil, or_false] at member
  exact member.imp And.left And.left

/-- The settings that have been written are read, and so are all variants of what has been written
that say the same.  What is read as settings gives every field as just what they are written with,
or leaves it out where that is the standard. -/
theorem read_as_written :
    (∀ s : Settings, ofJson? s.toJson = some s) ∧
    (∀ (s : Settings) (kept left extra ms : List (String × Json)),
      (kept ++ left).Perm (entries s.toJson) → (∀ m ∈ left, standard? m.1 = some m.2) →
      (∀ m ∈ extra, m.1 ∉ fieldNames) → ms.Perm (kept ++ extra) →
      ofJson? (.obj ms) = some s) ∧
    (∀ (s : Settings) (kept left : List (String × Json)), entries s.toJson = kept ++ left →
      (∀ m ∈ left, standard? m.1 = some m.2) → ofJson? (.arr (kept.map Prod.snd)) = some s) ∧
    (∀ (s : Settings) (v : Json), ofJson? v = some s → ofJson? s.toJson = some s ∧
      ((∃ ms, v = .obj ms) ∨ ∃ items, v = .arr items ∧ items.length ≤ 6) ∧
      ∀ m ∈ entries s.toJson, (entries v).lookup m.1 = some m.2 ∨
        (entries v).lookup m.1 = none ∧ standard? m.1 = some m.2) ∧
    ∀ (s : Settings) (v : Json) (name : String), ofJson? v = some s → name ∈ fieldNames →
      (entries v).lookup name = some .null →
      name = "postgres_connection_timeout_secs" ∨ name = "postgres_idle_timeout_secs" := by
  have again (s : Settings) : ofJson? s.toJson = some s :=
    ofJson?_variant (.of_eq (List.append_nil _)) (List.forall_mem_nil _)
      (List.forall_mem_nil _) (.of_eq (List.append_nil _).symm)
  have accepted {s : Settings} {v : Json} (read : ofJson? v = some s) :
      ((∃ ms, v = .obj ms) ∨ ∃ items, v = .arr items ∧ items.length ≤ 6) ∧
        ∀ m ∈ entries s.toJson, Supplies ((entries v).lookup m.1) m := by
    cases v with
    | obj ms => exact ⟨.inl ⟨ms, rfl⟩, (ofJson?_object_iff.1 read).2⟩
    | arr items =>
      rw [ofJson?_array] at read
      split at read
      · next short => exact ⟨.inr ⟨items, rfl, short⟩, (ofJson?_object_iff.1 read).2⟩
      · cases read
    | _ => cases read
  refine ⟨again, fun s kept left extra ms => ofJson?_variant, fun s kept left parts standard => ?_,
    fun s v read => ⟨again s, accepted read⟩, fun s v name read named null => ?_⟩
  · have length := congrArg List.length parts
    have six : (entries s.toJson).length = 6 := rfl
    have short : (kept.map Prod.snd).length ≤ 6 := by
      rw [six, List.length_append] at length
      rw [List.length_map]
      omega
    rw [ofJson?_array, if_pos short, entries_array parts]
    exact ofJson?_variant (.of_eq parts.symm) standard (List.forall_mem_nil _)
      (.of_eq (List.append_nil kept).symm)
  · obtain ⟨m, member, rfl⟩ : ∃ m ∈ entries s.toJson, m.1 = name := by
      rwa [← map_fst_entries s, List.mem_map] at named
    cases (accepted read).2 m member with
    | inl given =>
      rw [null] at given
      exact timeout_of_null member (Option.some.inj given).symm
    | inr missing =>
      rw [null] at missing
      cases missing.1

/-- Members in another order with one of an unknown name, an array that is not complete and how it
is written again, and a schema that is `null`. -/
theorem read_as_written_of_partial :
    let s : Settings := ⟨"postgres://db", "public", ⟨250⟩, 10, none, some 60⟩
    ofJson? (.obj [("postgres_idle_timeout_secs", .ofNat 60), ("retries", .null),
      ("postgres_url", .str "postgres://db"), ("postgres_slow_query_ms", .ofNat 250)]) = some s ∧
    ofJson? (.arr [.str "postgres://db", .str "public", .ofNat 250]) =
      some { s with idleTimeout := none } ∧
    ofJson? { s with idleTimeout := none }.toJson = some { s with idleTimeout := none } ∧
    ofJson? (.obj [("postgres_url", .str "postgres://db"), ("postgres_schema", .null)]) = none := by
  intro s
  obtain ⟨-, variant, array, again, null⟩ := read_as_written
  have partly : ofJson? (.arr [.str "postgres://db", .str "public", .ofNat 250]) =
      some { s with idleTimeout := none } :=
    array { s with idleTimeout := none }
      [("postgres_url", .str "postgres://db"), ("postgres_schema", .str "public"),
        ("postgres_slow_query_ms", .ofNat 250)]
      [("postgres_max_connections", .ofNat 10), ("postgres_connection_timeout_secs", .null),
        ("postgres_idle_timeout_secs", .null)] rfl (by simp [standard?])
  refine ⟨?_, partly, (again _ _ partly).1, ?_⟩
  · refine variant s
      [("postgres_idle_timeout_secs", .ofNat 60), ("postgres_url", .str "postgres://db"),
        ("postgres_slow_query_ms", .ofNat 250)]
      [("postgres_schema", .str "public"), ("postgres_max_connections", .ofNat 10),
        ("postgres_connection_timeout_secs", .null)]
      [("retries", .null)] _ ?_ (by simp [standard?]) (by decide) ?_
    · exact (((List.Perm.swap _ _ _).cons _).cons _).trans
        (@List.perm_append_comm _ [("postgres_idle_timeout_secs", Json.ofNat 60)] _)
    · exact (@List.perm_append_comm _ [("retries", Json.null)] _).cons _
  · cases read : ofJson? (.obj [("postgres_url", .str "postgres://db"),
      ("postgres_schema", .null)]) with
    | none => rfl
    | some s => exact absurd (null s _ "postgres_schema" read (by decide) rfl) (by decide)

end Settings

end SchemaPool
