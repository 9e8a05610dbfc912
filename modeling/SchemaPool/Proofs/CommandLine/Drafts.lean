import Mathlib.Logic.Function.Basic
import SchemaPool.Proofs.CommandLine.Grammar
import SchemaPool.Proofs.Lookup

/-! # Options and the texts they are set to

What options have been set to is given by the texts that they have been set to (`Draft.of`), and
setting another or filling up from the environment comes down to giving another text
(`Draft.putAll_of_eq_ok_iff`, `Draft.fill_of`).  The settings that come out are those that the
texts say (`Settings.takes_iff`). -/

namespace SchemaPool

variable {given : CliOption → Option String} {o : CliOption} {text : String}

/-- Whether the option can be set to the text. -/
def CliOption.admits : CliOption → String → Bool
  | maxConnections, text => (Draft.connections? text).isSome
  | connectionTimeout, text => (Draft.seconds? text).isSome
  | idleTimeout, text => (Draft.seconds? text).isSome
  | _, _ => true

/-- Every option can be set to the text that is given for it. -/
def Admissible (given : CliOption → Option String) : Prop :=
  ∀ o, (given o).all o.admits = true

theorem Admissible.update {t : Option String} (admissible : Admissible given)
    (admits : t.all o.admits = true) : Admissible (Function.update given o t) := by
  intro p
  by_cases same : p = o
  · subst same
    rwa [Function.update_self]
  · rw [Function.update_of_ne same]
    exact admissible p

theorem Admissible.of_or {other : CliOption → Option String}
    (admissible : Admissible fun o => (given o).or (other o)) : Admissible given := by
  intro o
  have admits := admissible o
  cases texts : given o with
  | none => rfl
  | some text =>
    dsimp only at admits
    rwa [texts] at admits

/-! ## Single options -/

namespace Draft

/-- What the options are set to by the texts that are given for them. -/
def of (given : CliOption → Option String) : Draft where
  url := given .url
  schema := given .schema
  slowQuery := (given .slowQuery).map .ofText
  maxConnections := (given .maxConnections).bind connections?
  connectionTimeout := (given .connectionTimeout).bind seconds?
  idleTimeout := (given .idleTimeout).bind seconds?

theorem has_of (admissible : Admissible given) (o : CliOption) :
    (of given).has o = (given o).isSome := by
  cases texts : given o with
  | none => cases o <;> simp [of, has, texts]
  | some text =>
    have admits := admissible o
    rw [texts] at admits
    cases o <;> simp_all [of, has, CliOption.admits]

theorem set?_of (given : CliOption → Option String) (o : CliOption) (text : String) :
    (of given).set? o text =
      if o.admits text then some (of (Function.update given o (some text))) else none := by
  cases o with
  | maxConnections =>
    cases read : connections? text <;> simp [set?, of, CliOption.admits, read]
  | connectionTimeout =>
    cases read : seconds? text <;> simp [set?, of, CliOption.admits, read]
  | idleTimeout =>
    cases read : seconds? text <;> simp [set?, of, CliOption.admits, read]
  | _ => simp [set?, of, CliOption.admits]

theorem put_of (admissible : Admissible given) (o : CliOption) (text : String) :
    (of given).put o text =
      if (given o).isSome then .error .optionRepeated
      else if o.admits text then .ok (of (Function.update given o (some text)))
      else .error .badValue := by
  rw [put, has_of admissible, set?_of]
  by_cases admits : o.admits text = true <;> simp [admits]

theorem put_of_eq_ok_iff {d : Draft} (admissible : Admissible given) :
    (of given).put o text = .ok d ↔
      given o = none ∧ o.admits text = true ∧ d = of (Function.update given o (some text)) := by
  rw [put_of admissible]
  cases given o <;> cases o.admits text <;> simp [eq_comm]

theorem update_or {sets : List (CliOption × String)} (unset : given o = none) :
    (fun p => (Function.update given o (some text) p).or (sets.lookup p)) =
      fun p => (given p).or (((o, text) :: sets).lookup p) := by
  funext p
  by_cases same : p = o
  · subst same
    simp [unset]
  · simp [Function.update_of_ne same, List.lookup_cons, beq_eq_false_iff_ne.2 same]

theorem update_eq_none_iff {p : CliOption} :
    Function.update given o (some text) p = none ↔ p ≠ o ∧ given p = none := by
  by_cases same : p = o
  · subst same
    simp
  · simp [same]

/-! ## From the command line -/

/-- Options are set from a list just if none is set twice and each can be set to its text. -/
theorem putAll_of_eq_ok_iff {sets : List (CliOption × String)} {d : Draft}
    (admissible : Admissible given) : (of given).putAll sets = .ok d ↔
      (sets.map Prod.fst).Nodup ∧ (∀ set ∈ sets, given set.1 = none ∧ set.1.admits set.2 = true) ∧
      d = of fun p => (given p).or (sets.lookup p) := by
  induction sets generalizing given with
  | nil => simp [putAll, pure, Except.pure, eq_comm (b := d)]
  | cons set sets ih =>
    obtain ⟨o, text⟩ := set
    rw [List.map_cons, List.nodup_cons, List.forall_mem_cons]
    constructor
    · intro put
      obtain ⟨d₁, first, others⟩ := bind_eq_ok_iff.1 put
      obtain ⟨unset, admits, rfl⟩ := (put_of_eq_ok_iff admissible).1 first
      obtain ⟨distinct, all, same⟩ := (ih (admissible.update (t := some text) admits)).1 others
      have fresh : o ∉ sets.map Prod.fst := by
        intro again
        obtain ⟨set, member, rfl⟩ := List.mem_map.1 again
        exact (update_eq_none_iff.1 (all set member).1).1 rfl
      refine ⟨⟨fresh, distinct⟩, ⟨⟨unset, admits⟩, fun set member => ?_⟩,
        same.trans (congrArg of (update_or unset))⟩
      exact ⟨(update_eq_none_iff.1 (all set member).1).2, (all set member).2⟩
    · rintro ⟨⟨fresh, distinct⟩, ⟨⟨unset, admits⟩, all⟩, same⟩
      have first := (put_of_eq_ok_iff admissible).2 ⟨unset, admits, rfl⟩
      refine bind_eq_ok_iff.2 ⟨_, first, (ih (admissible.update (t := some text) admits)).2
        ⟨distinct, ?_, same.trans (congrArg of (update_or unset).symm)⟩⟩
      intro set member
      have other : set.1 ≠ o := by
        rintro rfl
        have listed := List.mem_map_of_mem (f := Prod.fst) member
        exact fresh listed
      exact ⟨update_eq_none_iff.2 ⟨other, (all set member).1⟩, (all set member).2⟩

/-! ## From the environment -/

/-- Takes an option from the environment unless it has been set. -/
def fetch (environment : List (String × String)) (d : Draft) (o : CliOption) :
    Except UsageStop Draft :=
  if d.has o then .ok d
  else
    match environment.lookup o.variableName with
    | none => .ok d
    | some text => d.put o text

theorem fetch_of {environment : List (String × String)} (admissible : Admissible given)
    {chosen : Option String} (choice : (given o).or (environment.lookup o.variableName) = chosen) :
    fetch environment (of given) o =
      if chosen.all o.admits then .ok (of (Function.update given o chosen))
      else .error .badValue := by
  subst choice
  rw [fetch, has_of admissible]
  cases texts : given o with
  | some text =>
    have admits := admissible o
    rw [texts] at admits
    have same : Function.update given o (some text) = given := by
      rw [← texts, Function.update_eq_self]
    rw [Option.some_or, if_pos admits, same]
    rfl
  | none =>
    cases fetched : environment.lookup o.variableName with
    | none =>
      have same : Function.update given o none = given := by rw [← texts, Function.update_eq_self]
      simp [same]
    | some text => simp [put_of admissible, texts]

/-- What will have been chosen in the end stays the same while one option after the other is set to
it. -/
theorem foldlM_fetch_of {environment : List (String × String)} {os : List CliOption}
    {chosen : CliOption → Option String} (admissible : Admissible given)
    (choice : ∀ o, (given o).or (environment.lookup o.variableName) = chosen o)
    (rest : ∀ o, o ∉ os → given o = chosen o) :
    os.foldlM (fetch environment) (of given) =
      if os.all fun o => (chosen o).all o.admits then .ok (of chosen) else .error .badValue := by
  induction os generalizing given with
  | nil =>
    obtain rfl : given = chosen := funext fun o => rest o List.not_mem_nil
    rfl
  | cons o os ih =>
    rw [List.foldlM_cons, fetch_of admissible (choice o), List.all_cons]
    cases admits : (chosen o).all o.admits with
    | false => rfl
    | true =>
      refine ih (admissible.update admits) (fun p => ?_) fun p outside => ?_
      · by_cases same : p = o
        · subst same
          rw [Function.update_self, ← choice, Option.or_assoc, Option.or_self]
        · rw [Function.update_of_ne same, choice]
      · by_cases same : p = o
        · subst same
          rw [Function.update_self]
        · rw [Function.update_of_ne same]
          exact rest p (by simp [same, outside])

/-- Filling up depends on the environment only where nothing has been set. -/
theorem fill_of {environment : List (String × String)} (admissible : Admissible given)
    {chosen : CliOption → Option String}
    (choice : ∀ o, (given o).or (environment.lookup o.variableName) = chosen o) :
    (of given).fill environment =
      if CliOption.all.all fun o => (chosen o).all o.admits then .ok (of chosen)
      else .error .badValue :=
  foldlM_fetch_of admissible choice fun o outside => absurd o.mem_all outside

theorem fill_of_eq_ok_iff {environment : List (String × String)} (admissible : Admissible given)
    {chosen : CliOption → Option String} {d : Draft}
    (choice : ∀ o, (given o).or (environment.lookup o.variableName) = chosen o) :
    (of given).fill environment = .ok d ↔ Admissible chosen ∧ d = of chosen := by
  have all : (CliOption.all.all fun o => (chosen o).all o.admits) = true ↔ Admissible chosen := by
    rw [List.all_eq_true]
    exact ⟨fun every o => every o o.mem_all, fun every o _ => every o⟩
  rw [fill_of admissible choice, ← all]
  split
  · next every => simp [every, eq_comm (b := d)]
  · next other => simp [other]

end Draft

/-! ## Settings -/

/-- The settings are those that the texts which are given for the options say, with the standard
values for the options for which no text is given. -/
structure Settings.Takes (s : Settings) (given : CliOption → Option String) : Prop where
  url : given .url = some s.url
  schema : (given .schema).getD SchemaName.defaultText = s.schema
  slowQuery : ((given .slowQuery).map .ofText).getD .disabled = s.slowQuery
  maxConnections : (given .maxConnections).elim (some Settings.standardConnections)
    Draft.connections? = some s.maxConnections
  connectionTimeout : (given .connectionTimeout).elim (some none)
    (fun text => (Draft.seconds? text).map some) = some s.connectionTimeout
  idleTimeout : (given .idleTimeout).elim (some none)
    (fun text => (Draft.seconds? text).map some) = some s.idleTimeout

namespace Settings

variable {s : Settings}

theorem elim_eq_some_iff {α β : Type} {text? : Option α} {read? : α → Option β}
    {standard value : β} : text?.elim (some standard) read? = some value ↔
      text?.all (fun text => (read? text).isSome) = true ∧
        (text?.bind read?).getD standard = value := by
  cases text? with
  | none => simp
  | some text => cases read : read? text <;> simp [read]

theorem elim_map_eq_some_iff {α β : Type} {text? : Option α} {read? : α → Option β}
    {value : Option β} : text?.elim (some none) (fun text => (read? text).map some) = some value ↔
      text?.all (fun text => (read? text).isSome) = true ∧ text?.bind read? = value := by
  cases text? with
  | none => simp
  | some text => cases read : read? text <;> simp [read]

theorem takes_iff : s.Takes given ↔ Admissible given ∧ (Draft.of given).settings? = some s := by
  constructor
  · intro takes
    obtain ⟨connections, maxConnections⟩ := elim_eq_some_iff.1 takes.maxConnections
    obtain ⟨connectionSeconds, connectionTimeout⟩ := elim_map_eq_some_iff.1 takes.connectionTimeout
    obtain ⟨idleSeconds, idleTimeout⟩ := elim_map_eq_some_iff.1 takes.idleTimeout
    constructor
    · intro o
      cases o with
      | maxConnections => exact connections
      | connectionTimeout => exact connectionSeconds
      | idleTimeout => exact idleSeconds
      | _ => exact (Option.all_eq_true _ _).2 fun _ _ => rfl
    · refine Option.map_eq_some_iff.2 ⟨s.url, takes.url, ?_⟩
      change Settings.mk s.url ((given .schema).getD _) (((given .slowQuery).map _).getD _)
        (((given .maxConnections).bind _).getD _) ((given .connectionTimeout).bind _)
        ((given .idleTimeout).bind _) = s
      rw [takes.schema, takes.slowQuery, maxConnections, connectionTimeout, idleTimeout]
  · rintro ⟨admissible, set⟩
    obtain ⟨url, given_url, rfl⟩ := Option.map_eq_some_iff.1 set
    exact {
      url := given_url
      schema := rfl
      slowQuery := rfl
      maxConnections := elim_eq_some_iff.2 ⟨admissible .maxConnections, rfl⟩
      connectionTimeout := elim_map_eq_some_iff.2 ⟨admissible .connectionTimeout, rfl⟩
      idleTimeout := elim_map_eq_some_iff.2 ⟨admissible .idleTimeout, rfl⟩ }

end Settings

end SchemaPool
