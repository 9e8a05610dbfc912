import SchemaPool.Program.Run

/-! # Whether a failure is seen

A filter keeps its directives in an order in which the most specific one comes first, so it is the
most specific directive about a part of the program that decides what is logged of it
(`LogFilter.passes_iff`).

A failed run tells its failure in the log, as the part that ends the program, or with its last
word.  Which of the two it is depends on what the filter says about the program itself, and that
is not the part the failure is logged under: the failure is kept quiet just if a directive for
that part alone shuts it while errors of the program itself pass (`failure_told_unless_muted`). -/

namespace SchemaPool

/-! ## The order of directives -/

namespace Directive

/-- How specific a directive is; one about everything is the least. -/
def weight (d : Directive) : Nat :=
  match d.target with
  | some target => target.utf8ByteSize + 1
  | none => 0

variable {c d e : Directive}

theorem weight_le_of_precedes (before : d.precedes e = true) : e.weight ≤ d.weight := by
  obtain ⟨_ | a, g⟩ := d <;> obtain ⟨_ | b, h⟩ := e <;> simp [precedes, weight] at before ⊢
  omega

theorem precedes_irrefl (d : Directive) : d.precedes d = false := by
  obtain ⟨_ | a, g⟩ := d <;> simp [precedes]

theorem precedes_trans (first : c.precedes d = true) (second : d.precedes e = true) :
    c.precedes e = true := by
  obtain ⟨_ | a, f⟩ := c <;> obtain ⟨_ | b, g⟩ := d <;> obtain ⟨_ | c, h⟩ := e <;>
    simp only [precedes, Bool.or_eq_true, Bool.and_eq_true, decide_eq_true_eq, beq_iff_eq,
      Bool.false_eq_true] at first second ⊢
  obtain longer | ⟨same, before⟩ := first
  · left
    omega
  · obtain longer | ⟨same', before'⟩ := second
    · left
      omega
    · exact .inr ⟨same.trans same', String.lt_trans before' before⟩

/-- Of two directives with different targets one comes first. -/
theorem precedes_of_not_precedes (differ : e.target ≠ d.target)
    (not : d.precedes e = false) : e.precedes d = true := by
  obtain ⟨_ | a, f⟩ := d <;> obtain ⟨_ | b, g⟩ := e
  · exact absurd rfl differ
  · rfl
  · cases not
  · have unlike : a ≠ b := fun same => differ (congrArg some same.symm)
    simp only [precedes, Bool.or_eq_false_iff, Bool.and_eq_false_iff, decide_eq_false_iff_not,
      beq_eq_false_iff_ne, Nat.not_lt, String.not_lt] at not
    simp only [precedes, Bool.or_eq_true, Bool.and_eq_true, decide_eq_true_eq, beq_iff_eq]
    obtain ⟨short, shorter | below⟩ := not
    · exact .inl (Nat.lt_of_le_of_ne short shorter)
    · obtain less | same := Nat.lt_or_eq_of_le short
      · exact .inl less
      · exact .inr ⟨same.symm, Std.lt_of_le_of_ne below unlike⟩

theorem precedes_congr {d' : Directive} (same : d.target = d'.target) :
    d.precedes e = d'.precedes e := by
  rw [precedes, same, precedes]

theorem concerns_iff {target : String} (named : d.target = some target) (name : String) :
    d.concerns name = true ↔ target.toList <+: name.toList := by
  rw [concerns, named, Text.beginsWith_iff]

/-- What is about a name is about every name that begins with it. -/
theorem concerns_of_begins {name longer : String} (begins : name.toList <+: longer.toList)
    (about : d.concerns name = true) : d.concerns longer = true := by
  cases named : d.target with
  | none => rw [concerns, named]
  | some target =>
    rw [concerns_iff named] at about ⊢
    exact about.trans begins

/-- A beginning that is as long in bytes is the whole. -/
theorem eq_of_begins {a b : String} (begins : a.toList <+: b.toList)
    (same : a.utf8ByteSize = b.utf8ByteSize) : a = b := by
  obtain ⟨rest, whole⟩ := begins
  have split : b = a ++ String.ofList rest := by
    rw [← String.toList_inj, String.toList_append, String.toList_ofList, whole]
  rw [split, String.utf8ByteSize_append] at same
  have empty : String.ofList rest = "" := String.utf8ByteSize_eq_zero_iff.1 (by omega)
  rw [split, empty, String.append_empty]

/-- Directives about one part of the program that are equally specific have the same target. -/
theorem target_eq_of_weight_eq {name : String} (first : d.concerns name = true)
    (second : e.concerns name = true) (same : d.weight = e.weight) : d.target = e.target := by
  cases here : d.target with
  | none =>
    cases there : e.target with
    | none => rfl
    | some b => simp [weight, here, there] at same
  | some a =>
    cases there : e.target with
    | none => simp [weight, here, there] at same
    | some b =>
      have bytes : a.utf8ByteSize = b.utf8ByteSize := by simpa [weight, here, there] using same
      rw [concerns_iff here] at first
      rw [concerns_iff there] at second
      obtain begins | begins := List.prefix_or_prefix_of_prefix first second
      · rw [eq_of_begins begins bytes]
      · rw [eq_of_begins begins bytes.symm]

end Directive

theorem Gate.passes_error_eq_false_iff {g : Gate} : g.passes .error = false ↔ g = none := by
  cases g with
  | none => exact ⟨fun _ => rfl, fun _ => rfl⟩
  | some least => cases least <;> decide

/-! ## Filters in order -/

namespace LogFilter

def Sorted (f : LogFilter) : Prop := f.directives.Pairwise fun d e => d.precedes e = true

theorem mem_of_mem_insert {d x : Directive} {ds : List Directive} (member : x ∈ insert d ds) :
    x = d ∨ x ∈ ds := by
  induction ds with
  | nil => exact .inl (List.mem_singleton.1 member)
  | cons e es ih =>
    rw [insert] at member
    split at member
    · exact (List.mem_cons.1 member).imp_right (List.mem_cons_of_mem e)
    · split at member
      · exact List.mem_cons.1 member
      · obtain rfl | later := List.mem_cons.1 member
        · exact .inr List.mem_cons_self
        · exact (ih later).imp_right (List.mem_cons_of_mem e)

theorem pairwise_insert {ds : List Directive} (d : Directive)
    (sorted : ds.Pairwise fun d e => d.precedes e = true) :
    (insert d ds).Pairwise fun d e => d.precedes e = true := by
  induction ds with
  | nil => exact List.pairwise_singleton _ d
  | cons e es ih =>
    obtain ⟨first, rest⟩ := List.pairwise_cons.1 sorted
    rw [insert]
    split
    · rename_i same
      refine List.pairwise_cons.2 ⟨fun x member => ?_, rest⟩
      rw [← Directive.precedes_congr same]
      exact first x member
    · rename_i differ
      split
      · rename_i before
        refine List.pairwise_cons.2 ⟨fun x member => ?_, sorted⟩
        obtain rfl | later := List.mem_cons.1 member
        · exact before
        · exact Directive.precedes_trans before (first x later)
      · rename_i not
        refine List.pairwise_cons.2 ⟨fun x member => ?_, ih rest⟩
        obtain rfl | later := mem_of_mem_insert member
        · exact Directive.precedes_of_not_precedes differ (Bool.eq_false_iff.2 not)
        · exact first x later

theorem pairwise_foldl_insert (ds kept : List Directive)
    (sorted : kept.Pairwise fun d e => d.precedes e = true) :
    (ds.foldl (fun kept d => insert d kept) kept).Pairwise fun d e => d.precedes e = true := by
  induction ds generalizing kept with
  | nil => exact sorted
  | cons d ds ih => exact ih _ (pairwise_insert d sorted)

theorem sorted_ofString {s : String} {f : LogFilter} (valid : ofString s = .ok f) : f.Sorted := by
  cases read : ((Text.pieces ',' s.toList).filter (!·.isEmpty)).mapM Directive.ofChars with
  | error fault => simp [ofString, read, bind, Except.bind] at valid
  | ok directives =>
    simp only [ofString, read, bind, Except.bind] at valid
    split at valid
    · cases valid
      exact List.pairwise_singleton _ _
    · cases valid
      exact pairwise_foldl_insert directives [] .nil

/-- The directive that decides about a part of the program: the most specific one about it. -/
structure Decides (f : LogFilter) (name : String) (d : Directive) : Prop where
  member : d ∈ f.directives
  concerns : d.concerns name = true
  most (e : Directive) : e ∈ f.directives → e.concerns name = true → e.weight ≤ d.weight

variable {f : LogFilter} {name : String} {d : Directive}

theorem find?_eq_some_iff (sorted : f.Sorted) :
    f.directives.find? (·.concerns name) = some d ↔ f.Decides name d := by
  have found {d : Directive} (first : f.directives.find? (·.concerns name) = some d) :
      f.Decides name d ∧
        ∀ e ∈ f.directives, e.concerns name = true → e = d ∨ d.precedes e = true := by
    obtain ⟨about, before, after, parts, none⟩ := List.find?_eq_some_iff_append.1 first
    have later : ∀ e ∈ f.directives, e.concerns name = true → e = d ∨ d.precedes e = true := by
      intro e member concerns
      rw [parts, List.mem_append, List.mem_cons] at member
      obtain early | rfl | late := member
      · simpa [concerns] using none e early
      · exact .inl rfl
      · rw [Sorted, parts, List.pairwise_append, List.pairwise_cons] at sorted
        exact .inr (sorted.2.1.1 e late)
    refine ⟨⟨List.mem_of_find?_eq_some first, about, fun e member concerns => ?_⟩, later⟩
    obtain rfl | late := later e member concerns
    · exact Nat.le_refl _
    · exact Directive.weight_le_of_precedes late
  refine ⟨fun first => (found first).1, fun decides => ?_⟩
  cases first : f.directives.find? (·.concerns name) with
  | none => exact absurd decides.concerns (List.find?_eq_none.1 first d decides.member)
  | some e =>
    obtain ⟨decides', later⟩ := found first
    obtain rfl | late := later d decides.member decides.concerns
    · rfl
    · have same := Directive.target_eq_of_weight_eq decides.concerns decides'.concerns
        (Nat.le_antisymm (decides'.most d decides.member decides.concerns)
          (decides.most e decides'.member decides'.concerns))
      rw [← Directive.precedes_congr same, Directive.precedes_irrefl] at late
      cases late

/-- The most specific directive decides. -/
theorem passes_iff (sorted : f.Sorted) (level : Level) (name : String) :
    f.passes level name = true ↔ ∃ d, f.Decides name d ∧ d.gate.passes level = true := by
  cases first : f.directives.find? (·.concerns name) with
  | none =>
    refine ⟨fun absurd => by simp [passes, first] at absurd, fun ⟨d, decides, _⟩ => ?_⟩
    rw [← find?_eq_some_iff sorted, first] at decides
    cases decides
  | some d =>
    rw [passes, first]
    refine ⟨fun admits => ⟨d, (find?_eq_some_iff sorted).1 first, admits⟩,
      fun ⟨e, decides, admits⟩ => ?_⟩
    rw [← find?_eq_some_iff sorted, first] at decides
    rwa [Option.some.inj decides]

theorem passes_eq_false_of_decides (sorted : f.Sorted) (decides : f.Decides name d)
    {level : Level} (shut : d.gate.passes level = false) : f.passes level name = false := by
  rw [passes, (find?_eq_some_iff sorted).2 decides]
  exact shut

/-! ## Filters that mute failures -/

/-- Errors of the program itself pass, but the part of it that ends a run is shut, by a directive
whose target goes on where the program's name ends. -/
def Mutes (f : LogFilter) : Prop :=
  f.passes .error RunResult.programName = true ∧
    ∃ d target, f.Decides LogTarget.shutdown.name d ∧ d.gate = none ∧ d.target = some target ∧
      "strata_".toList <+: target.toList

/-- A beginning of the name that failures are logged under which is no beginning of the program's
own name goes on where that one ends. -/
theorem begins_past_programName {target : List Char}
    (begins : target <+: LogTarget.shutdown.name.toList)
    (past : ¬target <+: RunResult.programName.toList) : "strata_".toList <+: target := by
  have long : "strata_".toList <+: LogTarget.shutdown.name.toList := by decide
  obtain longer | shorter := List.prefix_or_prefix_of_prefix long begins
  · exact longer
  · have name : "strata_".toList = RunResult.programName.toList ++ ['_'] := by decide
    rw [name, List.prefix_concat_iff, ← name] at shorter
    obtain rfl | within := shorter
    · exact List.prefix_refl _
    · exact absurd within past

theorem mutes_iff (sorted : f.Sorted) :
    f.Mutes ↔ f.passes .error RunResult.programName = true ∧
      f.passes .error LogTarget.shutdown.name = false := by
  refine and_congr_right fun admits => ⟨fun ⟨d, target, decides, shut, _⟩ => ?_, fun silent => ?_⟩
  · exact passes_eq_false_of_decides sorted decides (Gate.passes_error_eq_false_iff.2 shut)
  -- What is about the program is about the part that ends a run, so something decides about it.
  · have part : RunResult.programName.toList <+: LogTarget.shutdown.name.toList := by decide
    obtain ⟨e, about, grave⟩ := (passes_iff sorted .error _).1 admits
    cases first : f.directives.find? (·.concerns LogTarget.shutdown.name) with
    | none =>
      exact absurd (Directive.concerns_of_begins part about.concerns)
        (List.find?_eq_none.1 first e about.member)
    | some d =>
      have decides := (find?_eq_some_iff sorted).1 first
      have shut : d.gate.passes .error = false := by rwa [passes, first] at silent
      have foreign : ¬d.concerns RunResult.programName = true := by
        intro concerns
        have own : f.Decides RunResult.programName d := ⟨decides.member, concerns,
          fun x member about => decides.most x member (Directive.concerns_of_begins part about)⟩
        rw [passes_eq_false_of_decides sorted own shut] at admits
        cases admits
      cases named : d.target with
      | none => exact absurd (by rw [Directive.concerns, named]) foreign
      | some target =>
        rw [Directive.concerns_iff named] at foreign
        have begins := (Directive.concerns_iff named _).1 decides.concerns
        exact ⟨d, target, decides, Gate.passes_error_eq_false_iff.1 shut, named,
          begins_past_programName begins foreign⟩

end LogFilter

/-! ## Failed runs -/

theorem ok_of_toOption {ε α : Type} {x : Except ε α} {a : α}
    (same : x.toOption = some a) : x = .ok a := by
  cases x with
  | error e => cases same
  | ok b => exact congrArg _ (Option.some.inj same)

open RunResult (failureEntry lastWord)

/-- A run that fails ends with its failure, in the log or as the last word, unless the filter
mutes failures; and then nothing is told of it. -/
theorem failure_told_unless_muted {args : List String} {environment : List (String × String)}
    {server : Server} {i : Invocation} {filter : LogFilter}
    (parsed : Invocation.parse args environment = .ok i)
    (valid : LogFilter.ofSetting (environment.lookup "RUST_LOG") = .ok filter)
    (failed : (runProgram args environment server).status ≠ 0) :
    let r := runProgram args environment server
    ∃ f around, i.run (.ofServer server) = (.error f, around) ∧ r.status = 1 ∧ r.output = "" ∧
      let logged := (around.timeline.entries.filter filter.passesEntry).map LogEntry.line
      (¬filter.Mutes →
        filter.passesEntry (failureEntry f) = true ∧
            r.remarks = logged ++ [(failureEntry f).line] ∨
          r.remarks = logged ++ [lastWord f.chain]) ∧
      (filter.Mutes → filter.passesEntry (failureEntry f) = false ∧ r.remarks = logged) := by
  intro r
  have whole : r = _ := runFiltered_of_read server parsed (LogFilter.read_plain_of_ok valid)
  have muted := LogFilter.mutes_iff (LogFilter.sorted_ofString valid)
  rcases ran : i.run (.ofServer server) with ⟨outcome, around⟩
  rw [ran] at whole
  cases outcome with
  | ok output =>
    exact absurd (congrArg RunResult.status whole) failed
  | error f =>
    refine ⟨f, around, rfl, ?_⟩
    have told : filter.passesEntry (failureEntry f) =
        filter.passes .error LogTarget.shutdown.name := rfl
    rw [muted, told, whole]
    cases admits : filter.passes .error RunResult.programName with
    | false => simp [RunResult.ofOutcome, admits]
    | true =>
      cases logs : filter.passes .error LogTarget.shutdown.name with
      | false => simp [RunResult.ofOutcome, admits, told, logs]
      | true => simp [RunResult.ofOutcome, admits, told, logs]

/-- A database that refuses one statement. -/
def refusing : Server :=
  .ofScript [] [⟨"bad", none, none, ⟨0, .refused ⟨"42601", "syntax error"⟩, false⟩⟩]

/-- The statement is refused where nothing at all is logged, so the last word tells it. -/
theorem failure_told_of_refused_statement : ∃ f around,
    Invocation.run ⟨Settings.new "postgres://localhost/app", .exec none "bad q"⟩
        (.ofServer refusing) = (.error f, around) ∧
      (runProgram ["exec", "bad q"]
        [("POSTGRES_URL", "postgres://localhost/app"), ("RUST_LOG", "off")] refusing).remarks =
        [lastWord f.chain] := by
  have shut : ∀ entry, LogFilter.passesEntry ⟨[⟨none, none⟩]⟩ entry = false := fun _ => rfl
  have valid : (LogFilter.ofSetting (some "off")).toOption = some ⟨[⟨none, none⟩]⟩ := by
    decide +kernel
  obtain ⟨f, around, ran, -, -, told, -⟩ := @failure_told_unless_muted ["exec", "bad q"]
    [("POSTGRES_URL", "postgres://localhost/app"), ("RUST_LOG", "off")] refusing
    ⟨Settings.new "postgres://localhost/app", .exec none "bad q"⟩ ⟨[⟨none, none⟩]⟩ rfl
    (ok_of_toOption valid) (by decide +kernel)
  refine ⟨f, around, ran, ?_⟩
  obtain ⟨passes, -⟩ | last := told fun muted => Bool.false_ne_true muted.1
  · rw [shut] at passes
    cases passes
  · rw [last, List.filter_eq_nil_iff.2 fun entry _ => by rw [shut]; exact Bool.false_ne_true]
    rfl

/-- The same statement where errors are logged, but not those of the program's modules: the run
fails and says nothing. -/
theorem failure_untold_of_refused_statement :
    let r := runProgram ["exec", "bad q"]
      [("POSTGRES_URL", "postgresql://app:secret@%2Fproc%2Fself%2Fcwd/app"),
        ("RUST_LOG", "error,strata_cli=off")] refusing
    r.status = 1 ∧ r.remarks = [] ∧
      (LogFilter.ofSetting (some "error,strata_cli=off")).toOption =
        some ⟨[⟨some "strata_cli", none⟩, ⟨none, some .error⟩]⟩ ∧
      LogFilter.passes ⟨[⟨some "strata_cli", none⟩, ⟨none, some .error⟩]⟩ .error
        LogTarget.shutdown.name = false := by
  decide +kernel

end SchemaPool
