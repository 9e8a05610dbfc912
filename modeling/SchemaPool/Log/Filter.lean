import SchemaPool.Log.Basic
import SchemaPool.Text.Blank
import SchemaPool.Text.Numeral
import SchemaPool.Text.Search
import SchemaPool.Text.WordCharacter

/-! # Filters of the log

What gets into the log is decided by a filter, which is read from a text.  How a
filter is read and what it lets pass is not for the program to say: it is given a
way of filtering (`Filtering`), and itself only chooses the text and reports one
that is no filter.

Plain filters are one way of filtering.  A plain filter is a list of directives,
each of which sets the least grave level that passes, for the parts of the program
whose name begins with its target or for everything.  The directive with the
longest target decides.  Directives about spans and their fields are not plain;
they are turned away. -/

namespace SchemaPool

open SchemaPool.Text

/-- What comes of reading a filter from a text. -/
inductive FilterReading (Filter : Type) where
  | read (filter : Filter)
  -- The messages of the fault from the outside in.
  | refused (messages : List String)
  -- The reader breaks down, and the program with it; its last words.
  | crashed (remarks : List String)

/-- A way of filtering the log. -/
structure Filtering (Filter : Type) where
  read : String → FilterReading Filter
  -- The lines that are written of all that a run has had to say, in its order.
  -- What is written of an entry may depend on the entries before it.
  lines : Filter → List LogEntry → List String
  -- Whether a part of the program may write entries of a level at all.
  admits : Filter → Level → String → Bool

/-! ## The text of a filter -/

namespace LogSetting

def standard : String := "info"

/-- The directives as they were written: trimmed, or the standard when nothing or
only blanks are set. -/
def written (setting : Option String) : String :=
  match setting with
  | some s => if isBlank s then standard else trim s
  | none => standard

def refusal (setting : Option String) : String :=
  "invalid RUST_LOG value \x60" ++ written setting ++ "\x60"

end LogSetting

/-! ## Plain directives -/

/-- The levels that a directive lets pass: those at least as grave as the given
one, or none. -/
abbrev Gate := Option Level

def Gate.name : Gate → String
  | none => "off"
  | some .error => "error"
  | some .warn => "warn"
  | some .info => "info"
  | some .debug => "debug"
  | some .trace => "trace"

def Gate.passes (g : Gate) (level : Level) : Bool :=
  match g with
  | none => false
  | some least => least.rank ≤ level.rank

/-- The gates with their numbers: the more passes, the greater the number. -/
def Gate.all : List Gate :=
  [none, some .error, some .warn, some .info, some .debug, some .trace]

def Gate.ofChars? (cs : List Char) : Option Gate :=
  match (unsigned? maxWord cs).bind (Gate.all[·]?) with
  | some g => some g
  | none => Gate.all.find? fun g => g.name.toList == cs.map Char.toLower

/-- What one part of a filter says. -/
structure Directive where
  -- Without a target it is about everything.
  target : Option String
  gate : Gate
deriving DecidableEq, Repr

/-- Why a text is no plain filter. -/
inductive FilterFault where
  | badLevel
  | badDirective
  -- The text would have to be cut inside a character.
  | tornCharacter
  -- A directive is about spans.
  | notPlain
deriving DecidableEq, Repr

def FilterFault.message : FilterFault → String
  | badLevel =>
    "error parsing level filter: expected one of \"off\", \"error\", \"warn\", \"info\", " ++
      "\"debug\", \"trace\", or a number 0-5"
  | badDirective => "invalid filter directive"
  | tornCharacter => "byte index is not a char boundary"
  | notPlain => "directives about spans are not plain"

/-- A bad level is reported by the directive around it in the same words. -/
def FilterFault.reading {Filter : Type} : FilterFault → FilterReading Filter
  | badLevel => .refused [badLevel.message, badLevel.message]
  | tornCharacter => .crashed [tornCharacter.message]
  | fault => .refused [fault.message]

/-- Cuts a text after so many bytes, which must not be inside a character. -/
def cutBytes? : Nat → List Char → Option (List Char × List Char)
  | 0, cs => some ([], cs)
  | _ + 1, [] => none
  | n + 1, c :: cs =>
    if c.utf8Size ≤ n + 1 then
      (cutBytes? (n + 1 - c.utf8Size) cs).map fun cut => (c :: cut.1, cut.2)
    else none

namespace Directive

def mayBegin (c : Char) : Bool := c == '-' || c == ':' || c == '_' || isAlphanumeric c

def ofParts (target level : List Char) : Except FilterFault Directive :=
  match level with
  | [] => .ok ⟨some (String.ofList target), some .trace⟩
  | _ =>
    match Gate.ofChars? level with
    | some g => .ok ⟨some (String.ofList target), g⟩
    | none => .error .badLevel

/-- The directive that a text gives.  The bytes before the sign between target and
level are counted from the first character that is not blank, but cut off from the
whole text. -/
def ofChars (cs : List Char) : Except FilterFault Directive :=
  match trimChars cs with
  | [] => .error .badDirective
  | '[' :: _ => .error .notPlain
  | first :: others =>
    if !mayBegin first then .error .badDirective
    else
      let name := (first :: others).takeWhile fun c => c != '=' && c != '['
      match others.find? fun c => c == '=' || c == '[' with
      | some '=' =>
        let sign := (String.ofList name).utf8ByteSize
        match cutBytes? sign cs, cutBytes? (sign + 1) cs with
        | some (target, _), some (_, level) => ofParts target level
        | _, _ => .error .tornCharacter
      | some _ => .error .notPlain
      | none =>
        match Gate.ofChars? cs with
        | some g => .ok ⟨none, g⟩
        | none => .ok ⟨some (String.ofList cs), some .trace⟩

def display (d : Directive) : String :=
  match d.target with
  | some target => target ++ "=" ++ d.gate.name
  | none => d.gate.name

def concerns (d : Directive) (name : String) : Bool :=
  match d.target with
  | some target => beginsWith target.toList name.toList
  | none => true

/-- Whether `d` comes before `e`: longer targets first, those of one length in
descending order, and directives about everything last. -/
def precedes (d e : Directive) : Bool :=
  match d.target, e.target with
  | some a, some b =>
    b.utf8ByteSize < a.utf8ByteSize || (a.utf8ByteSize == b.utf8ByteSize && decide (b < a))
  | some _, none => true
  | none, _ => false

end Directive

/-! ## Plain filters -/

/-- Directives in their order, at most one for each target. -/
structure LogFilter where
  directives : List Directive
deriving DecidableEq, Repr

namespace LogFilter

/-- Puts a directive in its place; it takes the place of one with its target. -/
def insert (d : Directive) : List Directive → List Directive
  | [] => [d]
  | e :: es =>
    if e.target = d.target then d :: es
    else if d.precedes e then d :: e :: es
    else e :: insert d es

def ofString (s : String) : Except FilterFault LogFilter := do
  let parts := (pieces ',' s.toList).filter (!·.isEmpty)
  let directives ← parts.mapM Directive.ofChars
  match directives with
  | [] => .ok ⟨[⟨none, some .error⟩]⟩
  | _ => .ok ⟨directives.foldl (fun kept d => insert d kept) []⟩

def ofSetting (setting : Option String) : Except FilterFault LogFilter :=
  ofString (LogSetting.written setting)

def display (f : LogFilter) : String := ",".intercalate (f.directives.map Directive.display)

def passes (f : LogFilter) (level : Level) (name : String) : Bool :=
  match f.directives.find? (·.concerns name) with
  | some d => d.gate.passes level
  | none => false

def passesEntry (f : LogFilter) (entry : LogEntry) : Bool :=
  f.passes entry.level entry.target.name

def plain : Filtering LogFilter where
  read s :=
    match ofString s with
    | .ok f => .read f
    | .error fault => fault.reading
  lines f entries := (entries.filter f.passesEntry).map LogEntry.line
  admits f := f.passes

theorem read_plain_of_ok {s : String} {f : LogFilter} (valid : ofString s = .ok f) :
    plain.read s = .read f := by
  simp only [plain, valid]

@[simp] theorem lines_plain (f : LogFilter) (entries : List LogEntry) :
    plain.lines f entries = (entries.filter f.passesEntry).map LogEntry.line := rfl

@[simp] theorem admits_plain (f : LogFilter) : plain.admits f = f.passes := rfl

end LogFilter

end SchemaPool
