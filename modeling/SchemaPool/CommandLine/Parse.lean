import SchemaPool.CommandLine.Basic
import SchemaPool.Text.Search

/-! # Reading a command line

Options stand before the command, and each takes its value from behind an equals
sign or from the next argument.  A value from the next argument is looked at only
when the next known option or the end has been reached, so an error there comes
after those found in between. -/

namespace SchemaPool

open SchemaPool.Text

/-- An argument by its form. -/
inductive Word where
  -- Two dashes, a name, and perhaps a value behind an equals sign.
  | long (name : String) (value : Option String)
  -- One dash and more; the first character decides.
  | short (first : Char)
  -- Two dashes and nothing else: what follows are plain arguments.
  | dashes
  | plain
deriving DecidableEq, Repr

/-- The form of an argument.  A dash alone is plain. -/
def Word.ofString (s : String) : Word :=
  match s.toList with
  | ['-', '-'] => dashes
  | '-' :: '-' :: rest =>
    match cut? ['='] rest with
    | some (name, value) => long (String.ofList name) (some (String.ofList value))
    | none => long (String.ofList rest) none
  | '-' :: c :: _ => short c
  | _ => plain

/-- An option's value that has not been looked at yet. -/
inductive Held (o : Type) where
  | nothing
  -- The next argument is to be the value.
  | awaiting (option : o)
  | value (option : o) (text : String)
deriving DecidableEq, Repr

def Held.settle {o α : Type} (held : Held o) (put : o → String → Except UsageStop α)
    (unchanged : α) : Except UsageStop α :=
  match held with
  | nothing => .ok unchanged
  | awaiting _ => .error .valueMissing
  | value option text => put option text

/-! ## The arguments of the commands -/

def checkArguments (args : List String) : Except UsageStop Command :=
  match args with
  | [] => .ok .check
  | arg :: rest =>
    match Word.ofString arg with
    | .long "help" none => .error .help
    | .long "help" (some _) => .error .unwantedValue
    | .short 'h' => .error .help
    | .dashes => if rest.isEmpty then .ok .check else .error .unknownArgument
    | _ => .error .unknownArgument

/-- The parts of a statement's command line read so far. -/
structure ExecDraft where
  name : Option String
  sql : Option String
deriving DecidableEq, Repr

namespace ExecDraft

def putName (d : ExecDraft) (text : String) : Except UsageStop ExecDraft :=
  if d.name.isSome then .error .optionRepeated else .ok { d with name := some text }

def settle (d : ExecDraft) (held : Held Unit) : Except UsageStop ExecDraft :=
  held.settle (fun _ text => d.putName text) d

def putPlain (d : ExecDraft) (held : Held Unit) (text : String) : Except UsageStop ExecDraft :=
  if d.sql.isSome then .error .unknownArgument
  else (d.settle held).map fun d => { d with sql := some text }

def finish (d : ExecDraft) (held : Held Unit) : Except UsageStop Command := do
  let d ← d.settle held
  match d.sql with
  | some sql => .ok (.exec d.name sql)
  | none => .error .argumentMissing

def readPlain (d : ExecDraft) (held : Held Unit) : List String → Except UsageStop Command
  | [] => d.finish held
  | arg :: args => do
    let d ← d.putPlain held arg
    d.readPlain .nothing args

def read (d : ExecDraft) (held : Held Unit) : List String → Except UsageStop Command
  | [] => d.finish held
  | arg :: args =>
    match Word.ofString arg with
    | .dashes => d.readPlain held args
    | .long "name" value => do
      let d ← d.settle held
      match value with
      | some text => (← d.putName text).read .nothing args
      | none => d.read (.awaiting ()) args
    | .long "help" (some _) => .error .unwantedValue
    | .long "help" none | .short 'h' => do
      let _ ← d.settle held
      .error .help
    | .long _ _ | .short _ => .error .unknownArgument
    | .plain =>
      match held with
      | .awaiting () => d.read (.value () arg) args
      | _ => do
        let d ← d.putPlain held arg
        d.read .nothing args

end ExecDraft

def commandNames : List String := ["check", "exec", "help"]

/-- Help on what the names lead to: commands have no commands of their own. -/
def helpOn : List String → UsageStop
  | [] => .help
  | [name] => if name ∈ commandNames then .help else .unknownCommand
  | _ :: _ => .unknownCommand

/-! ## Options and the command -/

namespace Draft

def settle (d : Draft) (held : Held CliOption) : Except UsageStop Draft := held.settle d.put d

/-- Arguments after two dashes name no command. -/
def readPlain (d : Draft) (held : Held CliOption) :
    List String → Except UsageStop (Draft × Option Command)
  | [] => (d.settle held).map (·, none)
  | arg :: _ => .error (if arg ∈ commandNames then .unknownArgument else .unknownCommand)

def read (d : Draft) (held : Held CliOption) :
    List String → Except UsageStop (Draft × Option Command)
  | [] => (d.settle held).map (·, none)
  | arg :: args =>
    match Word.ofString arg with
    | .dashes => d.readPlain held args
    | .long name value =>
      match CliOption.ofFlag? name with
      | some o => do
        let d ← d.settle held
        match value with
        | some text => (← d.put o text).read .nothing args
        | none => d.read (.awaiting o) args
      | none =>
        let stop? : Option UsageStop :=
          if name = "help" then some .help
          else if name = "version" then some .version
          else none
        match stop?, value with
        | none, _ => .error .unknownArgument
        | some _, some _ => .error .unwantedValue
        | some stop, none => do
          let _ ← d.settle held
          .error stop
    | .short 'h' => do
      let _ ← d.settle held
      .error .help
    | .short 'V' => do
      let _ ← d.settle held
      .error .version
    | .short _ => .error .unknownArgument
    | .plain =>
      match held with
      | .awaiting o => d.read (.value o arg) args
      | _ =>
        if arg = "check" then do
          let command ← checkArguments args
          return (← d.settle held, some command)
        else if arg = "exec" then do
          let command ← ExecDraft.read ⟨none, none⟩ .nothing args
          return (← d.settle held, some command)
        else if arg = "help" then .error (helpOn args)
        else .error .unknownCommand

end Draft

def Invocation.parse (args : List String) (environment : List (String × String)) :
    Except UsageStop Invocation := do
  let (draft, command) ← Draft.empty.read .nothing args
  let draft ← draft.fill environment
  match command with
  | none => .error (if draft = .empty then .helpForNothing else .commandMissing)
  | some command =>
    match draft.settings? with
    | some settings => .ok ⟨settings, command⟩
    | none => .error .argumentMissing

end SchemaPool
