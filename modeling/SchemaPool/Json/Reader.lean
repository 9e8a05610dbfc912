import SchemaPool.Json.Basic
import SchemaPool.Json.Token
import SchemaPool.Text.Numeral

/-! # Reading structured values

The tokens of a JSON text are taken one after another.  Arrays and objects that
have been opened and not yet closed stand on a stack, innermost first. -/

namespace SchemaPool.Json

open SchemaPool.Text (digits? isDigit)

/-- An open array or object; finished parts stand in reverse order. -/
inductive Frame where
  | array (items : List Json)
  | object (members : List (String × Json)) (name : String)

/-- What may come next. -/
inductive Expected where
  | value
  -- A first item, or the end of an empty array.
  | itemOrEnd
  -- A first member's name, or the end of an empty object.
  | nameOrEnd
  | name
  | colon
  -- A comma or the end of the innermost array or object.
  | more
  | nothing
deriving DecidableEq

/-- Where reading stands. -/
structure Progress where
  frames : List Frame
  expected : Expected
  result : Json

/-- A value is complete: it goes into the innermost open frame. -/
def Progress.deliver (frames : List Frame) (v : Json) : Progress :=
  match frames with
  | [] => ⟨[], .nothing, v⟩
  | .array items :: outer => ⟨.array (v :: items) :: outer, .more, .null⟩
  | .object members name :: outer => ⟨.object ((name, v) :: members) name :: outer, .more, .null⟩

/-- The digits of a whole number without leading zeros. -/
def isWhole (cs : List Char) : Bool :=
  match cs with
  | '0' :: rest => rest.isEmpty
  | _ => (digits? cs).isSome

def isExponent : List Char → Bool
  | [] => true
  | 'e' :: '+' :: rest | 'E' :: '+' :: rest => (digits? rest).isSome
  | 'e' :: '-' :: rest | 'E' :: '-' :: rest => (digits? rest).isSome
  | 'e' :: rest | 'E' :: rest => (digits? rest).isSome
  | _ => false

/-- Whether the text after the whole part is a fraction and an exponent, either of
which may be missing. -/
def isTail : List Char → Bool
  | '.' :: rest => rest.head?.any isDigit && isExponent (rest.dropWhile isDigit)
  | cs => isExponent cs

def number? (cs : List Char) : Option Json :=
  let negative := cs.head? == some '-'
  let body := if negative then cs.drop 1 else cs
  let whole := body.takeWhile isDigit
  let rest := body.dropWhile isDigit
  let value := (digits? whole).getD 0
  if !isWhole whole then none
  else if rest.isEmpty && !(negative && value == 0) then
    some (.int (if negative then -(value : Int) else value))
  else if isTail rest then some (.real (String.ofList cs))
  else none

def wordValue? (cs : List Char) : Option Json :=
  if cs = "null".toList then some .null
  else if cs = "true".toList then some (.bool true)
  else if cs = "false".toList then some (.bool false)
  else number? cs

def Progress.step (p : Progress) (t : Token) : Option Progress :=
  match p.expected, t with
  | .value, .text s | .itemOrEnd, .text s => some (deliver p.frames (.str s))
  | .value, .word cs | .itemOrEnd, .word cs => (wordValue? cs).map (deliver p.frames)
  | .value, .openArray | .itemOrEnd, .openArray =>
    some ⟨.array [] :: p.frames, .itemOrEnd, .null⟩
  | .value, .openObject | .itemOrEnd, .openObject =>
    some ⟨.object [] "" :: p.frames, .nameOrEnd, .null⟩
  | .itemOrEnd, .closeArray | .more, .closeArray =>
    match p.frames with
    | .array items :: outer => some (deliver outer (.arr items.reverse))
    | _ => none
  | .nameOrEnd, .closeObject | .more, .closeObject =>
    match p.frames with
    | .object members _ :: outer => some (deliver outer (.obj members.reverse))
    | _ => none
  | .nameOrEnd, .text s | .name, .text s =>
    match p.frames with
    | .object members _ :: outer => some ⟨.object members s :: outer, .colon, .null⟩
    | _ => none
  | .colon, .colon => some { p with expected := .value }
  | .more, .comma =>
    match p.frames with
    | .array _ :: _ => some { p with expected := .value }
    | .object _ _ :: _ => some { p with expected := .name }
    | [] => none
  | _, _ => none

def parse? (s : String) : Option Json := do
  let tokens ← tokens? s
  let p ← tokens.foldlM Progress.step ⟨[], .value, .null⟩
  if p.expected = .nothing then some p.result else none

end SchemaPool.Json
