/-! # Tokens of structured values

The marks, strings and words of a JSON text.  The text is read once from left to
right; what is being read at the moment is a `Reading`. -/

namespace SchemaPool.Json

/-- A token of a JSON text. -/
inductive Token where
  | openArray
  | closeArray
  | openObject
  | closeObject
  | comma
  | colon
  -- A string, with its escapes resolved.
  | text (value : String)
  -- A number or one of the three literal names.
  | word (chars : List Char)
deriving DecidableEq, Repr

/-- What is being read; finished characters of it stand in reverse order. -/
inductive Reading where
  | between
  | word (chars : List Char)
  | text (chars : List Char)
  -- Inside a string after a backslash.
  | escape (chars : List Char)
  -- Inside a `\u` escape: the digits still to come and the value so far, with
  -- the first half of a surrogate pair if one has been read.
  | unit (chars : List Char) (high : Option Nat) (missing value : Nat)
  -- After the first half of a surrogate pair: `seen` says that the backslash of
  -- the second half has been read.
  | pair (chars : List Char) (high : Nat) (seen : Bool)
deriving DecidableEq, Repr

def mark? : Char → Option Token
  | '[' => some .openArray
  | ']' => some .closeArray
  | '\x7b' => some .openObject
  | '\x7d' => some .closeObject
  | ',' => some .comma
  | ':' => some .colon
  | _ => none

def isGap (c : Char) : Bool := c == ' ' || c == '\t' || c == '\n' || c == '\r'

def hexValue? (c : Char) : Option Nat :=
  if '0' ≤ c ∧ c ≤ '9' then some (c.toNat - 48)
  else if 'a' ≤ c ∧ c ≤ 'f' then some (c.toNat - 87)
  else if 'A' ≤ c ∧ c ≤ 'F' then some (c.toNat - 55)
  else none

def escaped? : Char → Option Char
  | '"' => some '"'
  | '\\' => some '\\'
  | '/' => some '/'
  | 'b' => some '\x08'
  | 'f' => some '\x0c'
  | 'n' => some '\n'
  | 'r' => some '\r'
  | 't' => some '\t'
  | _ => none

/-- What follows a complete code unit inside a string. -/
def afterUnit (chars : List Char) (high : Option Nat) (n : Nat) : Option Reading :=
  match high with
  | some h =>
    if 0xDC00 ≤ n ∧ n ≤ 0xDFFF then
      some (.text (Char.ofNat (0x10000 + (h - 0xD800) * 0x400 + (n - 0xDC00)) :: chars))
    else none
  | none =>
    if 0xD800 ≤ n ∧ n ≤ 0xDBFF then some (.pair chars n false)
    else if 0xDC00 ≤ n ∧ n ≤ 0xDFFF then none
    else some (.text (Char.ofNat n :: chars))

/-- One character between tokens, or right after a word. -/
def readBetween (c : Char) : Option (Reading × List Token) :=
  if isGap c then some (.between, [])
  else if c = '"' then some (.text [], [])
  else
    match mark? c with
    | some t => some (.between, [t])
    | none => some (.word [c], [])

/-- One character further: what is being read now, and the tokens completed. -/
def readChar (reading : Reading) (c : Char) : Option (Reading × List Token) :=
  match reading with
  | .between => readBetween c
  | .word chars =>
    if isGap c || c == '"' || (mark? c).isSome then
      (readBetween c).map fun next => (next.1, .word chars.reverse :: next.2)
    else some (.word (c :: chars), [])
  | .text chars =>
    if c = '"' then some (.between, [.text (String.ofList chars.reverse)])
    else if c = '\\' then some (.escape chars, [])
    else if c.toNat < 0x20 then none
    else some (.text (c :: chars), [])
  | .escape chars =>
    if c = 'u' then some (.unit chars none 4 0, [])
    else (escaped? c).map fun d => (.text (d :: chars), [])
  | .unit chars high missing value =>
    match hexValue? c with
    | none => none
    | some d =>
      if missing ≤ 1 then (afterUnit chars high (16 * value + d)).map (·, [])
      else some (.unit chars high (missing - 1) (16 * value + d), [])
  | .pair chars high seen =>
    if seen then (if c = 'u' then some (.unit chars (some high) 4 0, []) else none)
    else if c = '\\' then some (.pair chars high true, [])
    else none

def tokensFrom (reading : Reading) : List Char → Option (List Token)
  | [] =>
    match reading with
    | .between => some []
    | .word chars => some [.word chars.reverse]
    | _ => none
  | c :: cs =>
    match readChar reading c with
    | none => none
    | some (next, done) => (tokensFrom next cs).map (done ++ ·)

def tokens? (s : String) : Option (List Token) := tokensFrom .between s.toList

end SchemaPool.Json
