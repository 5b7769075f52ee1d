import SessionAuth.Text.Utf8

/-!
# Reading JSON

A reader takes bytes from the front of its input and leaves the rest, also when it fails, so that a
failed attempt can be followed by another reader. It never looks at the whole input first: of
several faults the one that is met first is reported.
-/

namespace SessionAuth.Json

/-- Why a text cannot be read: it breaks the grammar, it holds a value of another shape, or it ends
too early. -/
inductive Fault where
  | malformed
  | mismatch
  | truncated
deriving DecidableEq, Repr

/-- Takes a value from the front of a byte string. -/
abbrev Reader := ExceptT Fault (StateM Bytes)

namespace Reader

/-- The reader with the given effect on the input. -/
def ofFunction {α : Type} (f : Bytes → Except Fault α × Bytes) : Reader α := f

/-- Runs a reader. -/
def apply {α : Type} (r : Reader α) (input : Bytes) : Except Fault α × Bytes := r input

/-- Runs a reader and gives its failure as a value. -/
def attempt {α : Type} (r : Reader α) : Reader (Except Fault α) :=
  ofFunction fun input => let (result, rest) := r.apply input; (.ok result, rest)

/-- Runs a body and, whether or not it succeeds, what closes it. The first failure counts. -/
def closedBy {α : Type} (body : Reader α) (close : Reader Unit) : Reader α := do
  let value ← body.attempt
  let closed ← close.attempt
  match value, closed with
  | .ok value, .ok () => return value
  | .ok _, .error e => throw e
  | .error e, _ => throw e

end Reader

/-- Space, tab, line feed and carriage return. -/
def isBlank (b : UInt8) : Bool := b == 0x20 || b == 0x09 || b == 0x0a || b == 0x0d

/-- Whether a byte is a decimal digit. -/
def isDigit (b : UInt8) : Bool := 0x30 ≤ b && b ≤ 0x39

/-- The number of a decimal digit. -/
def digitValue (b : UInt8) : Nat := b.toNat - 0x30

/-- The byte of an ASCII character. -/
def code (c : Char) : UInt8 := UInt8.ofNat c.toNat

/-- Looks at the next byte that is not blank; blanks before it are taken. -/
def peek : Reader (Option UInt8) := .ofFunction fun input =>
  let rest := input.dropWhile isBlank
  (.ok rest.head?, rest)

/-- Looks at the next byte, blank or not. -/
def peekRaw : Reader (Option UInt8) := .ofFunction fun input => (.ok input.head?, input)

/-- Drops the next byte. -/
def advance : Reader Unit := .ofFunction fun input => (.ok (), input.drop 1)

/-- Takes the next byte, blank or not. -/
def next : Reader UInt8 := .ofFunction fun
  | [] => (.error .truncated, [])
  | b :: rest => (.ok b, rest)

/-- Takes the longest run of digits. -/
def digits : Reader Bytes := .ofFunction fun input =>
  (.ok (input.takeWhile isDigit), input.dropWhile isDigit)

/-- Takes the given byte after blanks. -/
def expect (b : UInt8) : Reader Unit := do
  match ← peek with
  | none => throw .truncated
  | some c => if c = b then advance else throw .malformed

/-- Takes exactly the given letters. -/
def letters : List Char → Reader Unit
  | [] => return ()
  | c :: rest => do
    if (← next) = code c then letters rest else throw .malformed

/-- Takes blanks up to the end of the input. -/
def endOfInput : Reader Unit := do
  if (← peek).isSome then throw .malformed

/-- Reads a whole text. -/
def read {α : Type} (r : Reader α) (input : Bytes) : Except Fault α :=
  ((do let value ← r; endOfInput; return value : Reader α).apply input).1

/-! ### Brackets -/

/-- Whether another element follows in a list that has been opened. Takes the comma before it. -/
def hasElement (isFirst : Bool) : Reader Bool := do
  match ← peek with
  | none => throw .truncated
  | some b =>
    if b = code ']' then return false
    else if isFirst then return true
    else if b ≠ code ',' then throw .malformed
    else
      advance
      match ← peek with
      | none => throw .truncated
      | some b => if b = code ']' then throw .malformed else return true

/-- Whether another key follows in an object that has been opened. Takes the comma before it. -/
def hasKey (isFirst : Bool) : Reader Bool := do
  match ← peek with
  | none => throw .truncated
  | some b =>
    if b = code '\x7d' then return false
    else
      let b ← if isFirst then pure (some b)
        else if b ≠ code ',' then throw .malformed
        else
          advance
          peek
      match b with
      | none => throw .truncated
      | some b => if b = code '"' then return true else throw .malformed

/-- Closes a list. -/
def closeList : Reader Unit := do
  match ← peek with
  | none => throw .truncated
  | some b =>
    if b = code ']' then advance
    else
      if b = code ',' then
        advance
        let _ ← peek
      throw .malformed

/-- Closes an object. -/
def closeObject : Reader Unit := expect (code '\x7d')

end SessionAuth.Json
