import SessionAuth.Json.Number
import SessionAuth.Json.Quoted

/-!
# JSON values

Values of any shape. Reading one bounds how deep lists and objects may be nested; passing over one
does not.
-/

namespace SessionAuth.Json

/-- A JSON value. -/
inductive Value where
  | null
  | boolean (b : Bool)
  | number (n : Number)
  | text (s : String)
  | list (elements : List Value)
  | object (members : List (String × Value))

/-- How many values may enclose each other. -/
def depthLimit : Nat := 127

/-! ### Reading -/

/-- Reads the elements of a list that has been opened, up to its closing bracket. There are no more
of them than `fuel`. -/
def elementsFrom {α : Type} (element : Reader α) : (fuel : Nat) → (isFirst : Bool) → Reader (List α)
  | 0, _ => return []
  | fuel + 1, isFirst => do
    if ← hasElement isFirst then
      let first ← element
      return first :: (← elementsFrom element fuel false)
    else return []

/-- How many bytes are left. -/
def remaining : Reader Nat := .ofFunction fun input => (.ok input.length, input)

/-- Reads a list whose bracket comes next. -/
def listOf {α : Type} (element : Reader α) : Reader (List α) := do
  advance
  Reader.closedBy (elementsFrom element (← remaining) true) closeList

/-- Reads a key whose quote comes next, and the colon after it. -/
def key : Reader String := do
  advance
  let name ← stringBody
  expect (code ':')
  return name

/-- Reads an object whose brace comes next. -/
def objectOf {α : Type} (member : String → Reader α) : Reader (List (String × α)) := do
  advance
  Reader.closedBy (membersFrom (← remaining) true) closeObject
where
  membersFrom : (fuel : Nat) → (isFirst : Bool) → Reader (List (String × α))
    | 0, _ => return []
    | fuel + 1, isFirst => do
      if ← hasKey isFirst then
        let name ← key
        let value ← member name
        return (name, value) :: (← membersFrom fuel false)
      else return []

/-- Reads a value without parts, whose first byte is given. -/
def scalar (first : UInt8) : Reader Value := do
  if first = code 'n' then
    advance
    letters ['u', 'l', 'l']
    return .null
  else if first = code 't' then
    advance
    letters ['r', 'u', 'e']
    return .boolean true
  else if first = code 'f' then
    advance
    letters ['a', 'l', 's', 'e']
    return .boolean false
  else if first = code '"' then
    advance
    return .text (← stringBody)
  else if first = code '-' || isDigit first then return .number (← number)
  else throw .malformed

/-- Reads a value in which at most `depth` values enclose each other. -/
def value (depth : Nat) : Reader Value := do
  match ← peek with
  | none => throw .truncated
  | some first =>
    if first = code '[' then
      match depth with
      | 0 => throw .malformed
      | depth + 1 => return .list (← listOf (value depth))
    else if first = code '\x7b' then
      match depth with
      | 0 => throw .malformed
      | depth + 1 => return .object (← objectOf fun _ => value depth)
    else scalar first

/-! ### Passing over -/

/-- A bracket that has been opened. -/
inductive Frame where
  | list
  | object
deriving DecidableEq

/-- The byte that closes a bracket. -/
def Frame.close : Frame → UInt8
  | list => code ']'
  | object => code '\x7d'

/-- Whether a value comes next, or a bracket has just been opened, or a value has just ended. -/
inductive Stage where
  | before
  | opened
  | after

/-- Passes over a value without parts, whose first byte is given. -/
def skipScalar (first : UInt8) : Reader Unit := do
  if first = code '"' then
    advance
    skipString
  else if first = code '-' || isDigit first then skipNumber
  else
    let _ ← scalar first

/-- Passes over the key of a member and its colon. -/
def skipKey : Reader Unit := do
  expect (code '"')
  skipString
  expect (code ':')

/-- Passes over what is left of a value inside the given open brackets, innermost first. -/
def skipFrom : (fuel : Nat) → Stage → List Frame → Reader Unit
  | 0, _, _ => throw .truncated
  | _, .after, [] => return ()
  | _, .opened, [] => return ()
  | fuel + 1, .before, frames => do
    match ← peek with
    | none => throw .truncated
    | some first =>
      if first = code '[' then
        advance
        skipFrom fuel .opened (.list :: frames)
      else if first = code '\x7b' then
        advance
        skipFrom fuel .opened (.object :: frames)
      else
        skipScalar first
        skipFrom fuel .after frames
  | fuel + 1, .opened, frame :: frames => do
    match ← peek with
    | none => throw .truncated
    | some b =>
      if b = frame.close then
        advance
        skipFrom fuel .after frames
      else
        if frame = .object then skipKey
        skipFrom fuel .before (frame :: frames)
  | fuel + 1, .after, frame :: frames => do
    match ← peek with
    | none => throw .truncated
    | some b =>
      if b = frame.close then
        advance
        skipFrom fuel .after frames
      else if b = code ',' then
        advance
        if frame = .object then skipKey
        skipFrom fuel .before (frame :: frames)
      else throw .malformed

/-- Passes over a value. -/
def skip : Reader Unit := do skipFrom (2 * (← remaining) + 2) .before []

end SessionAuth.Json
