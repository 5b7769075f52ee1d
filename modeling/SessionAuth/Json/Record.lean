import SessionAuth.Json.Value

/-!
# Records in JSON

A record has named fields in a fixed order. It is read from an object, whose unknown members are
passed over and whose known ones come once each in any order, or from a list of its fields in order.
It is written as an object with its fields in order.
-/

namespace SessionAuth.Json

/-! ### Typed values -/

/-- Fails on a value of another shape, whose first byte is given. Values without parts are read
first, so that faults in them come first. -/
def mismatch {α : Type} (first : UInt8) : Reader α := do
  if first ≠ code '[' ∧ first ≠ code '\x7b' then
    let _ ← scalar first
  throw .mismatch

/-- Reads a string. -/
def text : Reader String := do
  match ← peek with
  | none => throw .truncated
  | some first =>
    if first = code '"' then
      advance
      stringBody
    else mismatch first

/-- Reads an integer of 64 bits. -/
def integer : Reader Int := do
  match ← peek with
  | none => throw .truncated
  | some first =>
    if first = code '-' || isDigit first then
      match ← number with
      | .integer n => if n < Nat.pow 2 63 then return n else throw .mismatch
      | .real => throw .mismatch
    else mismatch first

/-- Reads a value that may be `null`. -/
def nullable {α : Type} (r : Reader α) : Reader (Option α) := do
  if (← peek) = some (code 'n') then
    let _ ← scalar (code 'n')
    return none
  else return some (← r)

/-- Reads a list. -/
def list {α : Type} (element : Reader α) : Reader (List α) := do
  match ← peek with
  | none => throw .truncated
  | some first => if first = code '[' then listOf element else mismatch first

/-! ### Records -/

/-- A field of a record, with the value it has where an object lacks it. -/
structure Field (α : Type) where
  name : String
  read : Reader α
  default? : Option α

/-- A field that an object must hold. -/
def Field.required {α : Type} (name : String) (read : Reader α) : Field α := ⟨name, read, none⟩

/-- A text or an integer of 64 bits. -/
inductive Atom where
  | text (s : String)
  | number (n : Int)

/-- A field that holds a text. -/
def Field.text (name : String) : Field Atom := .required name (Atom.text <$> Json.text)

/-- A field that holds an integer. -/
def Field.number (name : String) : Field Atom := .required name (Atom.number <$> Json.integer)

/-- Takes the members of an object into their fields. -/
def takeMembers {α : Type} (fields : List (Field α)) :
    (fuel : Nat) → (isFirst : Bool) → List (Option α) → Reader (List (Option α))
  | 0, _, taken => return taken
  | fuel + 1, isFirst, taken => do
    if ← hasKey isFirst then
      advance
      let name ← stringBody
      match fields.zipIdx.find? (·.1.name = name) with
      | none =>
        expect (code ':')
        skip
        takeMembers fields fuel false taken
      | some (field, i) =>
        if ((taken[i]?).bind id).isSome then throw .mismatch
        expect (code ':')
        let value ← field.read
        takeMembers fields fuel false (taken.set i (some value))
    else return taken

/-- The values of all fields, unless one is missing that must be there. -/
def complete {α : Type} (fields : List (Field α)) (taken : List (Option α)) : Reader (List α) :=
  match (List.zipWith (fun (f : Field α) v => v.or f.default?) fields taken).mapM id with
  | some values => return values
  | none => throw .mismatch

/-- Reads the fields in order from a list that has been opened. -/
def takeElements {α : Type} : (isFirst : Bool) → List (Field α) → Reader (List α)
  | _, [] => return []
  | isFirst, field :: fields => do
    if ← hasElement isFirst then
      let value ← field.read
      return value :: (← takeElements false fields)
    else throw .mismatch

/-- Reads the fields of a record, in their order. -/
def record {α : Type} (fields : List (Field α)) : Reader (List α) := do
  match ← peek with
  | none => throw .truncated
  | some first =>
    if first = code '\x7b' then
      advance
      Reader.closedBy (do
        complete fields (← takeMembers fields ((← remaining) + 1) true (fields.map fun _ => none)))
        closeObject
    else if first = code '[' then
      advance
      Reader.closedBy (takeElements true fields) closeList
    else mismatch first

/-- Writes an object with the given members, whose values are written already. -/
def object (members : List (String × String)) : String :=
  "\x7b" ++ ",".intercalate (members.map fun m => quote m.1 ++ ":" ++ m.2) ++ "\x7d"

end SessionAuth.Json
