import SessionAuth.Log.Record
import SessionAuth.Text.Alphanumeric
import SessionAuth.Text.Blank
import SessionAuth.Text.Decimal
import SessionAuth.Text.Pattern
import SessionAuth.Text.Split
import SessionAuth.Text.Utf8

/-!
# Directives

A directive of a filter sets the least grave level that passes, for a target and all that it covers
or for every record, such as `warn` or `api=info`. It may ask for a field, as in
`api[\x7bissuer\x7d]`. One that names a scope, or the value of a field, is accepted but speaks of no
record.

Blanks around a directive are passed over when it is divided, but not when its parts are taken out
of it: the places of the parts, counted in bytes, are those in the trimmed text. A place that then
lies within a character ends the reading.
-/

namespace SessionAuth.Log

/-- A directive that speaks of records. Records of rank up to the limit pass, so none pass a limit
of zero. -/
structure Directive where
  target : Option String := none
  fields : List String := []
  limit : Nat := Level.trace.rank
deriving DecidableEq, Repr

namespace Directive

/-- Why a text is no directive: it has no such form, or its reading breaks off. -/
inductive Fault where
  | malformed
  | aborted
deriving DecidableEq, Repr

/-! ### Levels -/

/-- All levels. -/
def levels : List Level := [.error, .warn, .info, .debug, .trace]

/-- The limit with a name, which is a level, `off` or a rank. -/
def limit? (cs : List Char) : Option Nat :=
  match Text.Decimal.ofText (Level.trace.rank + 1) cs with
  | .ok n => some n
  | .error _ =>
    let name := cs.map Char.toUpper
    if name = "OFF".toList then some 0
    else (levels.find? fun l => l.name.toList = name).map Level.rank

/-- The limit after an equals sign; where nothing follows, everything passes. -/
def limitAfter (cs : List Char) : Except Fault Nat :=
  if cs.isEmpty then .ok Level.trace.rank
  else (limit? cs).elim (.error .malformed) .ok

/-! ### Dividing -/

/-- What the parts of a directive are, as far as they are known. -/
structure Draft where
  target : Option (List Char) := none
  isScoped : Bool := false
  field : Option (List Char) := none
  limit : Nat := Level.trace.rank

/-- What may come next, and where the part in question begins. -/
inductive Place where
  | start
  | name (first : Nat)
  | scope (first : Nat)
  | field (first : Nat)
  | afterField
  | afterScope
  | limit (first : Nat)

/-- The text from one place on. -/
def partFrom (text : List Char) (first : Nat) : Except Fault (List Char) :=
  match Text.cutAt? first text with
  | some (_, rest) => .ok rest
  | none => .error .aborted

/-- The text between two places. -/
def part (text : List Char) (first last : Nat) : Except Fault (List Char) := do
  match Text.cutAt? (last - first) (← partFrom text first) with
  | some (front, _) => return front
  | none => throw .aborted

/-- A directive begins with a bracket or one of these. -/
def isStart (c : Char) : Bool := c = '-' || c = ':' || c = '_' || Text.isAlphanumeric c

/-- The value that a field has to have, if one is named. -/
def value? (field : List Char) : Option (List Char) := (Text.split '=' field)[1]?

/-- The name of a field. -/
def fieldName (field : List Char) : List Char := field.takeWhile (· ≠ '=')

/-- A field has some text, and its value is a number or a pattern. -/
def isField (field : List Char) : Bool :=
  !field.isEmpty &&
    (value? field).all fun v => Text.Decimal.isReal v || Text.Pattern.isWellFormed v

/-- Takes the character at a place. -/
def step (text : List Char) (d : Draft) : Place → (at_ : Nat) → Char → Except Fault (Draft × Place)
  | .start, i, c =>
    if c = '[' then .ok (d, .scope (i + 1))
    else if isStart c then .ok (d, .name i)
    else .error .malformed
  | .name first, i, c =>
    if c = '=' then do return ({ d with target := some (← part text first i) }, .limit (i + 1))
    else if c = '[' then do
      return ({ d with target := some (← part text first i) }, .scope (i + 1))
    else .ok (d, .name first)
  | .scope first, i, c =>
    if c = ']' then (part text first i).map fun _ => ({ d with isScoped := true }, .afterScope)
    else if c = '\x7b' then
      (part text first i).map fun name => ({ d with isScoped := !name.isEmpty }, .field (i + 1))
    else .ok (d, .scope first)
  | .field first, i, c =>
    if c = '\x7d' then do
      let field ← part text first i
      if isField field then return ({ d with field := some field }, .afterField)
      else throw .malformed
    else .ok (d, .field first)
  | .afterField, _, c => if c = ']' then .ok (d, .afterScope) else .error .malformed
  | .afterScope, i, c => if c = '=' then .ok (d, .limit (i + 1)) else .error .malformed
  | .limit first, _, _ => .ok (d, .limit first)

/-- Takes characters, of which the first is at a place counted in bytes. -/
def walk (text : List Char) : Draft → Place → (at_ : Nat) → List Char → Except Fault (Draft × Place)
  | d, place, _, [] => .ok (d, place)
  | d, place, i, c :: cs => do
    let (d, place) ← step text d place i c
    walk text d place (i + c.utf8Size) cs

/-- Takes the end. A name alone is a level, if there is such a level, or a target. -/
def finish (text : List Char) (d : Draft) : Place → Except Fault Draft
  | .name first => do
    let name ← partFrom text first
    match limit? name with
    | some limit => return { d with limit }
    | none => return { d with target := some name }
  | .limit first => do return { d with limit := ← limitAfter (← partFrom text first) }
  | .afterScope => .ok d
  | _ => .error .malformed

/-- The directive of a draft, if it speaks of records. -/
def ofDraft? (d : Draft) : Option Directive :=
  if d.isScoped || (d.field.bind value?).isSome then none
  else
    some ⟨d.target.map String.ofList,
      (d.field.map fun field => String.ofList (fieldName field)).toList, d.limit⟩

/-- Reads a directive. -/
def parse (text : List Char) : Except Fault (Option Directive) := do
  let (d, place) ← walk text {} .start 0 (Text.trimList text)
  return ofDraft? (← finish text d place)

/-! ### Covering -/

/-- Whether a directive speaks of a record. -/
def covers (d : Directive) (r : Record) : Bool :=
  d.target.all (·.isPrefixOf r.target) &&
    d.fields.all fun name => (r.event.fields.lookup name).isSome || name = "message"

/-- The length of the target; having none comes below any length. -/
def reach (d : Directive) : Nat := d.target.elim 0 (·.utf8ByteSize + 1)

/-- Whether the first directive is at least as specific as the second: longer targets come first,
then more fields, then later names of fields. -/
def isAtLeast (d e : Directive) : Bool :=
  e.reach < d.reach || e.reach == d.reach &&
    (e.fields.length < d.fields.length ||
      e.fields.length == d.fields.length && !List.lex d.fields e.fields (· < ·))

end Directive

end SessionAuth.Log
