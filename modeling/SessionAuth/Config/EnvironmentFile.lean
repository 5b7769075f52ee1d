import SessionAuth.Text.Alphanumeric
import SessionAuth.Text.Blank
import SessionAuth.Text.Split

/-!
# Environment files

A file of lines `NAME=value` adds variables to an environment. Variables that exist are kept, and
from the first line that makes no sense on nothing is added. A value may be quoted, strongly in
single quotes or weakly in double ones; outside strong quotes `\` escapes a character and `$` stands
for the value of a variable. A value in quotes may go on over several lines.
-/

namespace SessionAuth.Config

/-- Variables with their values. -/
abbrev Variables := List (String × String)

namespace EnvironmentFile

/-! ### Lines -/

/-- What precedes a character, as far as it matters for where the line ends. -/
inductive Scan where
  | plain
  | escaped
  | blank
  | strong
  | strongEscaped
  | weak
  | weakEscaped
deriving DecidableEq, Repr

namespace Scan

/-- What opens after a character outside quotes that is no blank. -/
def opened (c : Char) : Scan :=
  if c = '\\' then escaped else if c = '"' then weak else if c = '\'' then strong else plain

/-- Goes on after a character, unless a comment begins with it. -/
def step? (s : Scan) (c : Char) : Option Scan :=
  match s with
  | plain => some (if Text.isBlank c && c ≠ '\n' && c ≠ '\r' then blank else opened c)
  | blank => if c = '#' then none else some (opened c)
  | escaped => some plain
  | strong => some (if c = '\\' then strongEscaped else if c = '\'' then plain else strong)
  | strongEscaped => some strong
  | weak => some (if c = '\\' then weakEscaped else if c = '"' then plain else weak)
  | weakEscaped => some weak

/-- The characters before a comment, and the scan after them unless there is a comment. -/
def run (s : Scan) : List Char → List Char × Option Scan
  | [] => ([], some s)
  | c :: cs =>
    match s.step? c with
    | none => ([], none)
    | some next =>
      let (kept, last) := next.run cs
      (c :: kept, last)

end Scan

/-- Cuts a text after each line feed. -/
def cut : List Char → List (List Char)
  | [] => []
  | c :: cs =>
    if c = '\n' then [c] :: cut cs
    else
      match cut cs with
      | [] => [[c]]
      | line :: lines => (c :: line) :: lines

/-- Drops the end of a line. -/
def chomp (line : List Char) : List Char :=
  match line.reverse with
  | '\n' :: '\r' :: rest => rest.reverse
  | '\n' :: rest => rest.reverse
  | _ => line

/-- Joins lines that belong together and drops comments. `pending` is the start of a line that goes
on. The last element is `none` if the last line does not end. -/
def join (s : Scan) (pending : List Char) : List (List Char) → List (Option (List Char))
  | [] => if s = .plain then [] else [none]
  | line :: lines =>
    let whole := pending ++ line
    if (whole.dropWhile Text.isBlank).head? = some '#' then some [] :: join .plain [] lines
    else
      match s.run line with
      | (kept, none) => some (pending ++ kept) :: join .plain [] lines
      | (_, some .plain) => some (chomp whole) :: join .plain [] lines
      | (_, some next) => join next whole lines

/-! ### Values -/

/-- What the next character of a value belongs to. -/
inductive Mode where
  | text
  | escape
  | strong
  | name (start : List Char)
  | bracedName (start : List Char)
  | tail
  | comment

/-- What is known of a value after some of its characters. -/
structure Progress where
  mode : Mode := .text
  isWeak : Bool := false
  value : List Char := []

namespace Progress

/-- Adds characters to the value and goes on with text. -/
def push (p : Progress) (cs : List Char) : Progress :=
  { p with mode := .text, value := p.value ++ cs }

/-- The characters that may be escaped, besides `n` for a line feed. -/
def escapable : List Char := ['\\', '\'', '"', '$', ' ']

/-- Goes on after a character of text. -/
def afterText (p : Progress) (c : Char) : Progress :=
  if c = '$' then { p with mode := .name [] }
  else if c = '\\' then { p with mode := .escape }
  else if c = '"' then { p with isWeak := !p.isWeak }
  else if p.isWeak then p.push [c]
  else if c = '\'' then { p with mode := .strong }
  else if c = ' ' || c = '\t' then { p with mode := .tail }
  else p.push [c]

/-- Goes on after a character, unless it makes no sense. -/
def step? (lookup : List Char → List Char) (p : Progress) (c : Char) : Option Progress :=
  match p.mode with
  | .text => some (p.afterText c)
  | .escape =>
    if escapable.contains c then some (p.push [c])
    else if c = 'n' then some (p.push ['\n'])
    else none
  | .strong =>
    some (if c = '\'' then { p with mode := .text } else { p with value := p.value ++ [c] })
  | .name start =>
    if Text.isAlphanumeric c then some { p with mode := .name (start ++ [c]) }
    else if c = '\x7b' && start = [] then some { p with mode := .bracedName [] }
    else
      let p := p.push (lookup start)
      some (if c = '$' then { p with mode := .name [] } else p.push [c])
  | .bracedName start =>
    some (if c = '\x7d' then p.push (lookup start)
      else { p with mode := .bracedName (start ++ [c]) })
  | .tail =>
    if c = ' ' || c = '\t' then some p
    else if c = '#' then some { p with mode := .comment }
    else none
  | .comment => some p

/-- The value at the end of the line, unless something is still open. -/
def finish? (lookup : List Char → List Char) (p : Progress) : Option (List Char) :=
  if p.isWeak then none
  else
    match p.mode with
    | .strong | .bracedName _ => none
    | .name start => some (p.value ++ lookup start)
    | _ => some p.value

end Progress

/-- Reads a value. -/
def value? (lookup : List Char → List Char) (cs : List Char) : Option (List Char) :=
  (cs.foldlM (Progress.step? lookup) {}).bind (Progress.finish? lookup)

/-! ### Bindings -/

/-- A letter or an underscore. -/
def isNameStart (c : Char) : Bool := c.isAlpha || c = '_'

/-- A character of a name. -/
def isNameChar (c : Char) : Bool := c.isAlphanum || c = '_' || c = '.'

/-- Takes a name and the blanks after it. -/
def name? (cs : List Char) : Option (List Char × List Char) :=
  if (cs.head?).any isNameStart then
    some (cs.takeWhile isNameChar, (cs.dropWhile isNameChar).dropWhile Text.isBlank)
  else none

/-- Takes an equals sign and the blanks after it. -/
def equals? : List Char → Option (List Char)
  | '=' :: cs => some (cs.dropWhile Text.isBlank)
  | _ => none

/-- Takes what stands before a value. The word `export` may come first. -/
def binder? (cs : List Char) : Option (List Char × List Char) := do
  let (name, rest) ← name? cs
  match equals? rest with
  | some rest => return (name, rest)
  | none =>
    guard (name = "export".toList)
    let (name, rest) ← name? rest
    return (name, ← equals? rest)

/-- There is nothing, or nothing but a comment. -/
def isVacant (cs : List Char) : Bool := cs.isEmpty || cs.head? = some '#'

/-- Adds a variable unless it exists. -/
def bindNew (env : Variables) (name value : String) : Variables :=
  if (env.lookup name).isSome then env else env ++ [(name, value)]

/-- The variable of a line, if there is one. -/
def binding? (env : Variables) (line : List Char) : Option (Option (String × String)) :=
  let line := Text.trimList line
  if isVacant line then some none
  else do
    let (name, rest) ← binder? line
    let lookup := fun name => ((env.lookup (String.ofList name)).getD "").toList
    let value ← if isVacant rest then some [] else value? lookup rest
    return some (String.ofList name, String.ofList value)

/-- Adds the variables of lines up to the first one that makes no sense. No variable can hold the
character with code zero, which ends the program. -/
def addLines? (env : Variables) : List (Option (List Char)) → Option Variables
  | [] => some env
  | line :: lines =>
    match line.bind (binding? env) with
    | none => some env
    | some none => addLines? env lines
    | some (some (name, value)) =>
      if (env.lookup name).isNone && value.contains '\x00' then none
      else addLines? (bindNew env name value) lines

/-- Adds the variables of a file, if all of them can be. A byte order mark is passed over. -/
def load? (env : Variables) (file : String) : Option Variables :=
  let cs := match file.toList with
    | '\uFEFF' :: rest => rest
    | cs => cs
  addLines? env (join .plain [] (cut cs))

end EnvironmentFile

end SessionAuth.Config
