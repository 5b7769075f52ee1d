import SessionAuth.Text.Alphanumeric
import SessionAuth.Text.Blank
import SessionAuth.Text.Hexadecimal

/-!
# Patterns

A pattern is a regular expression. Here only its form is checked, in one pass from left to right:
what may be repeated, what groups, flags, escapes and classes look like, that all that is opened is
closed, and how deep it nests. No tables of character properties are at hand, so that classes of
letters, digits and blanks and the disregard of case are to be had for single bytes only, and bytes
must not break up other characters. A count of repetitions in braces is never complete, since a
pattern holds no closing brace.
-/

namespace SessionAuth.Text.Pattern

/-! ### Nesting -/

/-- How deep what has been read in one pair of brackets nests: what stands before the last operator,
what stands behind it but for the last element, and that element. -/
structure Level where
  before : Option Nat := none
  count : Nat := 0
  others : Nat := 0
  last : Nat := 0

namespace Level

/-- No pattern nests deeper. -/
def limit : Nat := 250

/-- With one more element. -/
def add (l : Level) (depth : Nat) : Level :=
  { l with count := l.count + 1, others := max l.others l.last, last := depth }

/-- With the last element repeated. -/
def repeated (l : Level) : Level := { l with last := l.last + 1 }

/-- The depth of what stands behind the last operator: several elements are a sequence. -/
def sequence (l : Level) : Nat := max l.others l.last + if 1 < l.count then 1 else 0

/-- The depth of all that has been read. -/
def depth (l : Level) : Nat := l.before.elim l.sequence (max · l.sequence + 1)

/-- Behind an operator that takes any number of alternatives. -/
def alternative (l : Level) : Level :=
  { before := some (l.before.elim l.sequence (max · l.sequence)) }

/-- Behind an operator between two sets. -/
def operand (l : Level) : Level := { before := some l.depth }

end Level

/-! ### Flags -/

/-- What a pattern is read under. -/
structure Flags where
  ignoresCase : Bool := false
  isUnicode : Bool := true
  skipsBlanks : Bool := false

/-- Drops blanks and comments, which end with their line. -/
def dropBlanks : (isComment : Bool) → List Char → List Char
  | _, [] => []
  | true, c :: cs => dropBlanks (c ≠ '\n') cs
  | false, c :: cs =>
    if isBlank c then dropBlanks false cs else if c = '#' then dropBlanks true cs else c :: cs

/-- Drops blanks and comments where they do not count. -/
def Flags.skip (f : Flags) (cs : List Char) : List Char :=
  if f.skipsBlanks then dropBlanks false cs else cs

/-- Sets one flag. Some flags do not matter for the form. -/
def Flags.set? (f : Flags) (value : Bool) : Char → Option Flags
  | 'i' => some { f with ignoresCase := value }
  | 'u' => some { f with isUnicode := value }
  | 'x' => some { f with skipsBlanks := value }
  | 'm' | 's' | 'U' | 'R' => some f
  | _ => none

/-- Reads flags up to a colon or a closing parenthesis, which is left. Flags behind a minus sign are
cleared. No sign occurs twice, and the minus sign is not the last one. -/
def Flags.read? : (f : Flags) → (isSet : Bool) → (seen : List Char) → List Char →
    Option (Flags × List Char)
  | _, _, _, [] => none
  | f, isSet, seen, c :: cs =>
    if c = ':' ∨ c = ')' then
      if seen.head? = some '-' then none else some (f, c :: cs)
    else if seen.contains c then none
    else if c = '-' then read? f false (c :: seen) cs
    else (f.set? isSet c).bind fun f => read? f isSet (c :: seen) cs

/-! ### Escapes -/

/-- What an escape stands for: a character, perhaps given by its byte, a class of characters, or a
place, which may be the end of a word. -/
inductive Escaped where
  | character (c : Char) (isByte : Bool)
  | kind (isNegated : Bool)
  | place (isOfWords : Bool)

/-- Punctuation and blanks stand for themselves. -/
def isEscapable (c : Char) : Bool :=
  c.toNat < 0x80 && !c.isAlphanum && c ≠ '<' && c ≠ '>'

/-- Takes so many hexadecimal digits. -/
def hexadecimal? (f : Flags) : (count : Nat) → (n : Nat) → List Char → Option (Nat × List Char)
  | 0, n, cs => some (n, cs)
  | count + 1, n, cs =>
    match f.skip cs with
    | [] => none
    | c :: cs => (Hexadecimal.digitValue? c).bind fun d => hexadecimal? f count (16 * n + d) cs

/-- Takes the code of a character. -/
def code? (f : Flags) (digits : Nat) (cs : List Char) : Option (Escaped × List Char) := do
  let (n, cs) ← hexadecimal? f digits 0 cs
  guard n.isValidChar
  return (.character (Char.ofNat n) (digits = 2), f.skip cs)

/-- The control that a letter stands for. -/
def control? : Char → Option Char
  | 'a' => some '\x07'
  | 't' => some '\t'
  | 'n' => some '\n'
  | 'v' => some '\x0b'
  | 'f' => some '\x0c'
  | 'r' => some '\r'
  | _ => none

/-- Takes what follows a backslash. -/
def escape? (f : Flags) : List Char → Option (Escaped × List Char)
  | [] => none
  | c :: cs =>
    if isEscapable c then some (.character c false, cs)
    else
      match c with
      | 'x' => code? f 2 cs
      | 'u' => code? f 4 cs
      | 'U' => code? f 8 cs
      | 'd' | 's' | 'w' => some (.kind false, cs)
      | 'D' | 'S' | 'W' => some (.kind true, cs)
      | 'A' | 'z' => some (.place false, cs)
      | 'b' | 'B' | '<' | '>' => some (.place true, cs)
      | c => (control? c).map fun control => (.character control false, cs)

/-- Whether the character that an escape stands for may occur. -/
def isLiteral (f : Flags) (c : Char) (isByte : Bool) : Bool :=
  if f.isUnicode then !f.ignoresCase else !(isByte && 0x80 ≤ c.toNat)

/-- Whether an escape may occur outside classes. -/
def Escaped.isAllowed (f : Flags) : Escaped → Bool
  | character c isByte => isLiteral f c isByte
  | kind isNegated => !f.isUnicode && !isNegated
  | place isOfWords => !(isOfWords && f.isUnicode)

/-! ### Classes -/

/-- Takes one character or escape of a class. A character is told, since ranges end in them. -/
def classItem? (f : Flags) : List Char → Option (Option Char × List Char)
  | [] => none
  | '\\' :: cs =>
    (escape? f cs).bind fun
      | (.character c _, cs) => if f.isUnicode || c.toNat < 0x80 then some (some c, cs) else none
      | (.kind isNegated, cs) => if f.isUnicode || isNegated then none else some (none, cs)
      | (.place _, _) => none
  | c :: cs => if f.isUnicode || c.toNat < 0x80 then some (some c, cs) else none

/-- Takes an item of a class or a range between two characters, of which the first comes first. -/
def classRange? (f : Flags) (cs : List Char) : Option (List Char) := do
  let (first, cs) ← classItem? f cs
  match f.skip cs with
  | '-' :: rest =>
    match f.skip rest with
    | ']' :: _ | '-' :: _ => return '-' :: rest
    | rest =>
      let (last, rest) ← classItem? f rest
      guard ((← first).toNat ≤ (← last).toNat)
      return rest
  | rest => return rest

/-- The names of classes that stand between brackets and colons. -/
def classNames : List String :=
  ["alnum", "alpha", "ascii", "blank", "cntrl", "digit", "graph", "lower", "print", "punct",
    "space", "upper", "word", "xdigit"]

/-- Takes a named class, of which the opening bracket has been taken, and tells whether it is
negated. -/
def namedClass? : List Char → Option (Bool × List Char)
  | ':' :: cs =>
    let isNegated := cs.head? = some '^'
    let cs := if isNegated then cs.drop 1 else cs
    let name := cs.takeWhile (· ≠ ':')
    match cs.drop name.length with
    | ':' :: ']' :: rest =>
      if classNames.contains (String.ofList name) then some (isNegated, rest) else none
    | _ => none
  | _ => none

/-- Takes minus signs, which are items, with blanks where these do not count. -/
def takeSigns (f : Flags) : (level : Level) → List Char → Level × List Char
  | level, '-' :: cs =>
    takeSigns f (level.add 0) (if f.skipsBlanks then cs.dropWhile isBlank else cs)
  | level, cs => (level, cs)
termination_by _ cs => cs.length
decreasing_by
  have := (List.dropWhile_suffix isBlank (l := cs)).length_le
  split <;> simp only [List.length_cons] <;> omega

/-- Takes the beginning of a class behind its bracket. A closing bracket that comes first is an
item, and so are minus signs. A class of bytes must not be negated. -/
def openClass? (f : Flags) (cs : List Char) : Option (Level × List Char) :=
  let cs := f.skip cs
  let isNegated := cs.head? = some '^'
  let items := if isNegated then f.skip (cs.drop 1) else cs
  if isNegated && !f.isUnicode then none
  else
    match items with
    | ']' :: rest => some (({} : Level).add 0, rest)
    | items => some (takeSigns f {} items)

/-- Takes what is left of a class within others, and tells its depth. -/
def classRest? (f : Flags) : (fuel : Nat) → (level : Level) → (outer : List Level) → List Char →
    Option (Nat × List Char)
  | 0, _, _, _ => none
  | fuel + 1, level, outer, cs =>
    match f.skip cs with
    | [] => none
    | '[' :: rest =>
      match namedClass? rest with
      | some (isNegated, rest) =>
        if isNegated && !f.isUnicode then none else classRest? f fuel (level.add 0) outer rest
      | none =>
        (openClass? f rest).bind fun (inner, rest) => classRest? f fuel inner (level :: outer) rest
    | ']' :: rest =>
      match outer with
      | [] => some (level.depth + 1, rest)
      | next :: outer => classRest? f fuel (next.add (level.depth + 1)) outer rest
    | '&' :: '&' :: rest | '-' :: '-' :: rest | '~' :: '~' :: rest =>
      classRest? f fuel level.operand outer rest
    | cs => (classRange? f cs).bind (classRest? f fuel (level.add 0) outer)

/-- Takes a class behind its bracket, and tells its depth. -/
def class? (f : Flags) (cs : List Char) : Option (Nat × List Char) :=
  if f.isUnicode && f.ignoresCase then none
  else (openClass? f cs).bind fun (level, rest) => classRest? f (rest.length + 1) level [] rest

/-! ### Groups -/

/-- Takes the name of a group up to its closing bracket. -/
def groupName? (cs : List Char) : Option (List Char × List Char) :=
  let name := cs.takeWhile (· ≠ '>')
  let isFirst := fun c => c = '_' || isAlphanumeric c && !c.isDigit
  let isOther := fun c => c = '_' || c = '.' || c = '[' || c = ']' || isAlphanumeric c
  if (name.head?).any isFirst && name.all isOther && name.length < cs.length then
    some (name, cs.drop (name.length + 1))
  else none

/-- What has been read: the flags, the level, those outside each open group, the names of groups,
and whether something stands there to be repeated. -/
structure State where
  flags : Flags := {}
  level : Level := {}
  outside : List (Flags × Level) := []
  names : List (List Char) := []
  isRepeatable : Bool := false

/-- After something that may be repeated and nests so deep. -/
def State.after (s : State) (depth : Nat) : State :=
  { s with level := s.level.add depth, isRepeatable := true }

/-- In a new group with the given flags. -/
def State.enter (s : State) (flags : Flags) : State :=
  { s with flags, level := {}, outside := (s.flags, s.level) :: s.outside, isRepeatable := false }

/-- Takes the opening of a group behind its parenthesis, or flags for what follows. -/
def open? (s : State) (cs : List Char) : Option (State × List Char) :=
  let named := fun cs => do
    let (name, rest) ← groupName? cs
    guard !(s.names.contains name)
    return ({ s.enter s.flags with names := name :: s.names }, rest)
  match s.flags.skip cs with
  | '?' :: '=' :: _ | '?' :: '!' :: _ | '?' :: '<' :: '=' :: _ | '?' :: '<' :: '!' :: _ => none
  | '?' :: 'P' :: '<' :: rest | '?' :: '<' :: rest => named rest
  | '?' :: rest =>
    match s.flags.read? true [] rest with
    | some (flags, ')' :: after) =>
      if rest.head? = some ')' then none
      else some ({ s with flags, level := s.level.add 0, isRepeatable := false }, after)
    | some (flags, _ :: after) => some (s.enter flags, after)
    | _ => none
  | rest => some (s.enter s.flags, rest)

/-! ### Patterns -/

/-- Takes one element. -/
def step? (s : State) : List Char → Option (State × List Char)
  | [] => none
  | '(' :: cs => open? s cs
  | ')' :: cs =>
    match s.outside with
    | [] => none
    | (flags, level) :: outside =>
      some ({ s with flags, level, outside }.after (s.level.depth + 1), cs)
  | '|' :: cs => some ({ s with level := s.level.alternative, isRepeatable := false }, cs)
  | '[' :: cs => (class? s.flags cs).map fun (depth, rest) => (s.after depth, rest)
  | '{' :: _ => none
  | '\\' :: cs =>
    (escape? s.flags cs).bind fun (escaped, rest) =>
      if escaped.isAllowed s.flags then some (s.after 0, rest) else none
  | '.' :: cs => if s.flags.isUnicode then some (s.after 0, cs) else none
  | '^' :: cs | '$' :: cs => some (s.after 0, cs)
  | c :: cs =>
    if c = '?' ∨ c = '*' ∨ c = '+' then
      if s.isRepeatable then
        some ({ s with level := s.level.repeated }, if cs.head? = some '?' then cs.drop 1 else cs)
      else none
    else if isLiteral s.flags c false then some (s.after 0, cs)
    else none

/-- Whether a pattern goes on like this to its end. -/
def goesOn : (fuel : Nat) → State → List Char → Bool
  | 0, _, _ => false
  | fuel + 1, s, cs =>
    match s.flags.skip cs with
    | [] => s.outside.isEmpty && s.level.depth ≤ Level.limit
    | cs => (step? s cs).any fun (s, rest) => goesOn fuel s rest

/-- Whether a text without closing braces is a pattern. -/
def isWellFormed (cs : List Char) : Bool := goesOn (cs.length + 1) {} cs

end SessionAuth.Text.Pattern
