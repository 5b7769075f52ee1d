import SessionAuth.Problem
import SessionAuth.Text.Blank
import SessionAuth.Text.LowerCase

/-!
# Email addresses

An account is named by an email address in its normal form: without blanks around it and in lower
case. New addresses are checked; addresses read from storage are taken as they are.
-/

namespace SessionAuth

/-- The text of an email address. -/
structure Email where
  text : String
deriving DecidableEq, Inhabited, Repr

namespace Email

instance : Ord Email := ⟨compareOn text⟩

instance : Std.TransOrd Email := inferInstanceAs (Std.TransCmp (compareOn text))

instance : Std.LawfulEqOrd Email where
  eq_of_compare {a b} h := by
    cases a
    cases b
    exact congrArg Email.mk (Std.LawfulEqOrd.eq_of_compare h)

/-- The most bytes of an address. -/
def maxLength : Nat := 254

/-- The most bytes before the `@`. -/
def maxLocalLength : Nat := 64

/-- Why a text is no address. -/
inductive Error where
  | empty
  | tooLong
  | format
deriving DecidableEq, Repr

/-- The words of an error. -/
def Error.message : Error → String
  | empty => "Email cannot be empty"
  | tooLong => "Email must be at most " ++ toString maxLength ++ " characters"
  | format => "Invalid email format"

/-- The problem that an error is. -/
def Error.problem (e : Error) : Problem := ⟨.badRequest, e.message, none⟩

/-- The form in which texts of one address agree. -/
def normalize (s : String) : String := Text.toLower (Text.trim s)

/-- The part before the `@`: some bytes, not too many, none of them blank or control. -/
def isLocal (cs : List Char) : Bool :=
  !cs.isEmpty && Text.byteLength (String.ofList cs) ≤ maxLocalLength &&
    !cs.any fun c => Text.isBlank c || Text.isControl c

/-- A character of a domain that is neither point nor hyphen. -/
def isDomainLetter (c : Char) : Bool := c.isAlphanum

/-- Nowhere do two points follow each other. -/
def hasNoEmptyLabel : List Char → Bool
  | '.' :: '.' :: _ => false
  | _ :: rest => hasNoEmptyLabel rest
  | [] => true

/-- The part behind the `@`: letters, digits, hyphens and points, with a point, without an empty
label, and with a letter or digit at both ends. -/
def isDomain (cs : List Char) : Bool :=
  cs.contains '.' && cs.all (fun c => isDomainLetter c || c == '.' || c == '-') &&
    (cs.head?.any isDomainLetter && cs.getLast?.any isDomainLetter) && hasNoEmptyLabel cs

/-- A text with an address's two parts around its first `@`. -/
def isAddress (cs : List Char) : Bool :=
  match cs.dropWhile (· ≠ '@') with
  | [] => false
  | _ :: domain => isLocal (cs.takeWhile (· ≠ '@')) && isDomain domain

/-- The address that a text names. -/
def ofText (s : String) : Except Error Email :=
  let normal := normalize s
  if normal.isEmpty then .error .empty
  else if maxLength < Text.byteLength normal then .error .tooLong
  else if isAddress normal.toList then .ok ⟨normal⟩
  else .error .format

end Email

end SessionAuth
