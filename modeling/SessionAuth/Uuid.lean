import SessionAuth.Text.Blank
import SessionAuth.Text.Hexadecimal

/-!
# Universally unique identifiers

A 128-bit number with one canonical text, five groups of lower-case hexadecimal digits. Reading
also accepts the digits alone, the groups in braces, and the groups after `urn:uuid:`, with letters
in either case.
-/

namespace SessionAuth

/-- A universally unique identifier. -/
structure Uuid where
  bits : BitVec 128
deriving DecidableEq, Inhabited

namespace Uuid

instance : Ord Uuid := ⟨compareOn bits⟩

instance : Std.TransOrd Uuid := inferInstanceAs (Std.TransCmp (compareOn bits))

instance : Std.LawfulEqOrd Uuid where
  eq_of_compare {a b} h := by
    cases a
    cases b
    exact congrArg Uuid.mk (Std.LawfulEqOrd.eq_of_compare h)

/-- The thirty-two digits. -/
def digits (id : Uuid) : List Char := Text.Hexadecimal.digits 32 id.bits.toNat

/-- Puts hyphens behind the digits 8, 12, 16 and 20. -/
def hyphenate (cs : List Char) : List Char :=
  cs.take 8 ++ '-' :: (cs.drop 8).take 4 ++ '-' :: (cs.drop 12).take 4 ++
    '-' :: (cs.drop 16).take 4 ++ '-' :: cs.drop 20

/-- The canonical text. -/
def text (id : Uuid) : String := String.ofList (hyphenate id.digits)

instance : ToString Uuid := ⟨text⟩

/-- Reads thirty-two digits. -/
def ofDigits? (cs : List Char) : Option Uuid := do
  guard (cs.length = 32)
  return ⟨BitVec.ofNat 128 (← Text.Hexadecimal.value? cs)⟩

/-- Reads five groups joined by hyphens. -/
def ofGroups? (cs : List Char) : Option Uuid := do
  guard (cs.length = 36)
  let plain := cs.take 8 ++ (cs.drop 9).take 4 ++ (cs.drop 14).take 4 ++ (cs.drop 19).take 4 ++
    cs.drop 24
  guard (hyphenate plain = cs)
  ofDigits? plain

/-- The prefix of a resource name, in lower case. -/
def urn : List Char := "urn:uuid:".toList

/-- Reads any of the four forms. -/
def ofList? (cs : List Char) : Option Uuid :=
  match cs.length with
  | 32 => ofDigits? cs
  | 36 => ofGroups? cs
  | 38 => if cs.head? = some '\x7b' ∧ cs.getLast? = some '\x7d' then ofGroups? (cs.drop 1).dropLast
    else none
  | 45 => if (cs.take 9).map Char.toLower = urn then ofGroups? (cs.drop 9) else none
  | _ => none

/-- Reads an identifier that may have blanks around it. -/
def parse? (s : String) : Option Uuid := ofList? (Text.trimList s.toList)

/-- The digit that names how an identifier was made. -/
def version (id : Uuid) : Nat := (id.bits.extractLsb' 76 4).toNat

/-- The identifier of version 4 with the given random bits: six of them are replaced by version and
variant. -/
def ofRandom (bits : BitVec 128) : Uuid :=
  let version : BitVec 4 := 4#4
  let variant : BitVec 2 := 2#2
  ⟨bits.extractLsb' 80 48 ++ version ++ bits.extractLsb' 64 12 ++ variant ++
    bits.extractLsb' 0 62⟩

end Uuid

end SessionAuth
