import SessionAuth.Text.Utf8

/-!
# Base64

Three bytes become four characters of an alphabet of sixty-four; a rest of one or two bytes becomes
two or three characters, filled up with `=` where the form asks for it. Decoding is strict: a text
is accepted only if it is the one that encoding gives, so spare bits are zero and the filling is
exact.
-/

namespace SessionAuth.Base64

/-- The two characters that alphabets differ in, and whether texts are filled up to a multiple of
four characters. -/
structure Form where
  char62 : Char
  char63 : Char
  isPadded : Bool

/-- The standard alphabet with filling. -/
def standard : Form := ⟨'+', '/', true⟩

/-- The standard alphabet without filling. -/
def standardUnpadded : Form := ⟨'+', '/', false⟩

/-- The alphabet for names in addresses, without filling. -/
def urlSafe : Form := ⟨'-', '_', false⟩

namespace Form

/-- The character of a number below sixty-four. -/
def symbol (form : Form) (n : Nat) : Char :=
  if n < 26 then Char.ofNat (65 + n)
  else if n < 52 then Char.ofNat (71 + n)
  else if n < 62 then Char.ofNat (n - 4)
  else if n = 62 then form.char62
  else form.char63

/-- The number of a character of the alphabet. -/
def value? (form : Form) (c : Char) : Option Nat :=
  let n := c.toNat
  if 65 ≤ n ∧ n ≤ 90 then some (n - 65)
  else if 97 ≤ n ∧ n ≤ 122 then some (n - 71)
  else if 48 ≤ n ∧ n ≤ 57 then some (n + 4)
  else if c = form.char62 then some 62
  else if c = form.char63 then some 63
  else none

/-- The filling of the last group. -/
def filling (form : Form) (count : Nat) : List Char :=
  if form.isPadded then List.replicate count '=' else []

/-- The text of a byte string. -/
def encodeList (form : Form) : Bytes → List Char
  | a :: b :: c :: rest =>
    let n := a.toNat * 65536 + b.toNat * 256 + c.toNat
    form.symbol (n / 262144) :: form.symbol (n / 4096 % 64) :: form.symbol (n / 64 % 64) ::
      form.symbol (n % 64) :: form.encodeList rest
  | [a, b] =>
    let n := a.toNat * 1024 + b.toNat * 4
    [form.symbol (n / 4096), form.symbol (n / 64 % 64), form.symbol (n % 64)] ++ form.filling 1
  | [a] =>
    let n := a.toNat * 16
    [form.symbol (n / 64), form.symbol (n % 64)] ++ form.filling 2
  | [] => []

/-- The text of a byte string. -/
def encode (form : Form) (bytes : Bytes) : String := String.ofList (form.encodeList bytes)

/-- The bytes of groups of numbers; spare bits at the end are dropped. -/
def ofGroups : List Nat → Option Bytes
  | w :: x :: y :: z :: rest => do
    let n := w * 262144 + x * 4096 + y * 64 + z
    return UInt8.ofNat (n / 65536) :: UInt8.ofNat (n / 256 % 256) :: UInt8.ofNat (n % 256) ::
      (← ofGroups rest)
  | [w, x, y] =>
    let n := w * 4096 + x * 64 + y
    some [UInt8.ofNat (n / 1024), UInt8.ofNat (n / 4 % 256)]
  | [w, x] => some [UInt8.ofNat ((w * 64 + x) / 16)]
  | [_] => none
  | [] => some []

/-- The byte string whose text this is. -/
def decodeList? (form : Form) (cs : List Char) : Option Bytes := do
  let numbers ← (cs.filter (· ≠ '=')).mapM form.value?
  let bytes ← ofGroups numbers
  if form.encodeList bytes = cs then some bytes else none

/-- The byte string whose text this is. -/
def decode? (form : Form) (s : String) : Option Bytes := form.decodeList? s.toList

end Form

end SessionAuth.Base64
