import SessionAuth.Text.Utf8

/-!
# Modular arithmetic

Powers and inverses modulo a number, and numbers as byte strings.
-/

namespace SessionAuth.Signature.Modular

/-- A power modulo `m`, of an exponent with the given number of bits. -/
def powBits (m : Nat) : (bits base exponent : Nat) → Nat
  | 0, _, _ => 1 % m
  | bits + 1, base, exponent =>
    let half := powBits m bits (base * base % m) (exponent / 2)
    if exponent % 2 = 1 then half * base % m else half

/-- A power modulo `m`. -/
def pow (m base exponent : Nat) : Nat := powBits m (Nat.log2 exponent + 1) (base % m) exponent

/-- The inverse of `a` modulo a prime. -/
def inverse (prime a : Nat) : Nat := pow prime a (prime - 2)

/-- The difference modulo `m` of two numbers below `m`. -/
def sub (m a b : Nat) : Nat := (a + (m - b)) % m

/-- The number that bytes stand for, most significant first. -/
def ofBytes (bytes : Bytes) : Nat := bytes.foldl (fun n b => n * 256 + b.toNat) 0

/-- A number in `count` bytes, most significant first. -/
def toBytes : (count n : Nat) → Bytes
  | 0, _ => []
  | count + 1, n => toBytes count (n / 256) ++ [UInt8.ofNat (n % 256)]

/-- How many bits a number has. -/
def bitLength (n : Nat) : Nat := if n = 0 then 0 else Nat.log2 n + 1

end SessionAuth.Signature.Modular
