import SessionAuth.Digest.Sha2
import SessionAuth.Signature.Modular

/-!
# Ed25519

Signatures on the twisted Edwards curve over the field of `2 ^ 255 - 19`. A signature is a point
and a number; it is valid if the number times the base point is that point plus the challenge times
the public key. The point is compared in its encoded form.
-/

namespace SessionAuth.Signature.Ed25519

/-- The order of the field. -/
def p : Nat := Nat.pow 2 255 - 19

/-- The order of the base point. -/
def order : Nat := Nat.pow 2 252 + 27742317777372353535851937790883648493

/-- The coefficient of the curve. -/
def d : Nat := 37095705934669439343138083508754565189542113879843219016388785533085940283555

/-- A square root of minus one. -/
def rootOfMinusOne : Nat := Modular.pow p 2 ((p - 1) / 4)

/-- A point in extended coordinates: `x / z`, `y / z`, and `t / z` for their product. -/
structure Point where
  x : Nat
  y : Nat
  z : Nat
  t : Nat
deriving Inhabited

namespace Point

/-- The neutral point. -/
def zero : Point := ⟨0, 1, 1, 0⟩

/-- The sum of two points. -/
def add (a b : Point) : Point :=
  let m := Modular.sub p a.y a.x * Modular.sub p b.y b.x % p
  let n := (a.y + a.x) * (b.y + b.x) % p
  let c := a.t * (2 * d % p) % p * b.t % p
  let e := 2 * a.z * b.z % p
  let f := Modular.sub p n m
  let g := Modular.sub p e c
  let h := (e + c) % p
  let i := (n + m) % p
  ⟨f * g % p, h * i % p, g * h % p, f * i % p⟩

/-- A multiple of a point, of a factor with the given number of bits. -/
def mulBits : (bits factor : Nat) → Point → Point
  | 0, _, _ => zero
  | bits + 1, factor, a =>
    let half := mulBits bits (factor / 2) (a.add a)
    if factor % 2 = 1 then half.add a else half

/-- A multiple of a point. -/
def mul (factor : Nat) (a : Point) : Point := mulBits (Nat.log2 factor + 1) factor a

/-- The opposite point. -/
def neg (a : Point) : Point := ⟨Modular.sub p 0 a.x % p, a.y, a.z, Modular.sub p 0 a.t % p⟩

/-- The 32 bytes of a point: its second coordinate, least significant byte first, and the lowest
bit of the first one on top. -/
def toBytes (a : Point) : Bytes :=
  let scale := Modular.inverse p a.z
  let x := a.x * scale % p
  let y := a.y * scale % p
  (Modular.toBytes 32 (y + (x % 2) * Nat.pow 2 255)).reverse

/-- The point that 32 bytes stand for. -/
def ofBytes? (bytes : Bytes) : Option Point :=
  let n := Modular.ofBytes bytes.reverse
  let y := n % Nat.pow 2 255 % p
  let u := Modular.sub p (y * y % p) 1
  let v := (d * (y * y % p) + 1) % p
  let v3 := v * v % p * v % p
  let v7 := v3 * v3 % p * v % p
  let x := u * v3 % p * Modular.pow p (u * v7 % p) ((p - 5) / 8) % p
  let square := v * (x * x % p) % p
  let x? :=
    if square = u then some x
    else if square = Modular.sub p 0 u % p then some (x * rootOfMinusOne % p)
    else none
  if bytes.length ≠ 32 then none
  else x?.map fun x =>
    let x := if x % 2 = n / Nat.pow 2 255 then x else Modular.sub p 0 x % p
    ⟨x, y, 1, x * y % p⟩

end Point

/-- The base point, whose second coordinate is four fifths. -/
def base : Point :=
  let y := 4 * Modular.inverse p 5 % p
  (Point.ofBytes? (Modular.toBytes 32 y).reverse).getD .zero

/-- The number that bytes stand for, least significant first, modulo the order. -/
def scalar (bytes : Bytes) : Nat := Modular.ofBytes bytes.reverse % order

/-- The secret factor of a seed: half a digest, a multiple of eight with its second highest bit
set. -/
def secret (seed : Bytes) : Nat :=
  let n := Modular.ofBytes ((Digest.sha512 seed).take 32).reverse
  n % Nat.pow 2 254 / 8 * 8 + Nat.pow 2 254

/-- The public key of a seed. -/
def publicKey (seed : Bytes) : Bytes := (base.mul (secret seed)).toBytes

/-- The number that ties a signature to key and message. -/
def challenge (point key message : Bytes) : Nat := scalar (Digest.sha512 (point ++ key ++ message))

/-- Signs a message with a seed of 32 bytes. -/
def sign (seed message : Bytes) : Bytes :=
  let nonce := scalar (Digest.sha512 ((Digest.sha512 seed).drop 32 ++ message))
  let point := (base.mul nonce).toBytes
  let number := (nonce + challenge point (publicKey seed) message * secret seed) % order
  point ++ (Modular.toBytes 32 number).reverse

/-- Whether a signature of a message is valid under a public key. -/
def verify (key message signature : Bytes) : Bool :=
  let point := signature.take 32
  let number := Modular.ofBytes (signature.drop 32).reverse
  match Point.ofBytes? key with
  | none => false
  | some a =>
    signature.length = 64 && number < order &&
      ((base.mul number).add (a.neg.mul (challenge point key message))).toBytes == point

end SessionAuth.Signature.Ed25519
