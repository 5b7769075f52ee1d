import SessionAuth.Digest.Sha2
import SessionAuth.Signature.Modular

/-!
# ECDSA

Signatures on the curves P-256 and P-384, which have the form `y² = x³ - 3x + b`. A signature is a
pair of numbers in a fixed number of bytes each.
-/

namespace SessionAuth.Signature.Ecdsa

/-- A curve with its base point and the hash function that goes with it. -/
structure Curve where
  p : Nat
  order : Nat
  b : Nat
  baseX : Nat
  baseY : Nat
  size : Nat
  digest : Bytes → Bytes

/-- The curve of 256 bits. -/
def p256 : Curve where
  p := 0xffffffff00000001000000000000000000000000ffffffffffffffffffffffff
  order := 0xffffffff00000000ffffffffffffffffbce6faada7179e84f3b9cac2fc632551
  b := 0x5ac635d8aa3a93e7b3ebbd55769886bc651d06b0cc53b0f63bce3c3e27d2604b
  baseX := 0x6b17d1f2e12c4247f8bce6e563a440f277037d812deb33a0f4a13945d898c296
  baseY := 0x4fe342e2fe1a7f9b8ee7eb4a7c0f9e162bce33576b315ececbb6406837bf51f5
  size := 32
  digest := Digest.sha256

/-- The curve of 384 bits. -/
def p384 : Curve where
  p :=
    0xfffffffffffffffffffffffffffffffffffffffffffffffffffffffffffffffeffffffff0000000000000000ffffffff
  order :=
    0xffffffffffffffffffffffffffffffffffffffffffffffffc7634d81f4372ddf581a0db248b0a77aecec196accc52973
  b :=
    0xb3312fa7e23ee7e4988e056be3f82d19181d9c6efe8141120314088f5013875ac656398d8a2ed19d2a85c8edd3ec2aef
  baseX :=
    0xaa87ca22be8b05378eb1c71ef320ad746e1d3b628ba79b9859f741e082542a385502f25dbf55296c3a545e3872760ab7
  baseY :=
    0x3617de4a96262c6f5d9e98bf9292dc29f8f41dbd289a147ce9da3113b5f0b8c00a60b1ce1d7e819d7a431d7c90ea0e5f
  size := 48
  digest := Digest.sha384

/-- A point in projective coordinates: `x / z²` and `y / z³`, or the neutral point if `z` is
zero. -/
structure Point where
  x : Nat
  y : Nat
  z : Nat
deriving Inhabited

/-- The neutral point. -/
def Point.zero : Point := ⟨1, 1, 0⟩

namespace Curve

/-- The base point. -/
def base (c : Curve) : Point := ⟨c.baseX, c.baseY, 1⟩

/-- Twice a point. -/
def double (c : Curve) (a : Point) : Point :=
  let p := c.p
  let zz := a.z * a.z % p
  let yy := a.y * a.y % p
  let s := 4 * a.x * yy % p
  let m := 3 * (Modular.sub p a.x zz) * ((a.x + zz) % p) % p
  let x := Modular.sub p (m * m % p) (2 * s % p)
  ⟨x, Modular.sub p (m * Modular.sub p s x % p) (8 * yy * yy % p), 2 * a.y * a.z % p⟩

/-- The sum of two points. -/
def add (c : Curve) (a b : Point) : Point :=
  if a.z = 0 then b
  else if b.z = 0 then a
  else
    let p := c.p
    let az := a.z * a.z % p
    let bz := b.z * b.z % p
    let u := a.x * bz % p
    let s := a.y * bz % p * b.z % p
    let h := Modular.sub p (b.x * az % p) u
    let r := Modular.sub p (b.y * az % p * a.z % p) s
    if h = 0 then
      if r = 0 then c.double a else .zero
    else
      let hh := h * h % p
      let hhh := hh * h % p
      let v := u * hh % p
      let x := Modular.sub p (r * r % p) ((hhh + 2 * v) % p)
      ⟨x, Modular.sub p (r * Modular.sub p v x % p) (s * hhh % p), h * a.z % p * b.z % p⟩

/-- A multiple of a point, of a factor with the given number of bits. -/
def mulBits (c : Curve) : (bits factor : Nat) → Point → Point
  | 0, _, _ => .zero
  | bits + 1, factor, a =>
    let half := c.mulBits bits (factor / 2) (c.double a)
    if factor % 2 = 1 then c.add half a else half

/-- A multiple of a point. -/
def mul (c : Curve) (factor : Nat) (a : Point) : Point := c.mulBits (Nat.log2 factor + 1) factor a

/-- The plain coordinates of a point other than the neutral one. -/
def affine? (c : Curve) (a : Point) : Option (Nat × Nat) :=
  if a.z = 0 then none
  else
    let scale := Modular.inverse c.p a.z
    let square := scale * scale % c.p
    some (a.x * square % c.p, a.y * square % c.p * scale % c.p)

/-- The plain coordinates satisfy the equation of the curve. -/
def contains (c : Curve) (x y : Nat) : Bool :=
  x < c.p && y < c.p && y * y % c.p == (x * x % c.p * x + (c.p - 3) * x + c.b) % c.p

/-- The bytes of a point: a four and both coordinates. -/
def pointBytes (c : Curve) (a : Point) : Option Bytes :=
  (c.affine? a).map fun (x, y) => 4 :: Modular.toBytes c.size x ++ Modular.toBytes c.size y

/-- The point that bytes stand for. -/
def point? (c : Curve) (bytes : Bytes) : Option Point :=
  match bytes with
  | 4 :: rest =>
    let x := Modular.ofBytes (rest.take c.size)
    let y := Modular.ofBytes (rest.drop c.size)
    if rest.length = 2 * c.size && c.contains x y then some ⟨x, y, 1⟩ else none
  | _ => none

/-- The number that stands for a message. -/
def messageNumber (c : Curve) (message : Bytes) : Nat := Modular.ofBytes (c.digest message)

/-- Tries secret numbers for a signature until one works. They are digests of key, message and the
number of the try. -/
def signFrom (c : Curve) (secret : Nat) (message : Bytes) : (tries : Nat) → Bytes
  | 0 => []
  | tries + 1 =>
    let material := Modular.toBytes c.size secret ++ message ++ [UInt8.ofNat tries]
    let nonce := Modular.ofBytes (Digest.sha512 material) % c.order
    let r := ((c.affine? (c.mul nonce c.base)).map (·.1 % c.order)).getD 0
    let s := Modular.inverse c.order nonce * (c.messageNumber message + r * secret) % c.order
    if r = 0 ∨ s = 0 then c.signFrom secret message tries
    else Modular.toBytes c.size r ++ Modular.toBytes c.size s

/-- Signs a message with a secret number. -/
def sign (c : Curve) (secret : Nat) (message : Bytes) : Bytes := c.signFrom secret message 256

/-- Whether a signature of a message is valid under the bytes of a public key. -/
def verify (c : Curve) (key message signature : Bytes) : Bool :=
  let r := Modular.ofBytes (signature.take c.size)
  let s := Modular.ofBytes (signature.drop c.size)
  match c.point? key with
  | none => false
  | some a =>
    let w := Modular.inverse c.order s
    let sum := c.add (c.mul (c.messageNumber message * w % c.order) c.base)
      (c.mul (r * w % c.order) a)
    signature.length = 2 * c.size && 0 < r && r < c.order && 0 < s && s < c.order &&
      (c.affine? sum).any (·.1 % c.order == r)

end Curve

end SessionAuth.Signature.Ecdsa
