import SessionAuth.Digest.Sha2
import SessionAuth.Signature.Modular

/-!
# RSA

Signatures with RSA keys in two schemes. In the plain one the signed number holds a fixed padding
and the digest of the message; in the probabilistic one it holds a salted digest under a mask.
-/

namespace SessionAuth.Signature.Rsa

/-- A hash function with its output length and the bytes that announce it. -/
structure Hash where
  digest : Bytes → Bytes
  size : Nat
  announcement : Bytes

/-- The announcement of the SHA-2 function with the given code and output length. -/
def announce (code size : UInt8) : Bytes :=
  [0x30, 17 + size, 0x30, 0x0d, 0x06, 0x09, 0x60, 0x86, 0x48, 0x01, 0x65, 0x03, 0x04, 0x02, code,
    0x05, 0x00, 0x04, size]

def hash256 : Hash := ⟨Digest.sha256, 32, announce 1 32⟩
def hash384 : Hash := ⟨Digest.sha384, 48, announce 2 48⟩
def hash512 : Hash := ⟨Digest.sha512, 64, announce 3 64⟩

/-- The two schemes. -/
inductive Scheme where
  | plain
  | probabilistic
deriving DecidableEq, Repr

/-- A public key. -/
structure PublicKey where
  modulus : Nat
  exponent : Nat

/-- A private key with its prime factors and what speeds up its use. -/
structure PrivateKey where
  modulus : Nat
  publicExponent : Nat
  exponent : Nat
  prime1 : Nat
  prime2 : Nat
  exponent1 : Nat
  exponent2 : Nat
  coefficient : Nat

/-! ### Conditions on keys -/

/-- The public part is odd, of the right size and has a proper exponent. -/
def PublicKey.isUsable (key : PublicKey) (minExponent maxBits : Nat) : Bool :=
  let bits := Modular.bitLength key.modulus
  key.modulus % 2 == 1 && 2048 ≤ (bits + 7) / 8 * 8 && bits ≤ maxBits &&
    key.exponent % 2 == 1 && minExponent ≤ key.exponent && key.exponent < Nat.pow 2 33

/-- The public part of a private key. -/
def PrivateKey.publicKey (key : PrivateKey) : PublicKey := ⟨key.modulus, key.publicExponent⟩

/-- A factor of the given number of bits. -/
def isFactor (bits prime : Nat) : Bool := prime % 2 == 1 && Modular.bitLength prime == bits

/-- An exponent that works modulo a number. -/
def isExponent (modulus exponent : Nat) : Bool := exponent % 2 == 1 && exponent < modulus

/-- The parts of a private key fit together, as far as can be told quickly. The factors are half as
long as the modulus, in steps of 512 bits. -/
def PrivateKey.isUsable (key : PrivateKey) : Bool :=
  let half := (Modular.bitLength key.modulus + 1) / 2
  key.publicKey.isUsable 65537 4096 && half % 512 == 0 &&
    isFactor half key.prime1 && isFactor half key.prime2 &&
    key.prime1 * key.prime2 % key.modulus == 0 &&
    half < Modular.bitLength key.exponent && isExponent key.modulus key.exponent &&
    isExponent key.prime1 key.exponent1 && isExponent key.prime2 key.exponent2 &&
    key.coefficient < key.prime1 && key.coefficient * key.prime2 % key.prime1 == 1

/-! ### Padding -/

/-- The number of bytes of a key's modulus. -/
def size (modulus : Nat) : Nat := (Modular.bitLength modulus + 7) / 8

/-- The padded digest of the plain scheme. -/
def plainPadding (h : Hash) (size : Nat) (message : Bytes) : Bytes :=
  let content := h.announcement ++ h.digest message
  0 :: 1 :: List.replicate (size - 3 - content.length) 0xff ++ 0 :: content

/-- Bytes that a digest is spread to: digests of it with a counter. -/
def spread (h : Hash) (length : Nat) (source : Bytes) : Bytes :=
  ((List.range ((length + h.size - 1) / h.size)).flatMap fun i =>
    h.digest (source ++ Modular.toBytes 4 i)).take length

/-- Clears the highest bits, so that as many are left as asked for. -/
def keepBits (bits : Nat) (bytes : Bytes) : Bytes :=
  Modular.toBytes bytes.length (Modular.ofBytes bytes % Nat.pow 2 bits)

/-- The salted digest. -/
def saltedDigest (h : Hash) (message salt : Bytes) : Bytes :=
  h.digest (List.replicate 8 0 ++ h.digest message ++ salt)

/-- The padded digest of the probabilistic scheme, in as many bytes as `bits` bits take. -/
def probabilisticPadding (h : Hash) (bits : Nat) (salt message : Bytes) : Bytes :=
  let length := (bits + 7) / 8
  let digest := saltedDigest h message salt
  let blockLength := length - h.size - 1
  let block := List.replicate (blockLength - salt.length - 1) 0 ++ 1 :: salt
  let masked := List.zipWith (· ^^^ ·) block (spread h blockLength digest)
  keepBits (bits - 8 * (h.size + 1)) masked ++ digest ++ [0xbc]

/-- Whether bytes are the padded digest of a message with a salt as long as a digest. -/
def isProbabilisticPadding (h : Hash) (bits : Nat) (message padded : Bytes) : Bool :=
  let blockLength := (bits + 7) / 8 - h.size - 1
  let masked := padded.take blockLength
  let digest := (padded.drop blockLength).take h.size
  let block := keepBits (bits - 8 * (h.size + 1))
    (List.zipWith (· ^^^ ·) masked (spread h blockLength digest))
  probabilisticPadding h bits (block.drop (blockLength - h.size)) message == padded

/-! ### Signing -/

/-- The number whose power with the public exponent is `n`, computed modulo both primes. -/
def PrivateKey.root (key : PrivateKey) (n : Nat) : Nat :=
  let a := Modular.pow key.prime1 n key.exponent1
  let b := Modular.pow key.prime2 n key.exponent2
  let h := key.coefficient * Modular.sub key.prime1 a (b % key.prime1) % key.prime1
  (b + h * key.prime2) % key.modulus

/-- Signs a message. The salt is a digest of key and message. A result that does not verify is
withheld. -/
def sign? (scheme : Scheme) (h : Hash) (key : PrivateKey) (message : Bytes) : Option Bytes :=
  let length := size key.modulus
  let padded := match scheme with
    | .plain => plainPadding h length message
    | .probabilistic =>
      let salt := h.digest (Modular.toBytes length key.exponent ++ message)
      probabilisticPadding h (Modular.bitLength key.modulus - 1) salt message
  let n := Modular.ofBytes padded
  let root := key.root n
  if Modular.pow key.modulus root key.publicExponent = n then some (Modular.toBytes length root)
  else none

/-- Whether a signature of a message is valid under a public key. -/
def verify (scheme : Scheme) (h : Hash) (key : PublicKey) (message signature : Bytes) : Bool :=
  let length := size key.modulus
  let root := Modular.ofBytes signature
  let n := Modular.pow key.modulus root key.exponent
  key.isUsable 3 8192 && signature.length == length && root < key.modulus &&
    match scheme with
    | .plain => Modular.toBytes length n == plainPadding h length message
    | .probabilistic =>
      let bits := Modular.bitLength key.modulus - 1
      n < Nat.pow 2 bits &&
        isProbabilisticPadding h bits message (Modular.toBytes ((bits + 7) / 8) n)

end SessionAuth.Signature.Rsa
