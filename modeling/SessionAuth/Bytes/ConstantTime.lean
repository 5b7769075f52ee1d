import SessionAuth.Text.Utf8

/-!
# Comparison that does not stop early

Secrets are compared by looking at every pair of bytes, so that the time taken says nothing about
where two values differ. The answer is that of equality.
-/

namespace SessionAuth.Bytes

/-- All bits in which two byte strings of one length differ, gathered into one byte. -/
def differences (a b : Bytes) : UInt8 :=
  (List.zipWith (· ^^^ ·) a b).foldl (· ||| ·) 0

/-- Compares every pair of bytes, whatever the pairs before it gave. -/
def equalInConstantTime (a b : Bytes) : Bool :=
  a.length == b.length && differences a b == 0

end SessionAuth.Bytes
