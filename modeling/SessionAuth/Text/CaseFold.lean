import SessionAuth.Text.LowerCase

/-!
# Letters without case

To compare texts without case, letters are brought to one form. It is the small letter but for the
Cherokee script, whose capitals were there first, for small letters that are shapes of others, such
as the sigma at the end of a word, and for the iota under a vowel, which counts as a letter.
-/

namespace SessionAuth.Text

/-- Small letters that are shapes of others. -/
def shapes : List (Char × Char) :=
  [('\u0345', 'ι'), ('ς', 'σ'), ('\u1C80', 'в'), ('\u1C81', 'д'), ('\u1C82', 'о'),
   ('\u1C83', 'с'), ('\u1C84', 'т'), ('\u1C85', 'т'), ('\u1C86', 'ъ'), ('\u1C87', 'ѣ'),
   ('\u1C88', '\uA64B')]

/-- The capital of a Cherokee letter; small ones stand in two blocks. -/
def cherokee? (c : Char) : Option Char :=
  let n := c.toNat
  if 0x13a0 ≤ n ∧ n < 0x13f8 then some c
  else if 0x13f8 ≤ n ∧ n < 0x13fe then some (Char.ofNat (n - 8))
  else if 0xab70 ≤ n ∧ n < 0xabc0 then some (Char.ofNat (n - 0xab70 + 0x13a0))
  else none

/-- What a character becomes. -/
def foldChar (c : Char) : List Char :=
  match shapes.lookup c <|> cherokee? c with
  | some folded => [folded]
  | none => lowerChar c

end SessionAuth.Text
