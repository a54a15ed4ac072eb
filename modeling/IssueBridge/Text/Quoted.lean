import IssueBridge.Text.Printable

/-! # Quoted texts

A text is quoted with single quotes, or with double quotes if it holds a single quote and no double
one. Inside, the backslash and the quote in use are escaped, and so is every unprintable character,
by the shortest of the forms for one, two and four bytes.
-/

namespace IssueBridge.Text

def apostrophe : Char := '\x27'

/-- The last `width` hexadecimal digits of `n`, in lower case. -/
def hexDigits (width n : Nat) : List Char :=
  (List.range width).map fun i => Nat.digitChar (n >>> (4 * (width - 1 - i)) % 16)

/-- The quote that `s` is put between. -/
def quoteFor (s : List Char) : Char :=
  if s.contains apostrophe && !s.contains '"' then '"' else apostrophe

def escapeChar (quote c : Char) : List Char :=
  if c = quote ∨ c = '\\' then ['\\', c]
  else if c = '\n' then ['\\', 'n']
  else if c = '\r' then ['\\', 'r']
  else if c = '\t' then ['\\', 't']
  else if isPrintable c then [c]
  else if c.toNat ≤ 0xFF then '\\' :: 'x' :: hexDigits 2 c.toNat
  else if c.toNat ≤ 0xFFFF then '\\' :: 'u' :: hexDigits 4 c.toNat
  else '\\' :: 'U' :: hexDigits 8 c.toNat

def quoted (s : String) : String :=
  let q := quoteFor s.toList
  String.ofList (q :: s.toList.flatMap (escapeChar q) ++ [q])

end IssueBridge.Text
