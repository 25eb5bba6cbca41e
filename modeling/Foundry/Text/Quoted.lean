import Foundry.Text.Printable
import Foundry.Text.Segments

/-!
Quoted forms of texts and byte sequences. A quoted text stands between single quotes unless it
holds a single quote and no double quote; backslashes, the chosen quote and characters that are
not printable are escaped.
-/

namespace Foundry.Text

def hexDigit (n : Nat) : Char :=
  if n < 10 then Char.ofNat (48 + n) else Char.ofNat (87 + n)

/-- The last `width` hexadecimal digits of a number. -/
def hexDigits : Nat → Nat → List Char
  | 0, _ => []
  | width + 1, n => hexDigits width (n / 16) ++ [hexDigit (n % 16)]

/-- The escape of a character that is not shown, by the size of its code point. -/
def escapePoint (n : Nat) : List Char :=
  if n < 0x100 then '\\' :: 'x' :: hexDigits 2 n
  else if n < 0x10000 then '\\' :: 'u' :: hexDigits 4 n
  else '\\' :: 'U' :: hexDigits 8 n

/-- The form of one character between the quotes `q`. -/
def quotedChar (q c : Char) : List Char :=
  if c = q ∨ c = '\\' then ['\\', c]
  else if c = '\t' then ['\\', 't']
  else if c = '\n' then ['\\', 'n']
  else if c = '\r' then ['\\', 'r']
  else if isPrintable c then [c]
  else escapePoint c.toNat

/-- Double quotes are used for a text that holds single quotes only. -/
def quoteFor (cs : List Char) : Char :=
  if cs.contains '\'' && !cs.contains '"' then '"' else '\''

def quotedList (cs : List Char) : List Char :=
  let q := quoteFor cs
  q :: cs.flatMap (quotedChar q) ++ [q]

/-- The quoted form of a text. -/
def quoted (s : String) : String :=
  String.ofList (quotedList s.toList)

/-- The value of hexadecimal digits. -/
def hexValue (cs : List Char) : Nat :=
  cs.foldl (fun n c => n * 16 +
    (if c.isDigit then c.toNat - 48 else if c.isUpper then c.toNat - 55 else c.toNat - 87)) 0

/-- The character that a letter after a backslash stands for. -/
def unescaped : Char → Char
  | 't' => '\t'
  | 'n' => '\n'
  | 'r' => '\r'
  | c => c

/-- Reads up to the closing quote `q`: the text, and what follows the quote. -/
def unquotedList (q : Char) : List Char → Option (List Char × List Char)
  | [] => none
  | '\\' :: 'x' :: a :: b :: cs =>
    (unquotedList q cs).map fun r => (Char.ofNat (hexValue [a, b]) :: r.1, r.2)
  | '\\' :: 'u' :: a :: b :: c :: d :: cs =>
    (unquotedList q cs).map fun r => (Char.ofNat (hexValue [a, b, c, d]) :: r.1, r.2)
  | '\\' :: 'U' :: a :: b :: c :: d :: e :: f :: g :: h :: cs =>
    (unquotedList q cs).map fun r => (Char.ofNat (hexValue [a, b, c, d, e, f, g, h]) :: r.1, r.2)
  | '\\' :: c :: cs => (unquotedList q cs).map fun r => (unescaped c :: r.1, r.2)
  | c :: cs => if c = q then some ([], cs) else (unquotedList q cs).map fun r => (c :: r.1, r.2)

/-- Reads a quoted text at the start of a list of characters. -/
def readQuoted : List Char → Option (String × List Char)
  | c :: cs =>
    if c = '\'' ∨ c = '"' then (unquotedList c cs).map fun r => (String.ofList r.1, r.2) else none
  | [] => none

/-- The form of one byte between the quotes `q`. -/
def quotedByte (q : Char) (b : UInt8) : List Char :=
  let c := Char.ofNat b.toNat
  if c = q ∨ c = '\\' then ['\\', c]
  else if c = '\t' then ['\\', 't']
  else if c = '\n' then ['\\', 'n']
  else if c = '\r' then ['\\', 'r']
  else if 32 ≤ b.toNat ∧ b.toNat < 127 then [c]
  else '\\' :: 'x' :: hexDigits 2 b.toNat

/-- The quoted form of a byte sequence, marked by the letter `b`. -/
def quotedBytes (bs : List UInt8) : String :=
  let q := quoteFor (bs.map fun b => Char.ofNat b.toNat)
  String.ofList ('b' :: q :: bs.flatMap (quotedByte q) ++ [q])

end Foundry.Text
