import Foundry.Decimal.Binary64
import Foundry.Source.Lexer
import Foundry.Source.Syntax
import Foundry.Text.CharacterNames

/-!
Literals: the values of numbers and strings, and the pieces of formatted strings.
-/

namespace Foundry.Source

open Foundry.Decimal Foundry.Text

/-! ### Numbers -/

def digitValue (c : Char) : Nat :=
  if c.isDigit then c.toNat - 48
  else if 'a' ≤ c ∧ c ≤ 'z' then c.toNat - 87
  else c.toNat - 55

/-- The number written in a base, underscores ignored. -/
def valueInBase (base : Nat) (cs : List Char) : Nat :=
  cs.foldl (fun n c => if c = '_' then n else n * base + digitValue c) 0

/-- A decimal number with a point or an exponent. -/
def floatValue (cs : List Char) : Binary64 :=
  let cs := cs.filter (· != '_')
  let body := cs.takeWhile fun c => c != 'e' && c != 'E'
  let exponent := (cs.dropWhile fun c => c != 'e' && c != 'E').drop 1
  let whole := body.takeWhile (· != '.')
  let fraction := (body.dropWhile (· != '.')).drop 1
  let shift : Int := match exponent with
    | '-' :: ds => -(valueInBase 10 ds : Int)
    | '+' :: ds => valueInBase 10 ds
    | ds => valueInBase 10 ds
  Binary64.ofDecimal false (valueInBase 10 (whole ++ fraction)) (shift - fraction.length)

/-- The value of a number without a mark of its base. -/
def decimalValue (cs : List Char) : Constant :=
  match cs.getLast? with
  | some j =>
    if j = 'j' ∨ j = 'J' then .imaginary (floatValue cs.dropLast)
    else if cs.any fun c => c == '.' || c == 'e' || c == 'E' then .float (floatValue cs)
    else .int (valueInBase 10 cs)
  | none => .int 0

/-- The value of a number token. -/
def numberValue (text : String) : Constant :=
  match text.toList with
  | '0' :: c :: rest =>
    if c = 'x' ∨ c = 'X' then .int (valueInBase 16 rest)
    else if c = 'o' ∨ c = 'O' then .int (valueInBase 8 rest)
    else if c = 'b' ∨ c = 'B' then .int (valueInBase 2 rest)
    else decimalValue ('0' :: c :: rest)
  | cs => decimalValue cs

/-! ### Strings -/

/-- What the marks of a string literal say, and what stands between its quotes. -/
structure StringParts where
  isBytes : Bool
  isRaw : Bool
  isFormatted : Bool
  isMarked : Bool
  body : List Char
deriving DecidableEq, Repr

def StringParts.ofToken (text : String) : StringParts :=
  let cs := text.toList
  let isQuote := fun c => c == '"' || c == '\''
  let marks := (cs.takeWhile fun c => !isQuote c).map Char.toLower
  let rest := cs.dropWhile fun c => !isQuote c
  let size := match rest with
    | a :: b :: c :: _ => if a = b ∧ b = c ∧ rest.length ≥ 6 then 3 else 1
    | _ => 1
  { isBytes := marks.contains 'b'
    isRaw := marks.contains 'r'
    isFormatted := marks.contains 'f'
    isMarked := marks.contains 'u'
    body := (rest.drop size).take (rest.length - 2 * size) }

/-- Exactly `n` hexadecimal digits. -/
def hexPrefix (n : Nat) (cs : List Char) : Option (Nat × List Char) :=
  let ds := cs.take n
  if ds.length = n ∧ ds.all isHex then some (valueInBase 16 ds, cs.drop n) else none

/-- The simple escapes. -/
def simpleEscape (c : Char) : Option (List Char) :=
  match c with
  | '\n' => some []
  | '\\' => some ['\\']
  | '\'' => some ['\'']
  | '"' => some ['"']
  | 'a' => some [Char.ofNat 7]
  | 'b' => some [Char.ofNat 8]
  | 'f' => some [Char.ofNat 12]
  | 'n' => some ['\n']
  | 'r' => some ['\r']
  | 't' => some ['\t']
  | 'v' => some [Char.ofNat 11]
  | _ => none

/-- The escape after a backslash; `named` allows the escapes of texts that bytes do not have.
`none` for a malformed escape. -/
def escape (named : Bool) (c : Char) (cs : List Char) : Option (List Char × List Char) :=
  match simpleEscape c with
  | some image => some (image, cs)
  | none =>
    if isOctal c then
      let ds := c :: (cs.take 2).takeWhile isOctal
      some ([Char.ofNat (valueInBase 8 ds)], cs.drop (ds.length - 1))
    else if c = 'x' then
      (hexPrefix 2 cs).map fun (n, rest) => ([Char.ofNat n], rest)
    else if named && c = 'u' then
      (hexPrefix 4 cs).map fun (n, rest) => ([Char.ofNat n], rest)
    else if named && c = 'U' then
      match hexPrefix 8 cs with
      | some (n, rest) => if n < 0x110000 then some ([Char.ofNat n], rest) else none
      | none => none
    else if named && c = 'N' then
      match cs with
      | '\x7b' :: rest =>
        let name := rest.takeWhile (· != '\x7d')
        match rest.drop name.length with
        | _ :: after => (characterNamed? (String.ofList name)).map fun ch => ([ch], after)
        | [] => none
      | _ => none
    else some (['\\', c], cs)

/-- A body with its escapes replaced; `fuel` bounds the characters read. A backslash at the end, in
front of the brace of a field, stands for itself. -/
def unescape (named : Bool) : Nat → List Char → Option (List Char)
  | 0, _ => some []
  | _ + 1, [] => some []
  | fuel + 1, c :: cs =>
    if c = '\\' then
      match cs with
      | [] => some [c]
      | d :: ds =>
        match escape named d ds with
        | some (image, rest) => (unescape named fuel rest).map (image ++ ·)
        | none => none
    else (unescape named fuel cs).map (c :: ·)

/-- The text between the quotes of a literal. -/
def textValue (raw : Bool) (body : List Char) : Option (List Char) :=
  if raw then some body else unescape true (body.length + 1) body

/-- The bytes between the quotes of a literal of ASCII characters. -/
def bytesValue (raw : Bool) (body : List Char) : Option (List UInt8) :=
  (if raw then some body else unescape false (body.length + 1) body).map
    (·.map fun c => UInt8.ofNat c.toNat)

/-! ### Formatted strings -/

/-- A piece of a formatted string before its expressions are read. `broken` marks the place where
the string is malformed; `line` counts the line ends in front of a field. -/
inductive RawPiece
  | literal (text : List Char)
  | field (line : Nat) (source : List Char) (shown : Option (List Char))
      (conversion : Option Char) (spec : Option (List RawPiece))
  | broken

/-- Where the literal part of a formatted string ends. -/
inductive LiteralEnd
  /-- A doubled brace, of which one belongs to the literal. -/
  | doubled
  | single
  | atBrace

/-- What a brace does to the literal part: doubled it stands for itself, except in a nested part. -/
def literalBrace (nested : Bool) (acc : List Char) (c : Char) (cs : List Char) :
    LiteralEnd × List Char × List Char :=
  if nested then (.atBrace, acc, c :: cs)
  else
    match cs with
    | d :: rest =>
      if d = c then (.doubled, c :: acc, rest)
      else if c = '\x7d' then (.single, acc, c :: cs)
      else (.atBrace, acc, c :: cs)
    | [] => if c = '\x7d' then (.single, acc, c :: cs) else (.atBrace, acc, c :: cs)

/-- The literal at the start of a formatted string: its characters, last first, and the rest. -/
def literalPart (raw nested : Bool) :
    Nat → List Char → List Char → LiteralEnd × List Char × List Char
  | 0, acc, cs => (.atBrace, acc, cs)
  | _ + 1, acc, [] => (.atBrace, acc, [])
  | fuel + 1, acc, c :: cs =>
    if !raw && c == '\\' && !cs.isEmpty then
      match cs with
      | 'N' :: '\x7b' :: rest =>
        let name := rest.takeWhile (· != '\x7d')
        let after := rest.drop name.length
        literalPart raw nested fuel
          ((after.take 1).reverse ++ name.reverse ++ ('\x7b' :: 'N' :: c :: acc)) (after.drop 1)
      | 'N' :: d :: rest => literalPart raw nested fuel (d :: 'N' :: c :: acc) rest
      | d :: rest =>
        if d = '\x7b' ∨ d = '\x7d' then literalBrace nested (c :: acc) d rest
        else literalPart raw nested fuel (d :: c :: acc) rest
      | [] => (.atBrace, c :: acc, [])
    else if c = '\x7b' ∨ c = '\x7d' then literalBrace nested acc c cs
    else literalPart raw nested fuel (c :: acc) cs

/-- Inside which quotes and brackets a field's expression stands. -/
structure FieldState where
  quote : Option (Char × Bool)
  brackets : List Char

/-- The expression of a field: its characters, last first, and the rest from the character that
ends it. `none` when it is malformed. -/
def fieldSource : Nat → FieldState → List Char → List Char → Option (List Char × List Char)
  | 0, _, _, _ => none
  | _ + 1, s, acc, [] => if s.quote.isSome || !s.brackets.isEmpty then none else some (acc, [])
  | fuel + 1, s, acc, c :: cs =>
    if c = '\\' then none
    else match s.quote with
      | some (q, triple) =>
        if c = q then
          if triple then
            match cs with
            | a :: b :: rest =>
              if a = q ∧ b = q then
                fieldSource fuel { s with quote := none } (b :: a :: c :: acc) rest
              else fieldSource fuel s (c :: acc) cs
            | _ => fieldSource fuel s (c :: acc) cs
          else fieldSource fuel { s with quote := none } (c :: acc) cs
        else fieldSource fuel s (c :: acc) cs
      | none =>
        if c = '"' ∨ c = '\'' then
          match cs with
          | a :: b :: rest =>
            if a = c ∧ b = c then
              fieldSource fuel { s with quote := some (c, true) } (b :: a :: c :: acc) rest
            else fieldSource fuel { s with quote := some (c, false) } (c :: acc) cs
          | _ => fieldSource fuel { s with quote := some (c, false) } (c :: acc) cs
        else if c = '(' ∨ c = '[' ∨ c = '\x7b' then
          if s.brackets.length ≥ 200 then none
          else fieldSource fuel { s with brackets := c :: s.brackets } (c :: acc) cs
        else if c = '#' then none
        else if s.brackets.isEmpty ∧
            (c = '!' ∨ c = ':' ∨ c = '\x7d' ∨ c = '=' ∨ c = '>' ∨ c = '<') then
          let pairs : Bool := (c == '!' || c == '=' || c == '<' || c == '>') &&
            cs.head? == some '='
          if pairs then fieldSource fuel s ('=' :: c :: acc) (cs.drop 1)
          else if c = '>' ∨ c = '<' then fieldSource fuel s (c :: acc) cs
          else some (acc, c :: cs)
        else if c = ')' ∨ c = ']' ∨ c = '\x7d' then
          match s.brackets with
          | o :: outer =>
            if closes o c then fieldSource fuel { s with brackets := outer } (c :: acc) cs else none
          | [] => none
        else fieldSource fuel s (c :: acc) cs

def isFieldBlank (c : Char) : Bool :=
  c == ' ' || c == '\t' || c == '\n' || c == '\x0c'

def isAsciiSpace (c : Char) : Bool :=
  c == ' ' || (9 ≤ c.toNat && c.toNat ≤ 13)

/-- The pieces of a formatted string at a nesting `level`, and the rest. `line` counts the line
ends passed. -/
def rawPieces (raw : Bool) : Nat → Nat → Nat → List Char → List RawPiece × List Char
  | 0, _, _, cs => ([.broken], cs)
  | fuel + 1, level, line, cs =>
    let (stop, acc, rest) := literalPart raw (level != 0) (cs.length + 1) [] cs
    let literal := if acc.isEmpty then [] else [RawPiece.literal acc.reverse]
    let line := line + countLines acc
    match stop with
    | .single => (literal ++ [.broken], rest)
    | .doubled =>
      let (pieces, after) := rawPieces raw fuel level line rest
      (literal ++ pieces, after)
    | .atBrace =>
      match rest with
      | '\x7b' :: inner =>
        if level ≥ 2 then (literal ++ [.broken], rest)
        else
          match fieldSource (inner.length + 1) ⟨none, []⟩ [] inner with
          | none => (literal ++ [.broken], rest)
          | some (_, []) => (literal ++ [.broken], rest)
          | some (source, after) =>
            let source := source.reverse
            if source.all isFieldBlank then (literal ++ [.broken], rest)
            else
              let (shown, tail) := match after with
                | '=' :: more =>
                  let gap := more.takeWhile isAsciiSpace
                  (some (source ++ '=' :: gap), more.drop gap.length)
                | _ => (none, after)
              let here := fun conversion spec => RawPiece.field line source shown conversion spec
              let (conversion, tail, bad) := match tail with
                | '!' :: k :: more =>
                  if k = 's' ∨ k = 'r' ∨ k = 'a' then (some k, more, false) else (none, more, true)
                | '!' :: [] => (none, [], true)
                | _ => (none, tail, false)
              if bad then (literal ++ [here none none, .broken], tail)
              else
                let passed := line + countLines source
                let (spec, tail) : Option (List RawPiece) × List Char := match tail with
                  | ':' :: more =>
                    if more.isEmpty then (some [.broken], [])
                    else
                      let (pieces, left) := rawPieces raw fuel (level + 1) passed more
                      (some pieces, left)
                  | _ => (none, tail)
                match tail with
                | '\x7d' :: more =>
                  let isPlain := spec.isNone && conversion.isNone
                  let conversion := if shown.isSome && isPlain then some 'r' else conversion
                  let lineAfter := line + countLines (inner.take (inner.length - more.length))
                  let (pieces, left) := rawPieces raw fuel level lineAfter more
                  (literal ++ here conversion spec :: pieces, left)
                | _ => (literal ++ [here conversion spec, .broken], tail)
      | _ => (literal, rest)

end Foundry.Source
