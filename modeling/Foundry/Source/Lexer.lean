import Foundry.Source.Token
import Foundry.Text.Identifier
import Foundry.Text.Printable

/-!
Scanning source text into tokens. Lines are joined inside brackets and after a backslash;
indentation is measured in two ways, with tabs of eight columns and of one, which have to agree.
-/

namespace Foundry.Source

open Foundry.Text

/-! ### Words -/

/-- Characters that can stand in a word; whether they may is decided once the word is cut. -/
def isWordLike (c : Char) : Bool :=
  isWordPart c || 128 ≤ c.toNat

def isWordLikeStart (c : Char) : Bool :=
  isWordStart c || 128 ≤ c.toNat

/-! ### Numbers -/

/-- How the scan of a number ends: with the rest of the text, or in a malformed number. -/
abbrev NumberEnd := Option (List Char × List Char)

/-- Digits accepted by `p` with single underscores between them. -/
def digitRun (p : Char → Bool) : List Char → List Char → NumberEnd
  | acc, [] => some (acc.reverse, [])
  | acc, [c] => if p c then some ((c :: acc).reverse, []) else
      if c = '_' then none else some (acc.reverse, [c])
  | acc, c :: d :: cs =>
    if p c then digitRun p (c :: acc) (d :: cs)
    else if c = '_' then if p d then digitRun p (d :: c :: acc) cs else none
    else some (acc.reverse, c :: d :: cs)

/-- Words that may follow a number without a space, as a whole. -/
def numberFollowers : List (List Char) :=
  ["and".toList, "else".toList, "for".toList, "or".toList, "not".toList]

/-- Letters that may follow a number without a space, whatever comes next. -/
def numberFollowerStarts : List (List Char) :=
  ["if".toList, "in".toList, "is".toList]

def beginsWith : List Char → List Char → Bool
  | [], _ => true
  | _ :: _, [] => false
  | p :: ps, c :: cs => p == c && beginsWith ps cs

/-- A number is not followed by a plain letter or an underscore, certain keywords apart. -/
def endsNumber (rest : List Char) : Bool :=
  match rest with
  | [] => true
  | c :: _ =>
    !isWordPart c || numberFollowers.contains (rest.takeWhile isWordLike) ||
      numberFollowerStarts.any (beginsWith · rest)

def closeNumber (text rest : List Char) : NumberEnd :=
  if endsNumber rest then some (text, rest) else none

/-- A number in a base marked by a letter; at least one digit follows the mark. -/
def basedNumber (p : Char → Bool) (mark rest : List Char) : NumberEnd :=
  let (start, cs) := match rest with
    | '_' :: cs => (mark ++ ['_'], cs)
    | cs => (mark, cs)
  match cs with
  | c :: _ =>
    if p c then
      match digitRun p [] cs with
      | some (ds, after) =>
        match after with
        | d :: _ => if d.isDigit then none else closeNumber (start ++ ds) after
        | [] => some (start ++ ds, after)
      | none => none
    else none
  | [] => none

/-- The mark of an imaginary number and the end of a number. -/
def numberTail (text rest : List Char) : NumberEnd :=
  match rest with
  | c :: cs => if c = 'j' ∨ c = 'J' then closeNumber (text ++ [c]) cs else closeNumber text rest
  | [] => some (text, rest)

/-- The exponent of a number. -/
def numberExponent (text rest : List Char) : NumberEnd :=
  match rest with
  | e :: cs =>
    if e = 'e' ∨ e = 'E' then
      let signed : Bool := match cs with
        | s :: _ => s == '+' || s == '-'
        | [] => false
      let (sign, ds) := if signed then (cs.take 1, cs.drop 1) else ([], cs)
      match ds with
      | d :: _ =>
        if d.isDigit then
          match digitRun Char.isDigit [] ds with
          | some (digits, after) => numberTail (text ++ e :: sign ++ digits) after
          | none => none
        else if signed then none
        else closeNumber text rest
      | [] => if signed then none else closeNumber text rest
    else numberTail text rest
  | [] => some (text, rest)

/-- The digits after a point, if there are any. -/
def numberFraction (text rest : List Char) : NumberEnd :=
  match rest with
  | d :: _ =>
    if d.isDigit then
      match digitRun Char.isDigit [] rest with
      | some (ds, after) => numberExponent (text ++ ds) after
      | none => none
    else numberExponent text rest
  | [] => some (text, rest)

def isOctal (c : Char) : Bool := '0' ≤ c && c ≤ '7'
def isBinary (c : Char) : Bool := c == '0' || c == '1'
def isHex (c : Char) : Bool := c.isDigit || ('a' ≤ c && c ≤ 'f') || ('A' ≤ c && c ≤ 'F')

/-- A decimal number: a whole part that has no leading zeros unless it is zero or a fraction,
an exponent or an imaginary mark follows. -/
def decimalNumber (cs : List Char) : NumberEnd :=
  match digitRun Char.isDigit [] cs with
  | none => none
  | some (ds, rest) =>
    match rest with
    | '.' :: after => numberFraction (ds ++ ['.']) after
    | c :: _ =>
      if c = 'e' ∨ c = 'E' ∨ c = 'j' ∨ c = 'J' then
        match numberExponent ds rest with
        | some (text, after) =>
          if text == ds && ds.head? == some '0' && ds.any (fun d => d != '0' && d != '_') then none
          else some (text, after)
        | none => none
      else if ds.head? == some '0' && ds.any (fun d => d != '0' && d != '_') then none
      else closeNumber ds rest
    | [] =>
      if ds.head? == some '0' && ds.any (fun d => d != '0' && d != '_') then none
      else some (ds, rest)

/-- The number at the start of a text that begins with a digit. -/
def scanNumber (cs : List Char) : NumberEnd :=
  match cs with
  | '0' :: c :: rest =>
    if c = 'x' ∨ c = 'X' then basedNumber isHex ['0', c] rest
    else if c = 'o' ∨ c = 'O' then basedNumber isOctal ['0', c] rest
    else if c = 'b' ∨ c = 'B' then basedNumber isBinary ['0', c] rest
    else decimalNumber cs
  | _ => decimalNumber cs

/-! ### String literals -/

/-- The letters that may stand in front of a quote. -/
def stringMarks : List String :=
  ["", "b", "r", "u", "f", "br", "rb", "fr", "rf"]

/-- The marks and the quote a string literal starts with. -/
def stringStart (cs : List Char) : Option (List Char × Char × List Char) :=
  let marks := (cs.take 2).takeWhile Char.isAlpha
  [marks, marks.take 1, []].findSome? fun m =>
    match cs.drop m.length with
    | q :: rest =>
      if (q = '"' ∨ q = '\'') ∧ stringMarks.contains (String.ofList (m.map Char.toLower)) then
        some (m, q, rest)
      else none
    | [] => none

/-- Characters of a string up to its closing quotes: the characters, last first, and the rest.
`run` counts the closing quotes just seen. -/
def stringBody (q : Char) (size : Nat) :
    Nat → List Char → List Char → Option (List Char × List Char)
  | _, _, [] => none
  | run, acc, c :: cs =>
    if c = q then
      if run + 1 = size then some (c :: acc, cs) else stringBody q size (run + 1) (c :: acc) cs
    else if c = '\n' ∧ size = 1 then none
    else if c = '\\' then
      match cs with
      | [] => none
      | d :: ds => stringBody q size 0 (d :: c :: acc) ds
    else stringBody q size 0 (c :: acc) cs

/-- The string literal at the start of a text after its opening quote. -/
def scanString (marks : List Char) (q : Char) (rest : List Char) :
    Option (List Char × List Char) :=
  match rest with
  | a :: b :: cs =>
    if a = q then
      if b = q then
        (stringBody q 3 0 [q, q, q] cs).map fun (acc, after) => (marks ++ acc.reverse, after)
      else some (marks ++ [q, q], b :: cs)
    else (stringBody q 1 0 [q] rest).map fun (acc, after) => (marks ++ acc.reverse, after)
  | [a] => if a = q then some (marks ++ [q, q], []) else none
  | [] => none

def countLines (cs : List Char) : Nat :=
  cs.count '\n'

/-! ### Operators -/

def threeCharOps : List String := ["**=", "//=", ">>=", "<<=", "..."]

def twoCharOps : List String :=
  ["!=", "%=", "&=", "**", "*=", "+=", "-=", "->", "//", "/=", ":=", "<<", "<=", "<>", "==", ">=",
   ">>", "@=", "^=", "|="]

/-- The longest operator a text starts with; any other character stands alone. -/
def scanOp (c : Char) (cs : List Char) : String :=
  let three := String.ofList (c :: cs.take 2)
  let two := String.ofList (c :: cs.take 1)
  if threeCharOps.contains three then three
  else if twoCharOps.contains two then two
  else String.singleton c

/-! ### Lines and indentation -/

/-- Where the scan stands: the line, the open brackets with their lines, innermost first, the
indentations in both measures, innermost first, and whether a line starts here. -/
structure ScanState where
  line : Nat
  brackets : List (Char × Nat)
  indents : List (Nat × Nat)
  lineStart : Bool
deriving Repr

namespace ScanState

def depth (s : ScanState) : Nat := s.brackets.length

def token (s : ScanState) (kind : TokenKind) (text : String) : Token :=
  ⟨kind, text, s.line, s.depth⟩

def bracketLine (s : ScanState) : Option Nat :=
  s.brackets.head?.map (·.2)

end ScanState

/-- The blanks at the start of a line: both measures of the indentation, the indentation at the
first backslash, the number of lines passed and the rest. `none` for a backslash that does not
end its line, or ends the text. -/
def measure : Nat → Nat → Option Nat → Nat → List Char →
    Except Nat (Nat × Nat × Option Nat × Nat × List Char)
  | col, alt, joined, lines, [] => .ok (col, alt, joined, lines, [])
  | col, alt, joined, lines, c :: cs =>
    if c = ' ' then measure (col + 1) (alt + 1) joined lines cs
    else if c = '\t' then measure ((col / 8 + 1) * 8) (alt + 1) joined lines cs
    else if c = '\x0c' then measure 0 0 joined lines cs
    else if c = '\\' then
      match cs with
      | '\n' :: d :: ds =>
        let joined := match joined with
          | some (k + 1) => some (k + 1)
          | _ => some col
        measure col alt joined (lines + 1) (d :: ds)
      | '\n' :: [] => .error lines
      | _ => .error lines
    else .ok (col, alt, joined, lines, c :: cs)

/-- Indentations left behind when a line starts further to the left. -/
def leave (col : Nat) : List (Nat × Nat) → Nat × List (Nat × Nat)
  | [] => (0, [])
  | (c, a) :: rest =>
    if col < c then
      let (n, left) := leave col rest
      (n + 1, left)
    else (0, (c, a) :: rest)

/-- Whether a line in this position opens a block, closes some or continues; `none` when its
indentation does not fit. -/
def adjust (col alt : Nat) (indents : List (Nat × Nat)) :
    Option (List TokenKind × List (Nat × Nat)) :=
  match indents with
  | [] => none
  | (c, a) :: _ =>
    if col = c then if alt = a then some ([], indents) else none
    else if c < col then
      if indents.length ≥ 100 ∨ alt ≤ a then none else some ([.indent], (col, alt) :: indents)
    else
      let (n, left) := leave col indents
      match left with
      | (c', a') :: _ =>
        if col = c' ∧ alt = a' then some (List.replicate n .dedent, left) else none
      | [] => none

def closes (opening closing : Char) : Bool :=
  (opening == '(' && closing == ')') || (opening == '[' && closing == ']') ||
    (opening == '\x7b' && closing == '\x7d')

/-- Every character of a word may stand where it stands. -/
def isWord (w : List Char) : Bool :=
  match w with
  | [] => false
  | c :: cs => isIdentifierStart c && cs.all isIdentifierContinue

/-- The next tokens after the start of a line has been dealt with, or the reason to stop. -/
inductive Step
  | next (state : ScanState) (tokens : List Token) (rest : List Char)
  | stop (tokens : List Token) (reason : ScanEnd)

/-- The end of the text. -/
def finishScan (s : ScanState) : Step :=
  match s.brackets with
  | (_, l) :: _ => .stop [] (.unclosed s.line l)
  | [] => .stop [s.token .finish ""] .finished

/-- A bracket that closes the innermost open one. -/
def closeBracket (s : ScanState) (c : Char) (cs : List Char) : Step :=
  match s.brackets with
  | (o, _) :: outer =>
    if closes o c then
      let s := { s with brackets := outer }
      .next s [s.token .op (String.singleton c)] cs
    else .stop [] (.broken s.line)
  | [] => .stop [] (.broken s.line)

/-- A bracket that opens. -/
def openBracket (s : ScanState) (c : Char) (cs : List Char) : Step :=
  if s.depth ≥ 200 then .stop [] (.broken s.line)
  else
    let s := { s with brackets := (c, s.line) :: s.brackets }
    .next s [s.token .op (String.singleton c)] cs

/-- A token that neither starts a line nor ends one. -/
def scanToken (s : ScanState) (c : Char) (cs : List Char) : Step :=
  match stringStart (c :: cs) with
  | some (marks, q, rest) =>
    match scanString marks q rest with
    | some (text, after) =>
      .next { s with line := s.line + countLines text } [s.token .string (String.ofList text)] after
    | none => .stop [] (.broken s.line)
  | none =>
    if isWordLikeStart c then
      let w := (c :: cs).takeWhile isWordLike
      if isWord w then
        let word := String.ofList w
        let kind := if isKeyword word then TokenKind.keyword else .name
        .next s [s.token kind word] ((c :: cs).dropWhile isWordLike)
      else .stop [] (.broken s.line)
    else if c.isDigit || (c == '.' && (cs.head?.map Char.isDigit).getD false) then
      let number := if c = '.' then numberFraction ['.'] cs else scanNumber (c :: cs)
      match number with
      | some (text, after) => .next s [s.token .number (String.ofList text)] after
      | none => .stop [] (.broken s.line)
    else if c = '(' ∨ c = '[' ∨ c = '\x7b' then openBracket s c cs
    else if c = ')' ∨ c = ']' ∨ c = '\x7d' then closeBracket s c cs
    else if !isPrintable c then .stop [] (.broken s.line)
    else
      let op := scanOp c cs
      .next s [s.token .op op] ((c :: cs).drop op.length)

def isSpacing (c : Char) : Bool :=
  c == ' ' || c == '\t' || c == '\x0c'

/-- The next token within a line. -/
def scanInner (s : ScanState) (cs : List Char) : Step :=
  match cs.dropWhile isSpacing with
  | [] => finishScan s
  | '#' :: rest => .next s [] (rest.dropWhile (· != '\n'))
  | '\n' :: rest =>
    let s' := { s with line := s.line + 1, lineStart := true }
    if s.depth = 0 then .next s' [s.token .newline ""] rest else .next s' [] rest
  | '\\' :: '\n' :: [] =>
    match s.bracketLine with
    | some l => .stop [] (.unclosed s.line l)
    | none => .stop [] (.misplaced s.line none)
  | '\\' :: '\n' :: rest => .next { s with line := s.line + 1 } [] rest
  | '\\' :: _ => .stop [] (.misplaced s.line s.bracketLine)
  | c :: rest => scanToken s c rest

/-- The start of a line: its indentation, unless it is empty or inside brackets. -/
def scanLineStart (s : ScanState) (cs : List Char) : Step :=
  match measure 0 0 none 0 cs with
  | .error lines => .stop [] (.misplaced (s.line + lines) s.bracketLine)
  | .ok (col, alt, joined, lines, rest) =>
    let s := { s with line := s.line + lines, lineStart := false }
    match rest with
    | '#' :: after =>
      match after.dropWhile (· != '\n') with
      | '\n' :: below => .next { s with line := s.line + 1, lineStart := true } [] below
      | other => .next s [] other
    | '\n' :: below => .next { s with line := s.line + 1, lineStart := true } [] below
    | _ =>
      let s := if rest.isEmpty then { s with line := s.line - 1 } else s
      if s.depth ≠ 0 then .next s [] rest
      else
        let (col, alt) := match joined with
          | some (k + 1) => (k + 1, k + 1)
          | _ => (col, alt)
        match adjust col alt s.indents with
        | some (kinds, indents) =>
          .next { s with indents := indents } (kinds.map fun k => s.token k "") rest
        | none => .stop [] (.misplaced s.line none)

/-- Tokens from a state on; `fuel` bounds the number of steps. -/
def scanFrom : Nat → ScanState → List Char → Scan
  | 0, s, _ => ⟨[], .broken s.line⟩
  | fuel + 1, s, cs =>
    match if s.lineStart then scanLineStart s cs else scanInner s cs with
    | .stop tokens reason => ⟨tokens, reason⟩
    | .next s tokens rest =>
      let scan := scanFrom fuel s rest
      ⟨tokens ++ scan.tokens, scan.stop⟩

/-- A text ends with the end of a line. -/
def closeLine (cs : List Char) : List Char :=
  match cs.getLast? with
  | some '\n' => cs
  | _ => cs ++ ['\n']

/-- The tokens of a text whose first line has the number `line`. -/
def scanAt (line : Nat) (cs : List Char) : Scan :=
  let cs := closeLine cs
  scanFrom (2 * cs.length + 4) ⟨line, [], [(0, 0)], true⟩ cs

def scan (cs : List Char) : Scan :=
  scanAt 1 cs

end Foundry.Source
