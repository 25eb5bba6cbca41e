import Foundry.FileTree
import Foundry.Text.Segments

/-!
Patterns for paths: a star for any characters, a question mark for one, and a set of characters in
square brackets. A name that starts with a dot is matched by a pattern that does so too.
-/

namespace Foundry.Discovery

open Foundry.Text

/-- A range of characters; a single one is a range of its own. -/
abbrev CharRange := Char × Char

/-- A piece of a pattern. -/
inductive Glyph
  | exact (c : Char)
  | one
  | any
  | oneOf (negated : Bool) (ranges : List CharRange)
deriving DecidableEq, Repr

/-- The ranges within square brackets. -/
def rangesOf : List Char → List CharRange
  | a :: '-' :: b :: cs => (a, b) :: rangesOf cs
  | a :: cs => (a, a) :: rangesOf cs
  | [] => []

/-- What stands between an opening bracket and its closing one, and what follows. The first
character within closes nothing. -/
def bracketed (cs : List Char) : Option (List Char × List Char) :=
  let start := match cs with
    | '!' :: ']' :: _ => 2
    | '!' :: _ => 1
    | ']' :: _ => 1
    | _ => 0
  let rest := cs.drop start
  let inner := rest.takeWhile (· != ']')
  match rest.drop inner.length with
  | _ :: after => some (cs.take start ++ inner, after)
  | [] => none

/-- The glyphs of a pattern; `fuel` bounds their number. -/
def glyphs : Nat → List Char → List Glyph
  | 0, _ => []
  | _ + 1, [] => []
  | fuel + 1, c :: cs =>
    if c = '*' then .any :: glyphs fuel cs
    else if c = '?' then .one :: glyphs fuel cs
    else if c = '[' then
      match bracketed cs with
      | none => .exact c :: glyphs fuel cs
      | some ('!' :: inner, after) => .oneOf true (rangesOf inner) :: glyphs fuel after
      | some (inner, after) => .oneOf false (rangesOf inner) :: glyphs fuel after
    else .exact c :: glyphs fuel cs

def Glyph.accepts (c : Char) : Glyph → Bool
  | .exact d => c == d
  | .one => true
  | .any => true
  | .oneOf negated ranges => (ranges.any fun r => r.1 ≤ c && c ≤ r.2) != negated

/-- Every way to leave off after a star. -/
def suffixes : List Char → List (List Char)
  | [] => [[]]
  | c :: cs => (c :: cs) :: suffixes cs

def matchGlyphs : List Glyph → List Char → Bool
  | [], cs => cs.isEmpty
  | .any :: gs, cs => (suffixes cs).any (matchGlyphs gs)
  | g :: gs, c :: cs => g.accepts c && matchGlyphs gs cs
  | _ :: _, [] => false

/-- A pattern has a character with a meaning of its own. -/
def isPattern (s : String) : Bool :=
  s.toList.any fun c => c == '*' || c == '?' || c == '['

/-- A name fits a pattern. -/
def fits (pattern name : String) : Bool :=
  (startsWith pattern "." || !startsWith name ".") &&
    matchGlyphs (glyphs (pattern.length + 1) pattern.toList) name.toList

/-- The names that a part of a pattern stands for below a directory. -/
def expandPart (t : FileTree) (isLast : Bool) (place : List String) (part : String) :
    List (List String) :=
  if isPattern part then
    ((t.children place).filter (fits part)).map fun n => place ++ [n]
  else if part == "" then if isLast && t.at? place == some none then [place] else []
  else if (t.at? (place ++ [part])).isSome then [place ++ [part]] else []

/-- The places below a place that the parts of a pattern stand for. -/
def expandParts (t : FileTree) : List String → List String → List (List String)
  | place, [] => [place]
  | place, part :: rest =>
    (expandPart t rest.isEmpty place part).flatMap fun p => expandParts t p rest

/-- The parts of a pattern; blank ones in the middle do not count. -/
def patternParts (s : String) : List String :=
  let parts := split '/' s
  (parts.dropLast.filter (· != "")) ++ (parts.getLast?).toList

/-- The paths below a directory that fit a pattern, in order. A pattern that ends in a slash stands
for directories, which are given with the slash. A pattern that starts at the root of the file
system stands for nothing below. -/
def expand (t : FileTree) (dir : Path) (pattern : String) : List String :=
  if startsWith pattern "/" then []
  else match t.locate dir with
    | .error _ => []
    | .ok place =>
      let found := expandParts t place (patternParts pattern)
      let ending := if endsWith pattern "/" then "/" else ""
      let shown := found.map fun p => join "/" (dir.parts ++ p.drop place.length) ++ ending
      shown.mergeSort fun a b => !(b < a)

end Foundry.Discovery
