import Foundry.Text.Blank
import Foundry.Text.Identifier
import Foundry.Text.Segments

/-!
Dotted names: segments that are plain words and no keywords, joined by dots.
-/

namespace Foundry.Name

open Foundry.Text

/-- A plain word: a letter or an underscore, then letters, digits and underscores. -/
def isWord : List Char → Bool
  | [] => false
  | c :: cs => isWordStart c && cs.all isWordPart

/-- A plain word that may be followed by one line end. -/
def isSegmentList (cs : List Char) : Bool :=
  isWord cs || (cs.getLast? == some '\n' && isWord cs.dropLast)

/-- A segment of a dotted name. -/
def isSegment (s : String) : Bool :=
  isSegmentList s.toList && !isKeyword s

/-- Every segment between the dots is a word and no keyword. -/
def isDotted (s : String) : Bool :=
  (segments s).all isSegment

/-- No segment is empty or starts with an underscore. -/
def isPublic (s : String) : Bool :=
  (segments s).all fun p => match p.toList with
    | [] => false
    | c :: _ => c != '_'

/-- The segment after the last dot. -/
def simple (s : String) : String :=
  lastSegment s

end Foundry.Name
