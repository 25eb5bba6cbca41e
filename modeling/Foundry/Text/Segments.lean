/-!
Texts cut at a separating character, and searches in lists of characters.
-/

namespace Foundry.Text

/-- The pieces between the occurrences of a separator; there is always at least one. -/
def splitList (sep : Char) : List Char → List (List Char)
  | [] => [[]]
  | c :: cs =>
    if c = sep then [] :: splitList sep cs
    else match splitList sep cs with
      | [] => [[c]]
      | p :: ps => (c :: p) :: ps

def split (sep : Char) (s : String) : List String :=
  (splitList sep s.toList).map String.ofList

/-- The segments of a dotted text. -/
def segments (s : String) : List String :=
  split '.' s

/-- Pieces joined by a separator. -/
def join (sep : String) : List String → String
  | [] => ""
  | [p] => p
  | p :: ps => p ++ sep ++ join sep ps

/-- Segments joined by dots. -/
def dotted (ps : List String) : String :=
  join "." ps

/-- The segment before the first dot. -/
def firstSegment (s : String) : String :=
  (segments s).headD ""

/-- What follows the first dot. -/
def afterFirstSegment (s : String) : String :=
  dotted (segments s).tail

/-- The segment after the last dot. -/
def lastSegment (s : String) : String :=
  (segments s).getLastD ""

/-- What precedes the last dot. -/
def beforeLastSegment (s : String) : String :=
  dotted (segments s).dropLast

def startsWithList : List Char → List Char → Bool
  | [], _ => true
  | _ :: _, [] => false
  | p :: ps, c :: cs => p == c && startsWithList ps cs

/-- A text begins with another one. -/
def startsWith (s start : String) : Bool :=
  startsWithList start.toList s.toList

/-- A text ends with another one. -/
def endsWith (s ending : String) : Bool :=
  startsWithList ending.toList.reverse s.toList.reverse

/-- A list occurs in another one without gaps. -/
def occursIn (needle : List Char) : List Char → Bool
  | [] => needle.isEmpty
  | c :: cs => startsWithList needle (c :: cs) || occursIn needle cs

/-- A text occurs in another one. -/
def contains (s needle : String) : Bool :=
  occursIn needle.toList s.toList

def dropText (s : String) (n : Nat) : String :=
  String.ofList (s.toList.drop n)

def takeText (s : String) (n : Nat) : String :=
  String.ofList (s.toList.take n)

/-- Every occurrence of one text replaced by another; `fuel` bounds the characters examined. -/
def replaceList (needle image : List Char) : Nat → List Char → List Char
  | 0, cs => cs
  | _ + 1, [] => []
  | fuel + 1, c :: cs =>
    if !needle.isEmpty && startsWithList needle (c :: cs) then
      image ++ replaceList needle image fuel ((c :: cs).drop needle.length)
    else c :: replaceList needle image fuel cs

def replace (s needle image : String) : String :=
  String.ofList (replaceList needle.toList image.toList (s.toList.length + 1) s.toList)

end Foundry.Text
