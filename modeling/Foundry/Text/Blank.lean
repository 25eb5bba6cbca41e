/-!
Blank characters and the text that is left when blanks are removed from both ends.
-/

namespace Foundry.Text

/-- Code points that count as blank: the controls that separate, the spaces and the line and
paragraph separators. -/
def blankPoints : List Nat :=
  [9, 10, 11, 12, 13, 28, 29, 30, 31, 32, 133, 160, 5760, 8192, 8193, 8194, 8195, 8196, 8197, 8198,
   8199, 8200, 8201, 8202, 8232, 8233, 8239, 8287, 12288]

def isBlank (c : Char) : Bool :=
  blankPoints.contains c.toNat

/-- Blanks removed from both ends of a list of characters. -/
def stripList (cs : List Char) : List Char :=
  ((cs.dropWhile isBlank).reverse.dropWhile isBlank).reverse

/-- Blanks removed from both ends. -/
def strip (s : String) : String :=
  String.ofList (stripList s.toList)

end Foundry.Text
