import Foundry.Text.Case

/-!
Snake case: an underscore in front of each word of a name in camel case, and no capitals.
-/

namespace Foundry.Name

open Foundry.Text

/-- The small letters at the start. -/
def takeSmall (cs : List Char) : List Char :=
  cs.takeWhile Char.isLower

/-- An underscore in front of a capital that small letters follow, unless it stands first or
after a line end. The capital and its small letters are passed over together. -/
def splitWords : Nat → List Char → List Char
  | 0, cs => cs
  | _ + 1, [] => []
  | fuel + 1, c :: cs =>
    match cs with
    | u :: v :: rest =>
      if c ≠ '\n' ∧ u.isUpper ∧ v.isLower then
        let word := takeSmall (v :: rest)
        c :: '_' :: u :: word ++ splitWords fuel ((v :: rest).drop word.length)
      else c :: splitWords fuel cs
    | _ => c :: splitWords fuel cs

/-- An underscore between a small letter or digit and a capital. Matches do not overlap. -/
def splitCapitals : List Char → List Char
  | [] => []
  | [c] => [c]
  | c :: u :: rest =>
    if (c.isLower || c.isDigit) && u.isUpper then c :: '_' :: u :: splitCapitals rest
    else c :: splitCapitals (u :: rest)

/-- The snake case of a name. -/
def snake (s : String) : String :=
  let cs := s.toList
  lower (String.ofList (splitCapitals (splitWords (cs.length + 1) cs)))

end Foundry.Name
