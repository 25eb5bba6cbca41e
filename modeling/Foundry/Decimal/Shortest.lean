import Foundry.Decimal.Binary64

/-!
The shortest decimal that reads back as a given floating point number, and its text.
-/

namespace Foundry.Decimal

/-- `10 ^ k` as a ratio. -/
def powerOfTen (k : Int) : Nat × Nat :=
  if 0 ≤ k then (Nat.pow 10 k.toNat, 1) else (1, Nat.pow 10 (-k).toNat)

/-- The decimal `digits * 10 ^ scale` reads back as the number. -/
def readsBack (m : Nat) (e : Int) (digits : Nat) (scale : Int) : Bool :=
  Binary64.ofDecimal false digits scale == .finite false m e

/-- Exponent of the leading decimal digit of the ratio `num / den`. -/
def leadingPlace (num den : Nat) : Int :=
  let guess := (Binary64.digitCount num : Int) - (Binary64.digitCount den : Int)
  let (a, b) := powerOfTen guess
  if a * den ≤ num * b then guess else guess - 1

/-- The nearest decimal on the grid of `count` digits that reads back. -/
def onGrid (m : Nat) (e : Int) (num den : Nat) (place : Int) (count : Nat) :
    Option (Nat × Int) :=
  let scale := place - (count - 1 : Nat)
  let (a, b) := powerOfTen scale
  let low := num * b / (den * a)
  let near := Binary64.roundDiv (num * b) (den * a)
  let far := if near = low then low + 1 else low
  [near, far].findSome? fun d => if readsBack m e d scale then some (d, scale) else none

/-- The first grid of one to seventeen digits on which a neighbour of the number reads back. -/
def shortest (m : Nat) (e : Int) : Nat × Int :=
  let (num, den) :=
    if 0 ≤ e then (m * Nat.pow 2 e.toNat, 1) else (m, Nat.pow 2 (-e).toNat)
  let place := leadingPlace num den
  ((List.range 17).findSome? fun k => onGrid m e num den place (k + 1)).getD (m, 0)

/-- Trailing zeros moved from the digits into the scale. -/
def trimZeros : Nat → Nat → Int → Nat × Int
  | 0, d, s => (d, s)
  | fuel + 1, d, s => if d ≠ 0 ∧ d % 10 = 0 then trimZeros fuel (d / 10) (s + 1) else (d, s)

def zeros (n : Nat) : List Char :=
  List.replicate n '0'

/-- The exponent of scientific notation has a sign and at least two digits. -/
def exponentText (k : Int) : List Char :=
  let ds := Nat.toDigits 10 k.natAbs
  'e' :: (if k < 0 then '-' else '+') :: (if ds.length < 2 then '0' :: ds else ds)

/-- Digits in positional notation when the point lies within the first seventeen places or at
most four places before them, otherwise in scientific notation. -/
def layout (digits : Nat) (scale : Int) (pointZero : Bool) : List Char :=
  let ds := Nat.toDigits 10 digits
  let point : Int := ds.length + scale
  if -4 < point ∧ point ≤ 16 then
    if point ≤ 0 then '0' :: '.' :: zeros (-point).toNat ++ ds
    else if point.toNat ≥ ds.length then
      ds ++ zeros (point.toNat - ds.length) ++ (if pointZero then ['.', '0'] else [])
    else ds.take point.toNat ++ '.' :: ds.drop point.toNat
  else
    match ds with
    | [d] => d :: exponentText (point - 1)
    | d :: rest => d :: '.' :: rest ++ exponentText (point - 1)
    | [] => []

namespace Binary64

/-- The text of a number; `pointZero` keeps `.0` on whole numbers. -/
def textWith (pointZero : Bool) : Binary64 → String
  | .nan => "nan"
  | .infinite negative => if negative then "-inf" else "inf"
  | .finite negative m e =>
    let body :=
      if m = 0 then (if pointZero then "0.0" else "0").toList
      else
        let (d, s) := shortest m e
        let (d, s) := trimZeros 20 d s
        layout d s pointZero
    String.ofList (if negative then '-' :: body else body)

/-- The text of a number, by which a whole number is told from an integer. -/
def text (x : Binary64) : String :=
  x.textWith true

end Binary64

end Foundry.Decimal
