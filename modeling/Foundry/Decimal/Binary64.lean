/-!
Binary floating point numbers of 64 bits, kept exactly as a signed mantissa times a power of two,
and the number nearest to a decimal.
-/

namespace Foundry.Decimal

/-- A number of 53 significant bits: `mantissa * 2 ^ exponent` with a sign. -/
inductive Binary64
  | nan
  | infinite (negative : Bool)
  | finite (negative : Bool) (mantissa : Nat) (exponent : Int)
deriving DecidableEq, Repr

namespace Binary64

def least : Int := -1074

/-- The quotient rounded to the nearest natural number, a half to the even one. -/
def roundDiv (num den : Nat) : Nat :=
  let q := num / den
  let r := num % den
  if 2 * r < den then q
  else if den < 2 * r then q + 1
  else if q % 2 = 0 then q else q + 1

/-- Position of the leading bit of `num / den` up to one place. -/
def leading (num den : Nat) : Int :=
  (Nat.log2 num : Int) - (Nat.log2 den : Int)

/-- The scale at which a ratio has 53 bits, or the least scale. -/
def scaleOf (num den : Nat) : Int :=
  let e := leading num den - 53
  -- The ratio lies between `2 ^ (e + 52)` and `2 ^ (e + 54)`.
  let big : Bool :=
    if 0 ≤ e + 53 then decide (Nat.pow 2 (e + 53).toNat * den ≤ num)
    else decide (den ≤ num * Nat.pow 2 (-(e + 53)).toNat)
  max least (if big then e + 1 else e)

/-- The nearest number to the positive ratio `num / den`. -/
def ofRatio (negative : Bool) (num den : Nat) : Binary64 :=
  if num = 0 then .finite negative 0 0
  else
    let e := scaleOf num den
    let m :=
      if 0 ≤ e then roundDiv num (den * Nat.pow 2 e.toNat)
      else roundDiv (num * Nat.pow 2 (-e).toNat) den
    let (m, e) := if m = Nat.pow 2 53 then (Nat.pow 2 52, e + 1) else (m, e)
    if m = 0 then .finite negative 0 0
    else if e > 971 then .infinite negative
    else .finite negative m e

def digitCount (n : Nat) : Nat :=
  (Nat.toDigits 10 n).length

/-- The nearest number to `digits * 10 ^ exponent`. -/
def ofDecimal (negative : Bool) (digits : Nat) (exponent : Int) : Binary64 :=
  if digits = 0 then .finite negative 0 0
  else
    let magnitude := exponent + digitCount digits
    if magnitude > 400 then .infinite negative
    else if magnitude < -400 then .finite negative 0 0
    else if 0 ≤ exponent then ofRatio negative (digits * Nat.pow 10 exponent.toNat) 1
    else ofRatio negative digits (Nat.pow 10 (-exponent).toNat)

/-- Exact value as a ratio with a positive denominator, when finite. -/
def ratio? : Binary64 → Option (Int × Nat)
  | .nan => none
  | .infinite _ => none
  | .finite negative m e =>
    let sign : Int := if negative then -1 else 1
    some (if 0 ≤ e then (sign * (m * Nat.pow 2 e.toNat : Nat), 1)
      else (sign * m, Nat.pow 2 (-e).toNat))

/-- The integer a number is equal to. -/
def toInt? (x : Binary64) : Option Int :=
  match x.ratio? with
  | some (n, d) => if n % d = 0 then some (n / d) else none
  | none => none

/-- Equality of values: zeros are equal whatever their sign, and nothing equals a NaN. -/
def same (x y : Binary64) : Bool :=
  match x, y with
  | .infinite a, .infinite b => a == b
  | .finite .., .finite .. =>
    match x.ratio?, y.ratio? with
    | some (a, b), some (c, d) => a * d == c * b
    | _, _ => false
  | _, _ => false

end Binary64

end Foundry.Decimal
