import EnvAudit.Text.Basic
import EnvAudit.Text.Digit

/-! Double precision numbers as exact values. A decimal is read as the nearest double, ties going to an even
mantissa; all arithmetic is on natural numbers. -/
namespace EnvAudit.Decimal

/-- A double precision number. A finite one is `mantissa * 2 ^ exponent`, where the mantissa has at most 53 bits
and fewer than 53 only at the least exponent. -/
inductive Binary64
  | finite (negative : Bool) (mantissa : Nat) (exponent : Int)
  | infinity (negative : Bool)
  | notANumber
deriving Repr, DecidableEq, Inhabited

def leastExponent : Int := -1074

def greatestExponent : Int := 971

/-- The quotient rounded to the nearest integer, ties to even. -/
def roundDiv (num den : Nat) : Nat :=
  let whole := num / den
  let rest := num % den
  if 2 * rest < den then whole else if den < 2 * rest then whole + 1 else whole + whole % 2

def overPowerOfTwo (num den : Nat) (exponent : Int) : Nat × Nat :=
  match exponent with
  | .ofNat n => (num, den * Nat.pow 2 n)
  | .negSucc n => (num * Nat.pow 2 (n + 1), den)

namespace Binary64

def ofFraction (negative : Bool) (num den : Nat) : Binary64 :=
  let guess := max leastExponent ((num.log2 : Int) - (den.log2 : Int) - 52)
  let whole := fun (q : Int) => let (n, d) := overPowerOfTwo num den q; n / d
  let exponent :=
    if Nat.pow 2 53 ≤ whole guess then guess + 1
    else if whole guess < Nat.pow 2 52 && leastExponent < guess then guess - 1 else guess
  let (n, d) := overPowerOfTwo num den exponent
  let rounded := roundDiv n d
  let (mantissa, exponent) := if rounded == Nat.pow 2 53 then (Nat.pow 2 52, exponent + 1) else (rounded, exponent)
  if greatestExponent < exponent then .infinity negative else .finite negative mantissa exponent

/-- The double nearest to `digits * 10 ^ power`. Magnitudes far outside the range of doubles are decided by the
number of digits alone. -/
def ofDecimal (negative : Bool) (digits : Nat) (power : Int) : Binary64 :=
  if digits == 0 then .finite negative 0 leastExponent
  else
    let order : Int := ((Nat.toDigits 10 digits).length : Int) + power
    if 400 < order then .infinity negative
    else if order < -400 then .finite negative 0 leastExponent
    else
      match power with
      | .ofNat n => ofFraction negative (digits * Nat.pow 10 n) 1
      | .negSucc n => ofFraction negative digits (Nat.pow 10 (n + 1))

def truncate : Binary64 → Int
  | .finite negative mantissa exponent =>
    let (num, den) := overPowerOfTwo mantissa 1 (-exponent)
    let whole : Int := (num / den : Nat)
    if negative then -whole else whole
  | _ => 0

def floor : Binary64 → Int
  | .finite negative mantissa exponent =>
    let (num, den) := overPowerOfTwo mantissa 1 (-exponent)
    if negative then -(((num + den - 1) / den : Nat) : Int) else ((num / den : Nat) : Int)
  | _ => 0

end Binary64
/-! Doubles with a fixed number of decimal places. A half goes to the even neighbor. -/

def fixedDigits (places mantissa : Nat) (exponent : Int) : List Char :=
  let (num, den) := overPowerOfTwo (mantissa * Nat.pow 10 places) 1 (-exponent)
  let digits := Text.padZeros (places + 1) (Text.decimal (roundDiv num den))
  let whole := digits.take (digits.length - places)
  if places == 0 then whole else whole ++ '.' :: Text.takeEnd places digits

end EnvAudit.Decimal
