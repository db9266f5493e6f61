import EnvAudit.Text.Basic
import EnvAudit.Decimal.Binary64

/-! The shortest decimal text of a double: the fewest digits that read back as the same double, and of those the
nearest to its value. -/
namespace EnvAudit.Decimal

structure Neighborhood where
  value : Nat
  low : Nat
  high : Nat
  den : Nat
  closed : Bool

/-- The reals that round to `mantissa * 2 ^ exponent`. The gap below a power of two is half the gap above it, save
at the least exponent; the ends belong to the interval when the mantissa is even. -/
def neighborhood (mantissa : Nat) (exponent : Int) : Neighborhood :=
  let narrow := mantissa == Nat.pow 2 52 && leastExponent < exponent
  let value := 4 * mantissa
  let low := value - (if narrow then 1 else 2)
  let high := value + 2
  let closed := mantissa % 2 == 0
  match exponent with
  | .ofNat n => ⟨value * Nat.pow 2 n, low * Nat.pow 2 n, high * Nat.pow 2 n, 4, closed⟩
  | .negSucc n => ⟨value, low, high, 4 * Nat.pow 2 (n + 1), closed⟩

namespace Neighborhood

def admits (near : Neighborhood) (digits : Nat) (power : Int) : Bool :=
  let (d, scale) := match power with
    | .ofNat n => (digits * Nat.pow 10 n * near.den, 1)
    | .negSucc n => (digits * near.den, Nat.pow 10 (n + 1))
  if near.closed then near.low * scale ≤ d && d ≤ near.high * scale else near.low * scale < d && d < near.high * scale

def upperHalf (near : Neighborhood) (digits : Nat) (power : Int) : Ordering :=
  let (d, scale) := match power with
    | .ofNat n => ((2 * digits + 1) * Nat.pow 10 n * near.den, 1)
    | .negSucc n => ((2 * digits + 1) * near.den, Nat.pow 10 (n + 1))
  compare (2 * near.value * scale) d

def below (near : Neighborhood) (power : Int) : Nat :=
  match power with
  | .ofNat n => near.value / (near.den * Nat.pow 10 n)
  | .negSucc n => near.value * Nat.pow 10 (n + 1) / near.den

def onGrid (near : Neighborhood) (power : Int) : Option (Nat × Int) :=
  let d := near.below power
  match near.admits d power, near.admits (d + 1) power with
  | false, false => none
  | true, false => some (d, power)
  | false, true => some (d + 1, power)
  | true, true =>
    match near.upperHalf d power with
    | .lt => some (d, power)
    | .gt => some (d + 1, power)
    | .eq => some (if d % 2 == 0 then d else d + 1, power)

def search (near : Neighborhood) (power : Int) : Nat → Nat × Int
  | 0 => (near.below power, power)
  | steps + 1 =>
    match near.onGrid power with
    | some found => found
    | none => near.search (power - 1) steps

end Neighborhood

def leadingPower (near : Neighborhood) : Int :=
  let whole := near.value / near.den
  if 0 < whole then ((Nat.toDigits 10 whole).length : Int) - 1
  else
    let steps := (List.range 400).find? fun n => near.den ≤ near.value * Nat.pow 10 (n + 1)
    Int.negSucc (steps.getD 400)

/-- The digits of the shortest decimal without trailing zeros, and the place of its point: the decimal is
`0.d₁d₂… * 10 ^ point`. -/
def shortestDigits (mantissa : Nat) (exponent : Int) : List Char × Int :=
  if mantissa == 0 then (['0'], 1)
  else
    let near := neighborhood mantissa exponent
    let (digits, power) := near.search (leadingPower near + 1) 20
    let text := Nat.toDigits 10 digits
    let point := (text.length : Int) + power
    let short := Text.dropEndWhile (· == '0') text
    (if short.isEmpty then ['0'] else short, point)

/-- Numbers are written positionally when the point falls within four places before and sixteen places after the
first digit, with at least one digit on both sides; otherwise with an exponent of at least two digits. -/
def writtenDigits (digits : List Char) (point : Int) : List Char :=
  if -4 < point && point ≤ 16 then
    match point with
    | .ofNat 0 => '0' :: '.' :: digits
    | .ofNat n =>
      if digits.length ≤ n then digits ++ List.replicate (n - digits.length) '0' ++ ['.', '0']
      else digits.take n ++ '.' :: digits.drop n
    | .negSucc n => '0' :: '.' :: List.replicate (n + 1) '0' ++ digits
  else
    let first := digits.take 1
    let others := digits.drop 1
    let power := point - 1
    let sign := if power < 0 then '-' else '+'
    first ++ (if others.isEmpty then [] else '.' :: others) ++ 'e' :: sign ::
      Text.padZeros 2 (Nat.toDigits 10 power.natAbs)

namespace Binary64

def write (infinityName notANumberName : String) : Binary64 → String
  | .finite negative mantissa exponent =>
    let (digits, point) := shortestDigits mantissa exponent
    String.ofList ((if negative then ['-'] else []) ++ writtenDigits digits point)
  | .infinity negative => (if negative then "-" else "") ++ infinityName
  | .notANumber => notANumberName

end Binary64
end EnvAudit.Decimal
