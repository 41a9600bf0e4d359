import CamelSpell.Number.Binary64

/-!
# Shortest decimal numerals

A number is written with the fewest decimal digits that read back as the same number, and among
the numerals of that length with the nearest one.  A numeral of `n` digits is a point of a decimal
grid, and if any point of the grid reads back, then one of the two neighbours of the number does.
-/

namespace CamelSpell
namespace Number

structure Numeral where
  digits : List Char
  point : Int
deriving DecidableEq, Repr

structure Interval where
  low : Nat
  value : Nat
  high : Nat
  denominator : Nat
  closed : Bool

/-- The interval of a positive mantissa and an exponent.  Below a power of two the numbers are twice
as dense, so the lower half of the interval is shorter there. -/
def interval (mantissa : Nat) (exponent : Int) : Interval :=
  let below := if mantissa = power 2 52 ∧ exponent ≠ -1074 then 1 else 2
  let scale := power 2 exponent
  { low := (4 * mantissa - below) * scale
    value := 4 * mantissa * scale
    high := (4 * mantissa + 2) * scale
    denominator := 4 * power 2 (-exponent)
    closed := mantissa % 2 = 0 }

namespace Interval

def holds (i : Interval) (fraction : Nat) : Bool :=
  if i.closed then i.low ≤ fraction && fraction ≤ i.high
  else i.low < fraction && fraction < i.high

def scale (i : Interval) (factor : Nat) : Interval :=
  { i with low := i.low * factor, value := i.value * factor, high := i.high * factor }

/-- The point of the grid `unit, 2 * unit, …` that reads back, if there is one: the nearer of the
two neighbours, and on a tie the even one. -/
def onGrid (i : Interval) (unit : Nat) : Option Nat :=
  let below := i.value / unit
  let above := below + 1
  let down := i.holds (below * unit)
  let up := i.holds (above * unit)
  let toBelow := i.value - below * unit
  let toAbove := above * unit - i.value
  if down && up then
    some (if toBelow < toAbove then below
      else if toAbove < toBelow then above
      else if below % 2 = 0 then below else above)
  else if down then some below
  else if up then some above
  else none

end Interval

def pointFrom (numerator denominator : Nat) : Nat -> Int -> Int
  | 0, start => start
  | fuel + 1, start =>
      let reached :=
        if 0 ≤ start then numerator < power 10 start * denominator
        else numerator * power 10 (-start) < denominator
      if reached then start else pointFrom numerator denominator fuel (start + 1)

def pointOf (numerator denominator : Nat) : Int :=
  let bits : Int := (numerator.log2 : Int) - (denominator.log2 : Int)
  pointFrom numerator denominator 8 (bits * 30103 / 100000 - 2)

def search (i : Interval) (point : Int) : Nat -> Nat -> Nat × Int
  | 0, _ => (0, 0)
  | fuel + 1, count =>
      let place := point - count
      let (i', unit) :=
        if 0 ≤ place then (i, power 10 place * i.denominator)
        else (i.scale (power 10 (-place)), i.denominator)
      match i'.onGrid unit with
      | some digits => (digits, place)
      | none => search i point fuel (count + 1)

def shortest (mantissa : Nat) (exponent : Int) : Numeral :=
  let i := interval mantissa exponent
  let (digits, place) := search i (pointOf i.value i.denominator) 17 1
  let written := Nat.toDigits 10 digits
  { digits := ((written.reverse.dropWhile (· = '0')).reverse)
    point := place + written.length }

/-!
## Writing a numeral

Numerals are positional while the decimal point lies within 21 digits, or the number is below one
with at most six zeros after the point; outside that range they carry an exponent.
-/

def Numeral.write (n : Numeral) : List Char :=
  let count : Int := n.digits.length
  if count ≤ n.point ∧ n.point ≤ 21 then
    n.digits ++ List.replicate (n.point - count).toNat '0'
  else if 0 < n.point ∧ n.point ≤ 21 then
    n.digits.take n.point.toNat ++ '.' :: n.digits.drop n.point.toNat
  else if -6 < n.point ∧ n.point ≤ 0 then
    '0' :: '.' :: List.replicate (-n.point).toNat '0' ++ n.digits
  else
    let exponent := n.point - 1
    let sign := if exponent < 0 then '-' else '+'
    let tail := 'e' :: sign :: Nat.toDigits 10 exponent.natAbs
    match n.digits with
    | [] => tail
    | [d] => d :: tail
    | d :: more => d :: '.' :: more ++ tail

def write? : Number -> Option String
  | finite negative mantissa exponent =>
      if mantissa = 0 then some "0"
      else
        let body := (shortest mantissa exponent).write
        some (String.ofList (if negative then '-' :: body else body))
  | infinite _ => none
  | notANumber => none

def text : Number -> String
  | infinite negative => if negative then "-Infinity" else "Infinity"
  | n => (n.write?).getD "NaN"

end Number
end CamelSpell
