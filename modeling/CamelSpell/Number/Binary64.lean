/-!
# Binary floating-point numbers

The numbers of configuration files and log records are those of the 64-bit binary format: a sign,
a mantissa below `2 ^ 53` and an exponent, so that the value is `mantissa * 2 ^ exponent`.  They are
kept as exact integers, and a decimal numeral is rounded to the nearest of them, a tie going to the
even mantissa.
-/

namespace CamelSpell

/-- A number of the 64-bit binary format.  The mantissa of a finite number has 53 bits unless the
exponent is the least one, `-1074`. -/
inductive Number
  | finite (negative : Bool) (mantissa : Nat) (exponent : Int)
  | infinite (negative : Bool)
  | notANumber
deriving DecidableEq, Repr

namespace Number

def isFinite : Number -> Bool
  | finite _ _ _ => true
  | infinite _ | notANumber => false

def power (base : Nat) (exponent : Int) : Nat :=
  Nat.pow base exponent.toNat

def roundQuotient (numerator denominator : Nat) : Nat :=
  let quotient := numerator / denominator
  let twice := 2 * (numerator % denominator)
  if twice < denominator then quotient
  else if denominator < twice then quotient + 1
  else quotient + quotient % 2

def roundScaled (numerator denominator : Nat) (exponent : Int) : Nat :=
  if 0 ≤ exponent then roundQuotient numerator (denominator * power 2 exponent)
  else roundQuotient (numerator * power 2 (-exponent)) denominator

def floorScaled (numerator denominator : Nat) (exponent : Int) : Nat :=
  if 0 ≤ exponent then numerator / (denominator * power 2 exponent)
  else numerator * power 2 (-exponent) / denominator

def exponentOf (numerator denominator : Nat) : Int :=
  let guess : Int := (numerator.log2 : Int) - (denominator.log2 : Int) - 52
  let exact := if floorScaled numerator denominator guess < power 2 52 then guess - 1 else guess
  max exact (-1074)

def ofFraction (negative : Bool) (numerator denominator : Nat) : Number :=
  if numerator = 0 then finite negative 0 (-1074)
  else
    let exponent := exponentOf numerator denominator
    let mantissa := roundScaled numerator denominator exponent
    let (mantissa, exponent) :=
      if mantissa = power 2 53 then (power 2 52, exponent + 1) else (mantissa, exponent)
    if 971 < exponent then infinite negative else finite negative mantissa exponent

/-- The number nearest to `digits * 10 ^ exponent`.  Exponents far outside the format are decided
by the size of the numeral, without computing the power. -/
def ofDecimal (negative : Bool) (digits : Nat) (exponent : Int) : Number :=
  if digits = 0 then finite negative 0 (-1074)
  else
    let magnitude := exponent + (Nat.toDigits 10 digits).length
    if 400 < magnitude then infinite negative
    else if magnitude < -400 then finite negative 0 (-1074)
    else if 0 ≤ exponent then ofFraction negative (digits * power 10 exponent) 1
    else ofFraction negative digits (power 10 (-exponent))

def ofNat (n : Nat) : Number :=
  ofFraction false n 1

def ofInt (n : Int) : Number :=
  ofFraction (n < 0) n.natAbs 1

def toNat? : Number -> Option Nat
  | finite negative mantissa exponent =>
      if negative && mantissa != 0 then none
      else if 0 ≤ exponent then some (mantissa * power 2 exponent)
      else
        let unit := power 2 (-exponent)
        if mantissa % unit = 0 then some (mantissa / unit) else none
  | infinite _ => none
  | notANumber => none

def floor? : Number -> Option Nat
  | finite negative mantissa exponent =>
      if negative then some 0
      else if 0 ≤ exponent then some (mantissa * power 2 exponent)
      else some (mantissa / power 2 (-exponent))
  | infinite negative => if negative then some 0 else none
  | notANumber => some 0

/-- The least natural number that is not below the given number, as a bound on lengths.  A number
that is no bound at all counts as zero; an infinite bound cannot be met and has no value. -/
def lengthBound? : Number -> Option Nat
  | finite negative mantissa exponent =>
      if negative then some 0
      else if 0 ≤ exponent then some (mantissa * power 2 exponent)
      else
        let unit := power 2 (-exponent)
        some ((mantissa + unit - 1) / unit)
  | infinite negative => if negative then some 0 else none
  | notANumber => some 0

end Number
end CamelSpell
