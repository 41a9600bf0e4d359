import CamelSpell.Number.Binary64

/-!
# Sums of binary floating-point numbers

A sum is the number nearest to the exact sum, and numbers are compared exactly.
-/

namespace CamelSpell
namespace Number

def ofScaled (significand exponent : Int) : Number :=
  ofFraction (significand < 0) (significand.natAbs * power 2 exponent) (power 2 (-exponent))

def significandAt (negative : Bool) (mantissa : Nat) (exponent unit : Int) : Int :=
  let size : Int := (mantissa * power 2 (exponent - unit) : Nat)
  if negative then -size else size

def neg : Number -> Number
  | finite negative mantissa exponent => finite (!negative) mantissa exponent
  | infinite negative => infinite (!negative)
  | notANumber => notANumber

def abs : Number -> Number
  | finite _ mantissa exponent => finite false mantissa exponent
  | infinite _ => infinite false
  | notANumber => notANumber

def add : Number -> Number -> Number
  | finite n m e, finite n' m' e' =>
      let unit := min e e'
      ofScaled (significandAt n m e unit + significandAt n' m' e' unit) unit
  | infinite n, infinite n' => if n = n' then infinite n else notANumber
  | infinite n, finite _ _ _ => infinite n
  | finite _ _ _, infinite n => infinite n
  | notANumber, _ => notANumber
  | _, notANumber => notANumber

def le : Number -> Number -> Bool
  | finite n m e, finite n' m' e' =>
      let unit := min e e'
      significandAt n m e unit ≤ significandAt n' m' e' unit
  | notANumber, _ => false
  | _, notANumber => false
  | infinite n, infinite n' => n || !n'
  | infinite n, finite _ _ _ => n
  | finite _ _ _, infinite n => !n

end Number
end CamelSpell
