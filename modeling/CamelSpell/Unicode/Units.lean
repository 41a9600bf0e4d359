/-!
# UTF-16 code units

Paths are ordered, and a few limits are counted, in the code units of UTF-16.  The order differs
from that of the code points: the characters from U+E000 to U+FFFF come after all that need a
surrogate pair.
-/

namespace CamelSpell
namespace Unicode

def unitsOfChar (c : Char) : List Nat :=
  let n := c.toNat
  if n < 0x10000 then [n]
  else [0xD800 + (n - 0x10000) / 0x400, 0xDC00 + (n - 0x10000) % 0x400]

def units (text : List Char) : List Nat :=
  text.flatMap unitsOfChar

def unitLength (text : List Char) : Nat :=
  (units text).length

def unitsLe : List Nat -> List Nat -> Bool
  | [], _ => true
  | _ :: _, [] => false
  | a :: as, b :: bs => if a = b then unitsLe as bs else a < b

def textLe (a b : String) : Bool :=
  unitsLe (units a.toList) (units b.toList)

def isHighSurrogate (unit : Nat) : Bool :=
  0xD800 ≤ unit && unit < 0xDC00

def isLowSurrogate (unit : Nat) : Bool :=
  0xDC00 ≤ unit && unit < 0xE000

def pointsOfUnits : List Nat -> List Nat
  | [] => []
  | [a] => [a]
  | a :: b :: rest =>
      if isHighSurrogate a && isLowSurrogate b then
        (0x10000 + (a - 0xD800) * 0x400 + (b - 0xDC00)) :: pointsOfUnits rest
      else a :: pointsOfUnits (b :: rest)

/-- The text of a sequence of code units; a surrogate without its partner becomes U+FFFD. -/
def textOfUnits (us : List Nat) : List Char :=
  (pointsOfUnits us).map fun n =>
    if 0xD800 ≤ n ∧ n < 0xE000 then '\uFFFD' else Char.ofNat n

def isOneOf (marks : String) (n : Nat) : Bool :=
  marks.toList.any fun c => c.toNat == n

end Unicode
end CamelSpell
