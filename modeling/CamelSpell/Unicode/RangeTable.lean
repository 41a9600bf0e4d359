/-!
# Sets of characters given by ranges

A Unicode property is written down as the ascending list of its maximal ranges of code points,
both ends included.  Membership walks the list and stops at the first range that begins after the
code point, so the common characters, which have small numbers, are decided after a few steps.
-/

namespace CamelSpell
namespace Unicode

abbrev RangeTable := List (Nat × Nat)

namespace RangeTable

def covers : RangeTable -> Nat -> Bool
  | [], _ => false
  | (first, last) :: rest, n =>
      if n < first then false
      else if n ≤ last then true
      else covers rest n

def Ascending : RangeTable -> Prop
  | [] => True
  | [(first, last)] => first ≤ last
  | (first, last) :: (first', last') :: rest =>
      first ≤ last ∧ last < first' ∧ Ascending ((first', last') :: rest)

end RangeTable

def memTable (table : RangeTable) (c : Char) : Bool :=
  table.covers c.toNat

end Unicode
end CamelSpell
