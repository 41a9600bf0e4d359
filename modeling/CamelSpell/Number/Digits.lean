/-!
# Decimal digits

The numbers that runs of decimal digits spell.
-/

namespace CamelSpell
namespace Number

def ofDigits (digits : List Char) : Nat :=
  digits.foldl (fun n d => 10 * n + (d.toNat - '0'.toNat)) 0

def digitRun? (least most : Nat) (s : List Char) : Option (Nat × List Char) :=
  let run := (s.takeWhile Char.isDigit).take most
  if run.length < least then none else some (ofDigits run, s.drop run.length)

end Number
end CamelSpell
