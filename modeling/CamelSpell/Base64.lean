/-!
# Base-64 data

Each character stands for six bits, and four characters for three bytes.
-/

namespace CamelSpell
namespace Base64

def value? (c : Char) : Option Nat :=
  if 'A' ≤ c ∧ c ≤ 'Z' then some (c.toNat - 65)
  else if 'a' ≤ c ∧ c ≤ 'z' then some (c.toNat - 71)
  else if '0' ≤ c ∧ c ≤ '9' then some (c.toNat + 4)
  else if c = '+' then some 62
  else if c = '/' then some 63
  else none

def bytesOfGroups : List Nat -> List Nat
  | a :: b :: c :: d :: rest =>
      (a * 4 + b / 16) :: (b % 16 * 16 + c / 4) :: (c % 4 * 64 + d) :: bytesOfGroups rest
  | [a, b, c] => [a * 4 + b / 16, b % 16 * 16 + c / 4]
  | [a, b] => [a * 4 + b / 16]
  | _ => []

def decode (s : List Char) : List Nat :=
  bytesOfGroups (s.filterMap value?)

/-- The bytes of data that has nothing but characters with values and its padding, ends of lines
apart.  With its padding the data must fill whole bytes. -/
def decode? (s : List Char) : Option (List Nat) :=
  let marks := s.filter fun c => c != '\n' && c != '\r'
  if marks.all (fun c => (value? c).isSome || c = '=') && marks.length * 6 % 8 = 0 then
    some (decode marks)
  else none

end Base64
end CamelSpell
