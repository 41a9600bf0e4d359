import CamelSpell.Unicode.Units

/-!
# Similar names

When a name is not known, those that come close to it are offered.  The distance of two texts is
the least number of code units to insert, to leave out, to replace, or to exchange with the next
one; a part that has been exchanged is not changed again.  It is computed row by row, and a row is
kept from its end.
-/

namespace CamelSpell
namespace CommandLine

/-- One row of the table of distances between the beginnings of two texts: the newest entry first,
and behind it those of shorter beginnings. -/
abbrev Row := List Nat

def nextRow (a : Nat) (previous : Option Nat) : List Nat -> Row -> Row -> Row
  | b :: bs, above :: diagonal :: further, beforeAbove =>
      let row := nextRow a previous bs (diagonal :: further) (beforeAbove.drop 1)
      let left := row.headD 0
      let plain := min (min (above + 1) (left + 1)) (if a = b then diagonal else diagonal + 1)
      let exchanged :=
        match previous, bs.head?, beforeAbove.drop 2 with
        | some p, some b', d :: _ => if a = b' && p = b then min plain (d + 1) else plain
        | _, _, _ => plain
      exchanged :: row
  | _, above :: _, _ => [above + 1]
  | _, [], _ => []

def lastRow (b : List Nat) : Option Nat -> List Nat -> Row -> Row -> Row
  | _, [], above, _ => above
  | previous, a :: rest, above, beforeAbove =>
      lastRow b (some a) rest (nextRow a previous b above beforeAbove) above

def distance (a b : List Nat) : Nat :=
  let first := (List.range (b.length + 1)).reverse
  (lastRow b.reverse none a first []).headD 0

def maxDistance : Nat := 3

/-- The distance of a name that comes close enough to be offered: it has more than two fifths of
the longer one in common, and more than one unit. -/
def closeness? (word candidate : String) : Option Nat :=
  let a := Unicode.units word.toList
  let b := Unicode.units candidate.toList
  let apart := max (a.length - b.length) (b.length - a.length)
  if b.length ≤ 1 || maxDistance < apart then none
  else
    let d := distance a b
    let length := max a.length b.length
    if d ≤ maxDistance && 2 * length < 5 * (length - d) then some d else none

def similar (word : String) (candidates : List String) : List String :=
  let close := candidates.eraseDups.filterMap fun c => (closeness? word c).map fun d => (d, c)
  match (close.map Prod.fst).min? with
  | none => []
  | some least =>
      ((close.filter fun p => p.1 = least).map Prod.snd).mergeSort fun a b =>
        Unicode.textLe a b

end CommandLine
end CamelSpell
