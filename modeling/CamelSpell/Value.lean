import CamelSpell.Moment
import CamelSpell.Number.Binary64

/-!
# Values of settings

What a configuration file holds before it is checked, whatever its format: null, truth values,
numbers, texts, lists, tables, points in time and bytes.

The fields of a table stand in the order in which they are listed: first the keys that are written
like indices of a list, in ascending order, then all others in the order in which they were set.
Setting a key again keeps its place.
-/

namespace CamelSpell

inductive Value
  | null
  | bool (b : Bool)
  | number (n : Number)
  | text (s : String)
  | list (items : List Value)
  | table (fields : List (String × Value))
  | moment (m : Moment)
  | bytes (bs : List Nat)
deriving Repr

abbrev Fields := List (String × Value)

namespace Fields

def set (key : String) (value : Value) : Fields -> Fields
  | [] => [(key, value)]
  | (k, v) :: rest => if k = key then (k, value) :: rest else (k, v) :: set key value rest

def get? (fields : Fields) (key : String) : Option Value :=
  fields.lookup key

/-- The number that a key denotes if it is written like an index: `0`, or digits without a leading
zero, below `2 ^ 32 - 1`. -/
def index? (key : String) : Option Nat :=
  match key.toList with
  | [] => none
  | ['0'] => some 0
  | c :: rest =>
      if '1' ≤ c ∧ c ≤ '9' ∧ rest.all Char.isDigit ∧ rest.length < 10 then
        let n := Number.ofDigits (c :: rest)
        if n < Number.power 2 32 - 1 then some n else none
      else none

def arrange (fields : Fields) : Fields :=
  let indexed := fields.filterMap fun field => (index? field.1).map fun n => (n, field)
  let sorted := indexed.mergeSort fun a b => a.1 ≤ b.1
  sorted.map Prod.snd ++ fields.filter fun field => (index? field.1).isNone

def ofList (pairs : List (String × Value)) : Fields :=
  arrange (pairs.foldl (fun fields pair => fields.set pair.1 pair.2) [])

def ofItems (items : List Value) : Fields :=
  items.zipIdx.map fun (item, i) => (toString i, item)

end Fields

namespace Value

/-- The fields of a value that counts as a table.  A point in time counts as a table without
fields, and bytes count as the table of their positions. -/
def fields? : Value -> Option Fields
  | table fields => some fields
  | moment _ => some []
  | bytes bs => some (Fields.ofItems (bs.map fun b => .number (Number.ofNat b)))
  | _ => none

end Value
end CamelSpell
