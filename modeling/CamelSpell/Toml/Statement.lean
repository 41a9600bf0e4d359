import CamelSpell.Moment
import CamelSpell.Number.Binary64

/-!
# Statements of TOML

A document is a row of statements: assignments, and headers that open a table or a new table of a
list.  Values keep their kinds, because a list must not mix them.
-/

namespace CamelSpell
namespace Toml

inductive Item
  | text (s : String)
  | integer (n : Number)
  | float (n : Number)
  | bool (b : Bool)
  | moment (m : Moment)
  | list (items : List Item)
  | table (fields : List (String × Item))

inductive ItemKind
  | text
  | integer
  | float
  | bool
  | moment
  | list
  | table
deriving DecidableEq, Repr

def Item.kind : Item -> ItemKind
  | text _ => .text
  | integer _ => .integer
  | float _ => .float
  | bool _ => .bool
  | moment _ => .moment
  | list _ => .list
  | table _ => .table

inductive Statement
  | assign (key : String) (item : Item)
  | openTable (keys : List String)
  | openListed (keys : List String)

end Toml
end CamelSpell
