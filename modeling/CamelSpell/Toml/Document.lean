import CamelSpell.Toml.Reader
import CamelSpell.Value

/-!
# Documents of TOML

The statements of a document build up one table.  A header names the table into which the following
assignments go.  A key may be assigned once and a header be written once; headers of listed tables
start afresh, and so does everything below them.
-/

namespace CamelSpell
namespace Toml

/-!
## Values

An item stands for a value, unless it holds a list of several kinds.
-/

mutual

def Item.value? : Item -> Option Value
  | .text s => some (.text s)
  | .integer n => some (.number n)
  | .float n => some (.number n)
  | .bool b => some (.bool b)
  | .moment m => some (.moment m)
  | .list items =>
      if items.all fun i => (items.head?.map Item.kind).all (· == i.kind) then
        (listValues? items).map .list
      else none
  | .table fields => (fieldValues? fields).map fun fs => .table (Fields.ofList fs)

def listValues? : List Item -> Option (List Value)
  | [] => some []
  | i :: rest => do return (<- i.value?) :: (<- listValues? rest)

def fieldValues? : List (String × Item) -> Option (List (String × Value))
  | [] => some []
  | (key, i) :: rest => do return (key, <- i.value?) :: (<- fieldValues? rest)

end

/-!
## Places

A place is where the assignments behind a header go, as the steps from the table of the document
to it.  Keys are followed through tables, and in a list of tables to its last one.
-/

inductive Step
  | field (key : String)
  | item (index : Nat)

inductive Place
  | table (steps : List Step)
  | fixed
  -- below a list or a point in time, where assignments leave no trace
  | lost

namespace Place

def under (s : Step) : Place -> Place
  | table steps => table (s :: steps)
  | fixed => fixed
  | lost => lost

end Place

def modify (f : Value -> Option Value) : List Step -> Value -> Option Value
  | [], v => f v
  | .field key :: steps, .table fields => do
      let inner <- Fields.get? fields key
      let inner <- modify f steps inner
      return .table (Fields.set key inner fields)
  | .item index :: steps, .list items => do
      let inner <- items[index]?
      let inner <- modify f steps inner
      return .list (items.set index inner)
  | _, _ => none

def assignField (key : String) (value : Value) : Value -> Option Value
  | .table fields =>
      if (Fields.get? fields key).isSome then none
      else some (.table (Fields.arrange (Fields.set key value fields)))
  | _ => none

structure Found where
  whole : Value
  steps : List Step
  value : Value
  lost : Bool

namespace Found

def within (f : Found) (s : Step) (rebuild : Value -> Value) : Found :=
  { f with whole := rebuild f.whole, steps := s :: f.steps }

end Found

/-- Follows the keys of a header.  Missing tables are made on the way, and `new` at the end.  Of a
list with items the last one is entered.  A key must not lead through an assigned value: `assigned`
holds the assigned paths and `passed` the keys so far. -/
def follow (assigned : List String) (new : Value) :
    List String -> List String -> Value -> Option Found
  | _, [], v => some ⟨v, [], v, false⟩
  | passed, key :: keys, .table fields =>
      let passed := passed ++ [key]
      let rebuild (v : Value) : Value := .table (Fields.arrange (Fields.set key v fields))
      match Fields.get? fields key with
      | none =>
          let start := if keys.isEmpty then new else .table []
          (follow assigned new passed keys start).map fun (f : Found) =>
            f.within (.field key) rebuild
      | some inner =>
          if keys.isEmpty then some (Found.within ⟨inner, [], inner, false⟩ (.field key) rebuild)
          else if assigned.contains (String.intercalate "." passed) then none
          else
            match inner with
            | .list items =>
                match items.getLast? with
                | none => some ⟨.table fields, [], .list [], true⟩
                | some last =>
                    let index := items.length - 1
                    let enter (v : Value) : Value := .list (items.set index v)
                    (follow assigned new passed keys last).map fun (f : Found) =>
                      (f.within (.item index) enter).within (.field key) rebuild
            | _ => (follow assigned new passed keys inner).map fun (f : Found) =>
                f.within (.field key) rebuild
  | _, _, .list items => some ⟨.list items, [], .list [], true⟩
  | _, _, .moment m => some ⟨.moment m, [], .list [], true⟩
  | _, _, _ => none
termination_by _ keys _ => keys.length

/-!
## Documents

The path of a header counts as written from then on, with quotation marks around keys that have a
point in them.
-/

/-- A document that is being built: the table so far, where assignments go, the path in front of
their keys, and the paths that have been written and that have been assigned. -/
structure Builder where
  root : Value
  place : Place
  path : String
  written : List String
  assigned : List String

namespace Builder

def start : Builder := ⟨.table [], .table [], "", [], []⟩

def pathOf (keys : List String) : String :=
  String.intercalate "." <| keys.map fun key =>
    if key.toList.contains '.' then "\"" ++ key ++ "\"" else key

def assign (b : Builder) (key : String) (value : Value) : Option Builder :=
  let path := b.path ++ key
  let note (b : Builder) : Builder :=
    if b.written.contains path then b
    else { b with written := b.written ++ [path], assigned := b.assigned ++ [path] }
  match b.place with
  | .table steps => (modify (assignField key value) steps b.root).map fun root =>
      note { b with root := root }
  | .fixed => none
  | .lost => some (note b)

def openTable (b : Builder) (keys : List String) : Option Builder :=
  let path := pathOf keys
  if b.written.contains path then none
  else do
    let found <- follow b.assigned (.table []) [] keys b.root
    let place := if found.lost then .lost else
      match found.value with
      | .table _ => .table found.steps
      | .list _ => .lost
      | .moment _ => .lost
      | _ => Place.fixed
    return { b with
      root := found.whole
      place := place
      path := String.intercalate "," keys ++ "."
      written := b.written ++ [path] }

def openListed (b : Builder) (keys : List String) : Option Builder := do
  let path := pathOf keys
  let found <- follow b.assigned (.list []) [] keys b.root
  let b := { b with
    path := if path.isEmpty then "" else path ++ "."
    written := (b.written.filter fun (p : String) => !path.toList.isPrefixOf p.toList) ++ [path] }
  if found.lost then return { b with place := .lost }
  else
    match found.value with
    | .list items =>
        let append (_ : Value) : Option Value := some (.list (items ++ [.table []]))
        let root <- modify append found.steps found.whole
        return { b with
          root := root
          place := .table (found.steps ++ [Step.item items.length]) }
    | _ => none

def step (b : Builder) : Statement -> Option Builder
  | .assign key item => do b.assign key (<- item.value?)
  | .openTable keys => b.openTable keys
  | .openListed keys => b.openListed keys

end Builder

def parse? (text : List Char) : Option Value := do
  let statements <- statements? text
  let b <- statements.foldlM Builder.step .start
  return b.root

end Toml
end CamelSpell
