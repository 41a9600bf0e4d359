import CamelSpell.Base64
import CamelSpell.Json.Printer
import CamelSpell.Number.Literal

/-!
# Meaning of YAML nodes

A plain scalar is null, a truth value, a number, a point in time or the mark of a merge if it is
written like one, and else a text.  A node with a tag must have the kind and the contents that the
tag asks for.
-/

namespace CamelSpell
namespace Yaml

inductive NodeKind
  | scalar
  | sequence
  | mapping
deriving DecidableEq, Repr

def standardTag (name : String) : String :=
  "tag:yaml.org,2002:" ++ name

def mergeTag : String := standardTag "merge"

/-!
## Scalars

A whole number may be written in base two, eight or sixteen.  A number that is too large is read
as if it were none.
-/

def null? (s : List Char) : Bool :=
  ["~", "null", "Null", "NULL"].any fun w => w.toList == s

def bool? (s : List Char) : Option Bool :=
  if ["true", "True", "TRUE"].any fun w => w.toList == s then some true
  else if ["false", "False", "FALSE"].any fun w => w.toList == s then some false
  else none

def integer? (s : List Char) : Option Number :=
  let (negative, rest) := Number.signOf s
  let magnitude := match rest with
    | '0' :: 'b' :: ds => Number.digits? 2 ds
    | '0' :: 'o' :: ds => Number.digits? 8 ds
    | '0' :: 'x' :: ds => Number.digits? 16 ds
    | ds => Number.digits? 10 ds
  (magnitude.map fun n => Number.ofDecimal negative n 0).filter Number.isFinite

def float? (s : List Char) : Option Number :=
  let (negative, rest) := Number.signOf s
  let isWord (ws : List String) (t : List Char) : Bool := ws.any fun w => w.toList == t
  if isWord [".inf", ".Inf", ".INF"] rest then some (.infinite negative)
  else if isWord [".nan", ".NaN", ".NAN"] s then some .notANumber
  else
    let isSigned := rest.length < s.length
    if isSigned && rest.head? = some '.' then none
    else (Number.decimal? negative rest).filter Number.isFinite

def resolvePlain (s : List Char) : Value × Bool :=
  if null? s then (.null, false)
  else
    match bool? s, integer? s, float? s, Moment.ofText? s with
    | some b, _, _, _ => (.bool b, false)
    | none, some n, _, _ => (.number n, false)
    | none, none, some n, _ => (.number n, false)
    | none, none, none, some m => (.moment m, false)
    | none, none, none, none => (.text (String.ofList s), s == ['<', '<'])

def bytes? (s : List Char) : Option (List Nat) :=
  (Base64.decode? s).map fun bytes =>
    if s.any fun c => (Base64.value? c).isSome then bytes else [0, 0, 0]

/-!
## Tags

A node without contents has no kind and fits every tag; so does a reference, but only one to null.
-/

def mapping? : Value -> Option Fields
  | .table fields => some fields
  | _ => none

def isOrderedMapping (items : List Value) : Bool :=
  let keys := items.map fun item =>
    match mapping? item with
    | some [(key, _)] => some key
    | _ => none
  keys.all Option.isSome && keys.eraseDups.length = keys.length

def pairs? (items : List Value) : Option (List Value) :=
  items.mapM fun item =>
    match mapping? item with
    | some [(key, value)] => some (Value.list [.text key, value])
    | _ => none

def resolveTagged? (tag : String) (kind : Option NodeKind) (value : Value) : Option Value :=
  let isNull := match value with
    | .null => true
    | _ => false
  let fits (k : NodeKind) : Bool := (kind = none && isNull) || kind = some k
  let scalar (read : List Char -> Option Value) : Option Value :=
    match fits .scalar, value with
    | true, .text s => read s.toList
    | _, _ => none
  if tag = standardTag "str" then
    if fits .scalar then some (if isNull then .text "" else value) else none
  else if tag = standardTag "seq" then
    if fits .sequence then some (if isNull then .list [] else value) else none
  else if tag = standardTag "map" then
    if fits .mapping then some (if isNull then .table [] else value) else none
  else if tag = standardTag "null" then
    if fits .scalar && isNull then some .null
    else scalar fun s => if null? s then some .null else none
  else if tag = standardTag "bool" then scalar fun s => (bool? s).map Value.bool
  else if tag = standardTag "int" then scalar fun s => (integer? s).map Value.number
  else if tag = standardTag "float" then scalar fun s => (float? s).map Value.number
  else if tag = standardTag "timestamp" then
    scalar fun s => (Moment.ofText? s).map Value.moment
  else if tag = standardTag "binary" then
    scalar fun s => (bytes? s).map Value.bytes
  else if tag = mergeTag then
    if fits .scalar && isNull then some .null
    else scalar fun s => if s = ['<', '<'] then some value else none
  else
    match value with
    | .list items =>
        if !fits .sequence then none
        else if tag = standardTag "omap" then
          if isOrderedMapping items then some value else none
        else if tag = standardTag "pairs" then (pairs? items).map Value.list
        else none
    | .table fields =>
        if tag = standardTag "set" && fits .mapping then
          if fields.all fun f => match f.2 with
            | .null => true
            | _ => false
          then some value else none
        else none
    | .null =>
        if kind ≠ none then none
        else if tag = standardTag "omap" || tag = standardTag "pairs" then some (.list [])
        else if tag = standardTag "set" then some (.table [])
        else none
    | _ => none

/-!
## Keys

Keys are texts.  A list is a key with commas between its items, but a list in a list is none.
-/

def simpleKey : Value -> String
  | .null => "null"
  | .bool b => if b then "true" else "false"
  | .number n => n.text
  | .text s => s
  | .list _ => ""
  | .table _ => "[object Object]"
  | .moment m => m.text
  | .bytes bs => String.intercalate "," (bs.map toString)

def itemKey? : Value -> Option String
  | .list _ => none
  | .null => some ""
  | v => some (simpleKey v)

def keyText? : Value -> Option String
  | .list items => (items.mapM itemKey?).map fun texts => String.intercalate "," texts
  | v => some (simpleKey v)

end Yaml
end CamelSpell
