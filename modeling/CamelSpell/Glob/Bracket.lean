import CamelSpell.Unicode.Units

/-!
# Bracket expressions

`[a-z]`, `[!a-z]` and named classes such as `[[:alpha:]]`, read by code units and spelled as a set
of a regular expression.  A bracket expression of a single character is that character.
-/

namespace CamelSpell
namespace Glob

open Unicode

def unitsOf (s : String) : List Nat :=
  units s.toList

def unitOf (c : Char) : Nat := c.toNat

/-- A named class: how its members are spelled, whether they need code points, and whether the
class is all but these members. -/
structure NamedClass where
  name : String
  members : String
  onPoints : Bool
  excludes : Bool

def namedClasses : List NamedClass :=
  [⟨"[:alnum:]", "\\p\x7bL\x7d\\p\x7bNl\x7d\\p\x7bNd\x7d", true, false⟩,
   ⟨"[:alpha:]", "\\p\x7bL\x7d\\p\x7bNl\x7d", true, false⟩,
   ⟨"[:ascii:]", "\\x00-\\x7f", false, false⟩,
   ⟨"[:blank:]", "\\p\x7bZs\x7d\\t", true, false⟩,
   ⟨"[:cntrl:]", "\\p\x7bCc\x7d", true, false⟩,
   ⟨"[:digit:]", "\\p\x7bNd\x7d", true, false⟩,
   ⟨"[:graph:]", "\\p\x7bZ\x7d\\p\x7bC\x7d", true, true⟩,
   ⟨"[:lower:]", "\\p\x7bLl\x7d", true, false⟩,
   ⟨"[:print:]", "\\p\x7bC\x7d", true, false⟩,
   ⟨"[:punct:]", "\\p\x7bP\x7d", true, false⟩,
   ⟨"[:space:]", "\\p\x7bZ\x7d\\t\\r\\n\\v\\f", true, false⟩,
   ⟨"[:upper:]", "\\p\x7bLu\x7d", true, false⟩,
   ⟨"[:word:]", "\\p\x7bL\x7d\\p\x7bNl\x7d\\p\x7bNd\x7d\\p\x7bPc\x7d", true, false⟩,
   ⟨"[:xdigit:]", "A-Fa-f0-9", false, false⟩]

def namedClassAt? (text : List Nat) : Option (NamedClass × List Nat) :=
  namedClasses.findSome? fun named =>
    let name := unitsOf named.name
    if name.isPrefixOf text then some (named, text.drop name.length) else none

inductive BracketReading
  | unclosed
  | impossible
  | single (u : Nat) (rest : List Nat)
  | set (spelling : List Nat) (onPoints : Bool) (rest : List Nat)

/-- The state of the reader inside brackets.  `listed` and `excluded` hold spelled pieces, last
first. -/
structure BracketState where
  negated : Bool
  listed : List (List Nat)
  excluded : List (List Nat)
  onPoints : Bool
  begun : Bool
  protecting : Bool
  rangeStart : Option Nat

namespace BracketState

def start (negated : Bool) : BracketState :=
  ⟨negated, [], [], false, false, false, none⟩

def spell (u : Nat) : List Nat :=
  if isOneOf "[]\\-" u then [unitOf '\\', u] else [u]

def list (s : BracketState) (piece : List Nat) : BracketState :=
  { s with listed := piece :: s.listed }

def name (s : BracketState) (c : NamedClass) : BracketState :=
  let s := { s with onPoints := s.onPoints || c.onPoints }
  let members := unitsOf c.members
  if c.excludes then { s with excluded := members :: s.excluded } else s.list members

def endRange (s : BracketState) (first last : Nat) : BracketState :=
  let s := { s with rangeStart := none }
  if first < last then s.list (spell first ++ unitOf '-' :: spell last)
  else if first = last then s.list (spell first)
  else s

def spellSet (negated : Bool) (pieces : List (List Nat)) : List Nat :=
  let caret := if negated then [unitOf '^'] else []
  unitOf '[' :: (caret ++ pieces.reverse.flatten ++ [unitOf ']'])

def singleUnit? (piece : List Nat) : Option Nat :=
  let shown (u : Nat) : Option Nat := if isOneOf "\n\r\u2028\u2029" u then none else some u
  match piece with
  | [u] => shown u
  | [b, u] => if b = unitOf '\\' then shown u else none
  | _ => none

def close (s : BracketState) (rest : List Nat) : BracketReading :=
  let listed := spellSet s.negated s.listed
  let excluded := spellSet (!s.negated) s.excluded
  match s.listed, s.excluded with
  | [], [] => .impossible
  | [piece], [] =>
      match singleUnit? piece with
      | some u => if s.negated then .set listed s.onPoints rest else .single u rest
      | none => .set listed s.onPoints rest
  | _, [] => .set listed s.onPoints rest
  | [], _ => .set excluded s.onPoints rest
  | _, _ =>
      .set (unitOf '(' :: (listed ++ unitOf '|' :: excluded ++ [unitOf ')'])) s.onPoints rest

end BracketState

def readBracket : Nat -> BracketState -> List Nat -> BracketReading
  | 0, _, _ => .unclosed
  | _, _, [] => .unclosed
  | fuel + 1, s, u :: rest =>
      if u = unitOf ']' && s.begun && !s.protecting then s.close rest
      else
        let s := { s with begun := true }
        if u = unitOf '\\' && !s.protecting then
          readBracket fuel { s with protecting := true } rest
        else
          let named :=
            if u = unitOf '[' && !s.protecting then namedClassAt? (u :: rest) else none
          match named with
          | some (c, after) =>
              if s.rangeStart.isSome then .impossible else readBracket fuel (s.name c) after
          | none =>
              let s := { s with protecting := false }
              match s.rangeStart with
              | some first => readBracket fuel (s.endRange first u) rest
              | none =>
                  match rest with
                  | 0x2d :: 0x5d :: after =>
                      readBracket fuel
                        (s.list (BracketState.spell u ++ BracketState.spell (unitOf '-')))
                        (unitOf ']' :: after)
                  | 0x2d :: after => readBracket fuel { s with rangeStart := some u } after
                  | _ => readBracket fuel (s.list (BracketState.spell u)) rest

def bracketAfter (text : List Nat) : BracketReading :=
  match text with
  | u :: rest =>
      if u = unitOf '!' || u = unitOf '^' then
        readBracket (rest.length + 1) (.start true) rest
      else readBracket (text.length + 1) (.start false) text
  | [] => .unclosed

end Glob
end CamelSpell
