import CamelSpell.Regex.Basic
import CamelSpell.Unicode.Category
import CamelSpell.Unicode.Units

/-!
# The spelling of regular expressions

Reads groups, alternatives, repetitions, sets of characters, anchors and negative look-ahead.  An
expression is read by code units or, if it uses Unicode properties, by code points; then only marks
may be protected by a backslash.
-/

namespace CamelSpell
namespace Regex

open Unicode

inductive ReadError
  | invalidEscape
  | nothingToRepeat
  | rangeOutOfOrder
  | unterminatedGroup
  | unmatchedParenthesis
  | unterminatedSet
deriving DecidableEq, Repr

namespace ReadError

def message : ReadError -> String
  | invalidEscape => "Invalid escape"
  | nothingToRepeat => "Nothing to repeat"
  | rangeOutOfOrder => "Range out of order in character class"
  | unterminatedGroup => "Unterminated group"
  | unmatchedParenthesis => "Unmatched ')'"
  | unterminatedSet => "Unterminated character class"

end ReadError

def isMark (n : Nat) : Bool :=
  isOneOf "^$\\.*+?()[]\x7b\x7d|/" n

/-!
## Sets of characters

A set lists characters, ranges and properties up to its closing bracket.
-/

def category? : String -> Option RangeTable
  | "L" => some letterRanges
  | "Ll" => some lowercaseLetterRanges
  | "Lu" => some uppercaseLetterRanges
  | "Nd" => some decimalNumberRanges
  | "Nl" => some letterNumberRanges
  | "P" => some punctuationRanges
  | "Pc" => some connectorPunctuationRanges
  | "Z" => some separatorRanges
  | "Zs" => some spaceSeparatorRanges
  | "C" => some otherRanges
  | "Cc" => some controlRanges
  | _ => none

inductive SetAtom
  | point (n : Nat)
  | table (t : RangeTable)

def hexDigit? (n : Nat) : Option Nat :=
  if 48 ≤ n ∧ n ≤ 57 then some (n - 48)
  else if 97 ≤ n ∧ n ≤ 102 then some (n - 87)
  else if 65 ≤ n ∧ n ≤ 70 then some (n - 55)
  else none

def property? (rest : List Nat) : Option (RangeTable × List Nat) :=
  match rest with
  | 0x7b :: rest =>
      let name := rest.takeWhile (· != 0x7d)
      (category? (String.ofList (textOfUnits name))).map fun t =>
        (t, rest.drop (name.length + 1))
  | _ => none

def escapedAtom (onPoints : Bool) (n : Nat) (rest : List Nat) :
    Except ReadError (SetAtom × List Nat) :=
  let plain (m : Nat) : Except ReadError (SetAtom × List Nat) := .ok (.point m, rest)
  if n = 't'.toNat then plain 9
  else if n = 'n'.toNat then plain 10
  else if n = 'v'.toNat then plain 11
  else if n = 'f'.toNat then plain 12
  else if n = 'r'.toNat then plain 13
  else if n = 'x'.toNat then
    match rest with
    | a :: b :: after =>
        match hexDigit? a, hexDigit? b with
        | some x, some y => .ok (.point (16 * x + y), after)
        | _, _ => if onPoints then .error .invalidEscape else plain n
    | _ => if onPoints then .error .invalidEscape else plain n
  else if n = 'p'.toNat && onPoints then
    match property? rest with
    | some (t, after) => .ok (.table t, after)
    | none => .error .invalidEscape
  else if onPoints && !isMark n && n != '-'.toNat then .error .invalidEscape
  else plain n

def atomOf (onPoints : Bool) (n : Nat) (rest : List Nat) :
    Except ReadError (SetAtom × List Nat) :=
  if n = '\\'.toNat then
    match rest with
    | m :: after => escapedAtom onPoints m after
    | [] => .error .unterminatedSet
  else .ok (.point n, rest)

namespace SetAtom

def span : SetAtom -> CharSpan
  | point n => .points n n
  | table t => .table t

end SetAtom

def readSet (onPoints negated : Bool) :
    Nat -> List CharSpan -> List Nat -> Except ReadError (CharSet × List Nat)
  | 0, _, _ => .error .unterminatedSet
  | _, _, [] => .error .unterminatedSet
  | fuel + 1, spans, n :: rest =>
      if n = ']'.toNat then .ok (⟨negated, spans.reverse⟩, rest)
      else
        match atomOf onPoints n rest with
        | .error e => .error e
        | .ok (first, rest) =>
            match first, rest with
            | .point a, 0x2d :: m :: after =>
                if m = ']'.toNat then readSet onPoints negated fuel (first.span :: spans) rest
                else
                  match atomOf onPoints m after with
                  | .error e => .error e
                  | .ok (.point b, after) =>
                      if a ≤ b then readSet onPoints negated fuel (.points a b :: spans) after
                      else .error .rangeOutOfOrder
                  | .ok (.table _, _) =>
                      readSet onPoints negated fuel (first.span :: spans) rest
            | _, _ => readSet onPoints negated fuel (first.span :: spans) rest

def setAfter (onPoints : Bool) (rest : List Nat) : Except ReadError (CharSet × List Nat) :=
  match rest with
  | 0x5e :: rest => readSet onPoints true (rest.length + 1) [] rest
  | _ => readSet onPoints false (rest.length + 1) [] rest

/-!
## Expressions

A group that is being read is a frame: its finished alternatives, the terms of the current one,
each last first, and whether the last term may be repeated.  The frames around it wait, innermost
first.
-/

structure Frame where
  isExcept : Bool
  alternatives : List Regex
  terms : List Regex
  repeatable : Bool

namespace Frame

def start (isExcept : Bool) : Frame := ⟨isExcept, [], [], false⟩

def push (f : Frame) (r : Regex) (repeatable : Bool) : Frame :=
  { f with terms := r :: f.terms, repeatable := repeatable }

def alternative (f : Frame) : Regex :=
  match f.terms with
  | [] => .empty
  | last :: before => before.foldl (fun whole term => .seq term whole) last

def bar (f : Frame) : Frame :=
  ⟨f.isExcept, f.alternative :: f.alternatives, [], false⟩

def close (f : Frame) : Regex :=
  let body := f.alternatives.foldl (fun whole a => .alt a whole) f.alternative
  if f.isExcept then .except body else body

def repeated? (f : Frame) (again : Regex -> Regex) : Option Frame :=
  match f.repeatable, f.terms with
  | true, last :: before => some ⟨f.isExcept, f.alternatives, again last :: before, false⟩
  | _, _ => none

end Frame

def repetition? (n : Nat) : Option (Regex -> Regex) :=
  if n = '*'.toNat then some .star
  else if n = '+'.toNat then some .plus
  else if n = '?'.toNat then some .opt
  else none

/-- Reads the rest of an expression inside the group `current`, with the groups around it in
`outer`, innermost first. -/
def readOnto (onPoints : Bool) :
    Nat -> List Frame -> Frame -> List Nat -> Except ReadError Regex
  | 0, _, _, _ => .error .unterminatedGroup
  | _ + 1, outer, current, [] =>
      if outer.isEmpty then .ok current.close else .error .unterminatedGroup
  | fuel + 1, outer, current, n :: rest =>
      match repetition? n with
      | some again =>
          match current.repeated? again with
          | none => .error .nothingToRepeat
          | some current =>
              let rest := if rest.head? = some '?'.toNat then rest.tail else rest
              readOnto onPoints fuel outer current rest
      | none =>
          if n = '('.toNat then
            match rest with
            | 0x3f :: 0x3a :: rest => readOnto onPoints fuel (current :: outer) (.start false) rest
            | 0x3f :: 0x21 :: rest => readOnto onPoints fuel (current :: outer) (.start true) rest
            | _ => readOnto onPoints fuel (current :: outer) (.start false) rest
          else if n = ')'.toNat then
            match outer with
            | [] => .error .unmatchedParenthesis
            | parent :: outer =>
                let repeatable := !current.isExcept || !onPoints
                readOnto onPoints fuel outer (parent.push current.close repeatable) rest
          else if n = '|'.toNat then readOnto onPoints fuel outer current.bar rest
          else if n = '^'.toNat then
            readOnto onPoints fuel outer (current.push .textStart false) rest
          else if n = '$'.toNat then
            readOnto onPoints fuel outer (current.push .textEnd false) rest
          else if n = '.'.toNat then
            readOnto onPoints fuel outer (current.push (.set .notLineEnd) true) rest
          else if n = '['.toNat then
            match setAfter onPoints rest with
            | .error e => .error e
            | .ok (s, rest) => readOnto onPoints fuel outer (current.push (.set s) true) rest
          else
            let literal (m : Nat) : Regex := .set ⟨false, [.points m m]⟩
            if n = '\\'.toNat then
              match rest with
              | [] => .error .invalidEscape
              | m :: rest =>
                  if onPoints && !isMark m then .error .invalidEscape
                  else readOnto onPoints fuel outer (current.push (literal m) true) rest
            else readOnto onPoints fuel outer (current.push (literal n) true) rest

def read (onPoints : Bool) (source : List Nat) : Except ReadError Regex :=
  let source := if onPoints then pointsOfUnits source else source
  readOnto onPoints (source.length + 1) [] (.start false) source

end Regex
end CamelSpell
