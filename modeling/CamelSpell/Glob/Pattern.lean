import CamelSpell.Glob.Brace
import CamelSpell.Glob.Segment

/-!
# Patterns for paths

A pattern stands for its brace expansions; each of them is a row of segments between slashes.  A
path fits if its segments fit those of one expansion, `**` taking any number of segments none of
which is `.` or `..`.  `Pattern.read` says why a text is no pattern, and `Pattern.accepts` decides
whether a path fits.
-/

namespace CamelSpell
namespace Glob

open Unicode

structure Pattern where
  written : String
  rows : List (List Segment)

inductive PatternError
  | blank
  | tooLong
  | segment (e : SegmentError)
  | noExpression
deriving DecidableEq, Repr

namespace PatternError

def message : PatternError -> String
  | blank => "pattern is empty"
  | tooLong => "pattern is too long"
  | segment e => e.message
  | noExpression => "pattern does not compile to a regular expression"

end PatternError

/-!
## Reading

Several slashes in a row count as one.  Before a row of segments is read, repeated `**` are
removed, and each `..` together with the plain segment in front of it.
-/

def splitSlashes (text : List Nat) : List (List Nat) :=
  go [] false text
where
  go (current : List Nat) (afterSlash : Bool) : List Nat -> List (List Nat)
    | [] => [current.reverse]
    | u :: rest =>
        if u = unitOf '/' then
          if afterSlash then go [] true rest else current.reverse :: go [] true rest
        else go (u :: current) false rest

def simplifyRow (row : List (List Nat)) : List (List Nat) :=
  let star := unitsOf "**"
  let dotDot := unitsOf ".."
  let simplified := row.foldl (fun done part =>
    match done with
    | last :: before =>
        if part = star && last = star then done
        else if part = dotDot && !last.isEmpty && !isDots last && last ≠ star then before
        else part :: done
    | [] => [part]) []
  if simplified.isEmpty then [[]] else simplified.reverse

def lengthLimit : Nat := 65536

def Segment.readsOnPoints : Segment -> Bool
  | .globstar => true
  | .text units => (Regex.read true (units.flatMap spellUnit)).isOk
  | .pattern s _ => (Regex.read true s.source).isOk

def Segment.needsPoints : Segment -> Bool
  | .pattern s _ => s.onPoints
  | _ => false

namespace Pattern

def read (written : String) : Except PatternError Pattern :=
  let text := written.toList
  if text.all isBlank then .error .blank
  else if lengthLimit < unitLength text then .error .tooLong
  else
    let expansions := (Brace.expand text).map fun e => simplifyRow (splitSlashes (units e))
    match expansions.mapM fun row => row.mapM Segment.read with
    | .error e => .error (.segment e)
    | .ok rows =>
        let segments := rows.flatten
        if rows.isEmpty ||
            (segments.any Segment.needsPoints && !segments.all Segment.readsOnPoints) then
          .error .noExpression
        else .ok ⟨written, rows⟩

end Pattern

/-!
## Matching

The rows between the `**`s of a pattern are searched for one after the other.  The last of them
has to fit the end of the path.
-/

def rowAccepts : List Segment -> List (List Nat) -> Bool
  | [], [] => true
  | [], [name] => name.isEmpty
  | [], _ => false
  | _ :: _, [] => false
  | s :: row, name :: path => s.accepts name && rowAccepts row path

inductive Verdict
  | no
  | open_
  | yes
deriving DecidableEq, Repr

def nestingLimit : Nat := 200

/-- Searches for rows between `**`s, one after the other.  With each row stands the number of
segments that have to be left for it; `after` segments at the end of the path are matched already.
A later search that ran out of path decides an earlier one, too. -/
def searchRows (after : Nat) (sawSome : Bool) :
    Nat -> List (List Segment × Nat) -> List (List Nat) -> Verdict
  | _, [], path =>
      if path.any isDots then .no
      else if sawSome || !path.isEmpty then .yes else .no
  | depth, (row, need) :: rows, path =>
      if need + after ≤ path.length then
        let found :=
          if rowAccepts row (path.take row.length) && depth < nestingLimit then
            searchRows after sawSome (depth + 1) rows (path.drop row.length)
          else .no
        match found, path with
        | .no, [] => .open_
        | .no, name :: rest =>
            if isDots name then .no else searchRows after sawSome depth ((row, need) :: rows) rest
        | verdict, _ => verdict
      else .open_
termination_by _ rows path => (rows.length, path.length)

def Segment.isGlobstar : Segment -> Bool
  | .globstar => true
  | _ => false

def splitGlobstars : List Segment -> List (List Segment)
  | [] => [[]]
  | s :: rest =>
      match splitGlobstars rest with
      | [] => [[s]]
      | row :: rows => if s.isGlobstar then [] :: row :: rows else (s :: row) :: rows

/-- The rows between the first and the last `**`, each with the number of segments that has to be
left for it: its own, and those of as many rows from the beginning as come after it. -/
def withNeeds (rows : List (List Segment)) : List (List Segment × Nat) :=
  let sums := (rows.scanl (fun n row => n + row.length) 0).take rows.length
  (rows.zip sums.reverse).map fun (row, sum) => (row, sum + row.length)

def tailLength? (head : Nat) (row : List Segment) (path : List (List Nat)) : Option Nat :=
  if row.isEmpty then some 0
  else if path.length < head + row.length then none
  else
    let start := path.length - row.length
    if rowAccepts row (path.drop start) then some row.length
    else if path.getLast? ≠ some [] || head + row.length = path.length then none
    else if rowAccepts row (path.drop (start - 1)) then some (row.length + 1)
    else none

def segmentsAccept (row : List Segment) (path : List (List Nat)) : Bool :=
  match splitGlobstars row with
  | [] | [_] => rowAccepts row path
  | head :: rows =>
      let tail := rows.getLast?.getD []
      let middle := rows.dropLast
      if !head.isEmpty && !rowAccepts head (path.take head.length) then false
      else
        match tailLength? head.length tail path with
        | none => false
        | some after =>
            let rest := path.drop head.length
            if middle.all List.isEmpty then
              let between := rest.take (rest.length - after)
              !between.any isDots && (after != 0 || !between.isEmpty)
            else searchRows after (after != 0) 0 (withNeeds middle) rest == .yes

namespace Pattern

def accepts (p : Pattern) (path : List Nat) : Bool :=
  let names := splitSlashes path
  p.rows.any fun row => segmentsAccept row names

end Pattern

end Glob
end CamelSpell
