import CamelSpell.Glob.Group
import CamelSpell.Regex.Reader
import CamelSpell.Unicode.Blank

/-!
# Path segments of patterns

A segment of a pattern is a `**`, a plain text, or a regular expression for one path segment.  A
plain text may protect its marks by backslashes or put them into brackets.
-/

namespace CamelSpell
namespace Glob

open Unicode

structure Spelled where
  source : List Nat
  isPattern : Bool
  onPoints : Bool

namespace Spelled

def empty : Spelled := ⟨[], false, false⟩

def append (a b : Spelled) : Spelled :=
  ⟨a.source ++ b.source, a.isPattern || b.isPattern, a.onPoints || b.onPoints⟩

def concat (parts : List Spelled) : Spelled :=
  ⟨parts.flatMap source, parts.any isPattern, parts.any onPoints⟩

end Spelled

/-!
## Spelling

A segment that needs one is spelled as a regular expression.  What begins a segment must not take
`.` or `..`, and a segment of nothing but stars needs a character.
-/

def spellUnit (u : Nat) : List Nat :=
  if isOneOf "-[]\x7b\x7d()*+?.,\\^$|#" u || blankRanges.covers u then [unitOf '\\', u] else [u]

def spellProtected (u : Nat) : List Nat :=
  if isOneOf "().*\x7b\x7d+?[]^$\\!" u then [unitOf '\\', u] else [u]

def anyOne : List Nat := unitsOf "[^/]"
def anyRun : List Nat := unitsOf "[^/]*?"
def someRun : List Nat := unitsOf "[^/]+?"
def never : List Nat := unitsOf "$."

def notDots : List Nat := unitsOf "(?!(?:^|/)\\.\\.?(?:$|/))"

def segmentEnd : List Nat := unitsOf "(?:$|\\/)"

/-- Reads the rest of a text onto the reversed pieces of its spelling.  `star` spells a row of
stars, and `inStars` tells that one has just been spelled. -/
def spellOnto (star : List Nat) :
    Nat -> List (List Nat) -> Bool -> Bool -> Bool -> List Nat -> Spelled
  | 0, done, isPattern, onPoints, _, _ => ⟨done.reverse.flatten, isPattern, onPoints⟩
  | _ + 1, done, isPattern, onPoints, _, [] => ⟨done.reverse.flatten, isPattern, onPoints⟩
  | fuel + 1, done, isPattern, onPoints, inStars, u :: rest =>
      if u = unitOf '\\' then
        match rest with
        | [] => ⟨(spellProtected u :: done).reverse.flatten, isPattern, onPoints⟩
        | v :: rest => spellOnto star fuel (spellProtected v :: done) isPattern onPoints false rest
      else if u = unitOf '[' then
        match bracketAfter rest with
        | .unclosed => spellOnto star fuel (spellUnit u :: done) isPattern onPoints false rest
        | .impossible => ⟨(never :: done).reverse.flatten, true, onPoints⟩
        | .single v rest => spellOnto star fuel (spellUnit v :: done) isPattern onPoints false rest
        | .set s needsPoints rest =>
            spellOnto star fuel (s :: done) true (onPoints || needsPoints) false rest
      else if u = unitOf '*' then
        let done := if inStars then done else star :: done
        spellOnto star fuel done true onPoints true rest
      else if u = unitOf '?' then spellOnto star fuel (anyOne :: done) true onPoints false rest
      else spellOnto star fuel (spellUnit u :: done) isPattern onPoints false rest

def spellText (isWhole : Bool) (text : List Nat) : Spelled :=
  let star := if isWhole && text.all (· == unitOf '*') then someRun else anyRun
  spellOnto star (text.length + 1) [] false false false text

def guardFor (parts : List Node) (source : List Nat) : List Nat :=
  match parts with
  | .text t :: more =>
      let isDots := more.isEmpty && (t == unitsOf "." || t == unitsOf "..")
      let open_ := [unitOf '[']
      let dot := unitsOf "\\."
      if !isDots &&
          (open_.isPrefixOf source || (dot ++ open_).isPrefixOf source ||
            (dot ++ dot ++ open_).isPrefixOf source) then notDots
      else []
  | _ => []

def joinBars : List (List Nat) -> List Nat
  | [] => []
  | [a] => a
  | a :: rest => a ++ unitOf '|' :: joinBars rest

def GroupKind.closing : GroupKind -> List Nat
  | one => unitsOf ")"
  | optional => unitsOf ")?"
  | many => unitsOf ")*"
  | some => unitsOf ")+"
  | except => unitsOf "))[^/]*?)"

/-- The spelling of a group with the given alternatives.  A group that is a whole segment drops its
empty alternatives; if none is left it stands for itself. -/
def spellGroup (info : GroupInfo) (isWhole : Bool) (branches : List Spelled) : Spelled :=
  let sources := branches.map Spelled.source
  let body := joinBars (if isWhole then sources.filter fun s => !s.isEmpty else sources)
  let onPoints := branches.any Spelled.onPoints
  if isWhole && body.isEmpty && info.kind ≠ .except then
    let bars := List.replicate (branches.length - 1) (unitOf '|')
    ⟨info.kind.mark :: unitOf '(' :: (bars ++ [unitOf ')']), false, false⟩
  else if info.kind = .except && info.endsEmpty then ⟨someRun, true, onPoints⟩
  else
    let opening := if info.kind = .except then unitsOf "(?:(?!(?:" else unitsOf "(?:"
    ⟨opening ++ body ++ info.kind.closing, true, onPoints⟩

def Node.isExcept : Node -> Bool
  | .group info _ => info.kind = .except
  | _ => false

mutual

def Node.spell (isWhole atStart atEnd : Bool) : Node -> Spelled
  | .text t => spellText isWhole t
  | .unfinished t =>
      let s := spellText isWhole t
      { s with source := (if atStart then guardFor [.text t] s.source else []) ++ s.source }
  | .group info branches =>
      spellGroup info (atStart && atEnd) (spellBranches info.kind atStart atEnd branches)

def spellBranches (kind : GroupKind) (atStart atEnd : Bool) : List Branch -> List Spelled
  | [] => []
  | .mk leading _ parts :: rest =>
      let starts := atStart && leading
      let ends := kind = .except || atEnd
      let s := Spelled.concat (spellParts (starts && ends) starts ends parts)
      let start := if starts then guardFor parts s.source else []
      let stop := if kind = .except then segmentEnd else []
      { s with source := start ++ s.source ++ stop } :: spellBranches kind atStart atEnd rest

def spellParts (isWhole atStart atEnd : Bool) : List Node -> List Spelled
  | [] => []
  | n :: rest =>
      n.spell isWhole atStart (atEnd && rest.isEmpty) ::
        spellParts isWhole (atStart && n.isExcept) atEnd rest

end

/-!
## Segments

Common forms are tested without a regular expression: any name, names with an ending, and names of
some length with an ending.  These take what follows their marks as it is written.
-/

/-- How a path segment is tested.  Common forms are tested without a regular expression, and take
what follows their marks as it is written. -/
inductive SegmentTest
  | anyName
  | ending (units : List Nat)
  | sized (length : Nat) (units : List Nat)
  | pointed
  | hidden
  | regex (r : Regex) (onPoints : Bool)

namespace SegmentTest

def shortcut? (segment : List Nat) : Option SegmentTest :=
  let isStar (u : Nat) : Bool := u == unitOf '*'
  let isMark (u : Nat) : Bool := isOneOf "+@!?*[(" u
  let afterStars := segment.dropWhile isStar
  let afterQuestionMarks := segment.dropWhile (· == unitOf '?')
  let hasStar := segment.head? == some (unitOf '*')
  if hasStar && afterStars.isEmpty then some .anyName
  else if hasStar && !afterStars.any isMark then some (.ending afterStars)
  else if segment.head? == some (unitOf '?') && !afterQuestionMarks.any isMark then
    some (.sized segment.length afterQuestionMarks)
  else
    let isPointStars (t : List Nat) : Bool := match t with
      | p :: s :: more => p == unitOf '.' && (s :: more).all isStar
      | _ => false
    if hasStar && isPointStars afterStars then some .pointed
    else if isPointStars segment then some .hidden
    else none

end SegmentTest

def isDots (name : List Nat) : Bool :=
  name == [unitOf '.'] || name == [unitOf '.', unitOf '.']

namespace SegmentTest

def accepts (test : SegmentTest) (name : List Nat) : Bool :=
  match test with
  | anyName => !name.isEmpty && !isDots name
  | ending units => units.isSuffixOf name
  | sized length units => name.length == length && !isDots name && units.isSuffixOf name
  | pointed => !isDots name && name.contains (unitOf '.')
  | hidden => !isDots name && name.head? == some (unitOf '.')
  | regex r onPoints => r.occursIn (if onPoints then pointsOfUnits name else name)

end SegmentTest

inductive Segment
  | globstar
  | text (units : List Nat)
  | pattern (spelled : Spelled) (test : SegmentTest)

structure SegmentError where
  source : List Nat
  onPoints : Bool
  cause : Regex.ReadError
deriving DecidableEq, Repr

namespace SegmentError

def message (e : SegmentError) : String :=
  "Invalid regular expression: /^" ++ String.ofList (textOfUnits e.source) ++ "$/" ++
    (if e.onPoints then "u" else "") ++ ": " ++ e.cause.message

end SegmentError

def unprotected : List Nat -> List Nat
  | [] => []
  | [u] => [u]
  | u :: v :: rest =>
      if u = unitOf '\\' then v :: unprotected rest else u :: unprotected (v :: rest)

namespace Segment

def read (segment : List Nat) : Except SegmentError Segment :=
  if segment = unitsOf "**" then .ok .globstar
  else
    let parts := treeOf segment
    let s := Spelled.concat (spellParts true true true parts)
    if s.isPattern then
      let source := guardFor parts s.source ++ s.source
      let whole := unitOf '^' :: (source ++ [unitOf '$'])
      match Regex.read s.onPoints whole with
      | .ok r =>
          let test := (SegmentTest.shortcut? segment).getD (.regex r s.onPoints)
          .ok (.pattern { s with source := source } test)
      | .error cause => .error ⟨source, s.onPoints, cause⟩
    else .ok (.text (unprotected s.source))

def accepts (s : Segment) (name : List Nat) : Bool :=
  match s with
  | globstar => false
  | text units => name == units
  | pattern _ test => test.accepts name

end Segment

end Glob
end CamelSpell
