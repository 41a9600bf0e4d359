import CamelSpell.Glob.Bracket

/-!
# Groups of alternatives

`@(a|b)` stands for one of its alternatives, `?(a|b)` for at most one, `*(a|b)` and `+(a|b)` for
several of them in a row, and `!(a|b)` for a text that none of them begins.  This module reads a
path segment of a pattern into a tree of texts and groups, simplifies groups that hold nothing but
another group, and makes the alternatives of `!(…)` say what has to follow them.
-/

namespace CamelSpell
namespace Glob

open Unicode

inductive GroupKind
  | one
  | optional
  | many
  | some
  | except
deriving DecidableEq, Repr

namespace GroupKind

def ofUnit? (u : Nat) : Option GroupKind :=
  if u = unitOf '@' then Option.some one
  else if u = unitOf '?' then Option.some optional
  else if u = unitOf '*' then Option.some many
  else if u = unitOf '+' then Option.some GroupKind.some
  else if u = unitOf '!' then Option.some except
  else none

def mark : GroupKind -> Nat
  | one => unitOf '@'
  | optional => unitOf '?'
  | many => unitOf '*'
  | some => unitOf '+'
  | except => unitOf '!'

/-- Whether the alternatives of a group that is itself a whole alternative can take the place of
that alternative. -/
def adopts : GroupKind -> GroupKind -> Bool
  | except, one => true
  | optional, optional | optional, one => true
  | one, one => true
  | many, many | many, some | many, optional | many, one => true
  | some, some | some, one => true
  | _, _ => false

def adoptsWithEmpty : GroupKind -> GroupKind -> Bool
  | except, optional => true
  | one, optional => true
  | some, optional | some, many => true
  | _, _ => false

def absorbs : GroupKind -> GroupKind -> Bool
  | except, optional | except, one => true
  | optional, optional | optional, one => true
  | one, optional | one, one => true
  | many, many | many, some | many, optional | many, one => true
  | some, some | some, one | some, optional | some, many => true
  | _, _ => false

def combined? : GroupKind -> GroupKind -> Option GroupKind
  | except, except => Option.some one
  | optional, many | optional, some => Option.some many
  | one, kind => Option.some kind
  | some, optional | some, many => Option.some many
  | _, _ => none

end GroupKind

/-- What is known of a group besides its alternatives: whether the last of them is empty or ends
with a group, as it was written, and how often they are made to say what follows the group,
`asExcept` times while it has the kind `!`, and `always` whatever its kind. -/
structure GroupInfo where
  kind : GroupKind
  endsEmpty : Bool
  asExcept : Nat
  always : Nat

mutual

inductive Node
  | text (units : List Nat)
  | unfinished (units : List Nat)
  | group (info : GroupInfo) (branches : List Branch)

/-- An alternative of a group.  `leading` tells the first alternative as it was written; `always`
counts how often it is made to say what follows. -/
inductive Branch
  | mk (leading : Bool) (always : Nat) (parts : List Node)

end

namespace GroupInfo

def followCount (i : GroupInfo) : Nat :=
  (if i.kind = .except then i.asExcept else 0) + i.always

end GroupInfo

namespace Branch

def leading : Branch -> Bool
  | mk leading _ _ => leading

def always : Branch -> Nat
  | mk _ always _ => always

def parts : Branch -> List Node
  | mk _ _ parts => parts

def addAlways (n : Nat) : Branch -> Branch
  | mk leading always parts => mk leading (always + n) parts

def empty : Branch := mk false 0 []

def onlyGroup? : Branch -> Option (GroupInfo × List Branch)
  | mk _ _ [.group info branches] => some (info, branches)
  | _ => none

end Branch

/-!
## Reading

Groups do not begin inside of brackets, so a reader keeps track of where it stands with respect to
them.  Groups are read up to a depth; deeper ones count only if they do not add a level.  A group
that is not closed stands for the rest of the segment as it is written.
-/

inductive BracketPlace
  | outside
  | first
  | second (negated : Bool)
  | later
deriving DecidableEq, Repr

namespace BracketPlace

def skip : BracketPlace -> BracketPlace
  | outside => outside
  | first => second false
  | _ => later

def next (p : BracketPlace) (u : Nat) : BracketPlace :=
  match p with
  | outside => if u = unitOf '[' then first else outside
  | first => second (isOneOf "!^" u)
  | second negated => if u = unitOf ']' && !negated then outside else later
  | later => if u = unitOf ']' then outside else later

end BracketPlace

/-- A sequence of parts that is being read.  `parts` and `text` are last first. -/
structure Sequence where
  parts : List Node
  text : List Nat
  place : BracketPlace
  protecting : Bool

namespace Sequence

def start : Sequence := ⟨[], [], .outside, false⟩

def add (s : Sequence) (u : Nat) : Sequence :=
  { s with text := u :: s.text }

def close (s : Sequence) : Sequence :=
  if s.text.isEmpty then s else { s with parts := .text s.text.reverse :: s.parts, text := [] }

def push (s : Sequence) (n : Node) : Sequence :=
  let s := s.close
  { s with parts := n :: s.parts }

def toList (s : Sequence) : List Node :=
  s.close.parts.reverse

def take? (s : Sequence) (u : Nat) : Option Sequence :=
  if s.protecting || u = unitOf '\\' then
    some { s.add u with protecting := !s.protecting, place := s.place.skip }
  else if s.place ≠ .outside || u = unitOf '[' then
    some { s.add u with place := s.place.next u }
  else none

end Sequence

def groupStart? (u : Nat) (rest : List Nat) : Option (GroupKind × List Nat) :=
  match GroupKind.ofUnit? u, rest with
  | some kind, p :: rest => if p = unitOf '(' then some (kind, rest) else none
  | _, _ => none

def depthLimit : Nat := 2

def readGroup (kind : GroupKind) (depth : Nat) :
    Nat -> List (List Node) -> Sequence -> List Nat -> Option (Node × List Nat)
  | 0, _, _, _ => none
  | _ + 1, _, _, [] => none
  | fuel + 1, branches, s, u :: rest =>
      match s.take? u with
      | some s => readGroup kind depth fuel branches s rest
      | none =>
          match groupStart? u rest with
          | some (inner, after) =>
              if depth ≤ depthLimit || kind.absorbs inner then
                let deeper := if kind.absorbs inner then depth else depth + 1
                match readGroup inner deeper fuel [] .start after with
                | none => none
                | some (node, rest) => readGroup kind depth fuel branches (s.push node) rest
              else readGroup kind depth fuel branches (s.add u) rest
          | none =>
              if u = unitOf '|' then
                readGroup kind depth fuel (s.toList :: branches) { s.close with parts := [] } rest
              else if u = unitOf ')' then
                let info : GroupInfo :=
                  ⟨kind, s.text.isEmpty, if kind = .except then 1 else 0, 0⟩
                let read := (s.toList :: branches).reverse.map (Branch.mk true 0)
                some (.group info read, rest)
              else readGroup kind depth fuel branches (s.add u) rest

def readParts : Nat -> Sequence -> List Nat -> List Node
  | 0, s, _ => s.toList
  | _ + 1, s, [] => s.toList
  | fuel + 1, s, u :: rest =>
      match s.take? u with
      | some s => readParts fuel s rest
      | none =>
          match groupStart? u rest with
          | some (kind, after) =>
              match readGroup kind 1 (fuel + 1) [] .start after with
              | some (node, rest) => readParts fuel (s.push node) rest
              | none => (s.push (.unfinished (u :: rest))).toList
          | none => readParts fuel (s.add u) rest

def partsOf (segment : List Nat) : List Node :=
  readParts (segment.length + 1) .start segment

/-!
## Simplification

Passes over the alternatives of a group are repeated while they change something, but not without
bound.
-/

/-- One pass over the alternatives of a group.  `before` holds those that have been passed, last
first; `simplify` simplifies the groups inside of one. -/
def simplifyPass (simplify : Branch -> Branch) :
    Nat -> GroupInfo -> List Branch -> Bool -> List Branch -> GroupInfo × List Branch × Bool
  | 0, info, before, changed, rest => (info, before.reverse ++ rest, changed)
  | _ + 1, info, before, changed, [] => (info, before.reverse, changed)
  | fuel + 1, info, before, changed, branch :: rest =>
      let branch := simplify branch
      let keep := simplifyPass simplify fuel info (branch :: before) changed rest
      let adopt (inner : List Branch) :=
        match inner with
        | [] => simplifyPass simplify fuel info before true rest
        | first :: more =>
            simplifyPass simplify fuel info (first :: before) true (more ++ rest)
      match branch.onlyGroup? with
      | none => keep
      | some (innerInfo, inner) =>
          if info.kind.adopts innerInfo.kind then
            adopt (inner.map (Branch.addAlways innerInfo.followCount))
          else if info.kind.adoptsWithEmpty innerInfo.kind then
            adopt ((inner ++ [Branch.empty]).map (Branch.addAlways innerInfo.followCount))
          else if before.isEmpty && rest.isEmpty then
            match info.kind.combined? innerInfo.kind with
            | none => keep
            | some kind =>
                let info : GroupInfo := ⟨kind, false, info.asExcept, innerInfo.followCount⟩
                match inner with
                | [] => (info, [], true)
                | first :: more => simplifyPass simplify fuel info [first] true more
          else keep

def simplifyPasses (simplify : Branch -> Branch) (width : Nat) :
    Nat -> GroupInfo -> List Branch -> Node
  | 0, info, branches => .group info branches
  | passes + 1, info, branches =>
      let (info, branches, changed) := simplifyPass simplify width info [] false branches
      if changed then simplifyPasses simplify width passes info branches
      else .group info branches

def simplifyNode (width : Nat) : Nat -> Node -> Node
  | 0, n => n
  | depth + 1, .group info branches =>
      let simplify : Branch -> Branch
        | .mk leading always parts => .mk leading always (parts.map (simplifyNode width depth))
      simplifyPasses simplify width 10 info branches
  | _ + 1, n => n

/-!
## What follows an exception

What follows the node of an exception, outer levels included, is put behind each of its
alternatives as a copy.
-/

mutual

def Node.copy : Node -> Node
  | .group info branches => .group { info with endsEmpty := false } (copyBranches true branches)
  | .text units => .text units
  | .unfinished units => .unfinished units

def copyBranches (leading : Bool) : List Branch -> List Branch
  | [] => []
  | .mk _ always parts :: rest => .mk leading always (copyParts parts) :: copyBranches false rest

def copyParts : List Node -> List Node
  | [] => []
  | n :: rest => n.copy :: copyParts rest

end

mutual

/-- Makes the alternatives of exceptions say what follows them.  `following` is what follows the
node, outer levels included. -/
def Node.fill (following : List Node) : Node -> Node
  | .group info branches => .group info (fillBranches info.followCount following branches)
  | .text units => .text units
  | .unfinished units => .unfinished units

def fillBranches (count : Nat) (following : List Node) : List Branch -> List Branch
  | [] => []
  | .mk leading always parts :: rest =>
      let more := (List.replicate (count + always) (copyParts following)).flatten
      .mk leading always (fillParts following parts ++ more) :: fillBranches count following rest

def fillParts (following : List Node) : List Node -> List Node
  | [] => []
  | n :: rest =>
      let rest := fillParts following rest
      n.fill (rest ++ following) :: rest

end

def treeOf (segment : List Nat) : List Node :=
  let width := 2 * segment.length + 2
  fillParts [] ((partsOf segment).map (simplifyNode width width))

end Glob
end CamelSpell
