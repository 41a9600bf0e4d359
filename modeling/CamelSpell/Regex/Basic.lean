import CamelSpell.Unicode.RangeTable

/-!
# Regular expressions

Expressions over numbers, which are the code units or the code points of a text.  Matching moves
whole sets of positions at once: `ends` says where an expression can stop when it starts at one of
the given positions.  No result depends on the order in which alternatives are tried.  An exception
`except r` takes no characters, and it matches where `r` does not.
-/

namespace CamelSpell

open Unicode

inductive CharSpan
  | points (first last : Nat)
  | table (t : RangeTable)

structure CharSet where
  negated : Bool
  spans : List CharSpan

inductive Regex
  | empty
  | set (s : CharSet)
  | textStart
  | textEnd
  | seq (first second : Regex)
  | alt (left right : Regex)
  | opt (r : Regex)
  | star (r : Regex)
  | plus (r : Regex)
  | except (r : Regex)

namespace CharSpan

def covers : CharSpan -> Nat -> Bool
  | points first last, n => first ≤ n && n ≤ last
  | table t, n => t.covers n

end CharSpan

namespace CharSet

def accepts (s : CharSet) (n : Nat) : Bool :=
  (s.spans.any fun span => span.covers n) != s.negated

def notLineEnd : CharSet :=
  ⟨true, [.points 0x0A 0x0A, .points 0x0D 0x0D, .points 0x2028 0x2029]⟩

end CharSet

namespace Regex

def merge : List Nat -> List Nat -> List Nat
  | [], bs => bs
  | as, [] => as
  | a :: as, b :: bs =>
      if a < b then a :: merge as (b :: bs)
      else if b < a then b :: merge (a :: as) bs
      else a :: merge as bs
termination_by as bs => as.length + bs.length

def without : List Nat -> List Nat -> List Nat
  | [], _ => []
  | as, [] => as
  | a :: as, b :: bs =>
      if a < b then a :: without as (b :: bs)
      else if b < a then without (a :: as) bs
      else without as bs
termination_by as bs => as.length + bs.length

/-- The positions that any number of steps reaches.  Each round visits the positions that are new,
so that there are no more rounds than positions. -/
def reach (step : List Nat -> List Nat) : Nat -> List Nat -> List Nat -> List Nat
  | 0, visited, _ => visited
  | _ + 1, visited, [] => visited
  | rounds + 1, visited, frontier =>
      let fresh := without (step frontier) visited
      reach step rounds (merge visited fresh) fresh

def ends (text : Array Nat) : Regex -> List Nat -> List Nat
  | empty, starts => starts
  | set s, starts => (starts.filter fun i => (text[i]?).any s.accepts).map (· + 1)
  | textStart, starts => starts.filter (· == 0)
  | textEnd, starts => starts.filter (· == text.size)
  | seq first second, starts => ends text second (ends text first starts)
  | alt left right, starts => merge (ends text left starts) (ends text right starts)
  | opt r, starts => merge starts (ends text r starts)
  | star r, starts => reach (ends text r) (text.size + 1) starts starts
  | plus r, starts =>
      let once := ends text r starts
      reach (ends text r) (text.size + 1) once once
  | except r, starts => starts.filter fun i => (ends text r [i]).isEmpty

def occursIn (r : Regex) (text : List Nat) : Bool :=
  !(ends text.toArray r (List.range (text.length + 1))).isEmpty

end Regex
end CamelSpell
