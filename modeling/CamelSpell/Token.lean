import CamelSpell.Unicode.LetterCase

/-!
# Tokens and their sub-words

A token is a run of word characters, for instance an identifier.  Its letter case shows the words
that it is made of: `ABCMethod` is `ABC` and `Method`, `leftRight` is `left` and `Right`, `aBig` is
`a` and `Big`.

The token is read from left to right.  The second character of a sub-word decides what kind it is:

* a lower-case letter followed by a capital is a sub-word of its own;
* any other character followed by a capital opens an acronym, which lasts until a lower-case letter
  shows that the last character of the acronym begins the next sub-word;
* everything else is a plain sub-word, which lasts until the next capital.
-/

namespace CamelSpell

open Unicode

structure SubWord where
  text : List Char
  offset : Nat
deriving DecidableEq, Repr

inductive Reading
  | nothing
  | single (c : Char)
  | plain (read : List Char)
  | acronym (last : Char) (before : List Char)
deriving DecidableEq, Repr

namespace Reading

def reversed : Reading -> List Char
  | nothing => []
  | single c => [c]
  | plain read => read
  | acronym last before => last :: before

end Reading

/-- A token read up to some point: where the open sub-word begins, the open sub-word, and the
closed ones, last first. -/
structure Splitter where
  start : Nat
  reading : Reading
  closed : List SubWord
deriving DecidableEq, Repr

namespace Splitter

def empty : Splitter := ⟨0, .nothing, []⟩

def close (s : Splitter) (reversed : List Char) (reading : Reading) : Splitter :=
  ⟨s.start + reversed.length, reading, ⟨reversed.reverse, s.start⟩ :: s.closed⟩

def step (s : Splitter) (c : Char) : Splitter :=
  match s.reading with
  | .nothing => { s with reading := .single c }
  | .single a =>
      if isUppercase c then
        if isLowercase a then s.close [a] (.single c)
        else { s with reading := .acronym c [a] }
      else { s with reading := .plain [c, a] }
  | .plain read =>
      if isUppercase c then s.close read (.single c)
      else { s with reading := .plain (c :: read) }
  | .acronym last before =>
      if isLowercase c then s.close before (.plain [c, last])
      else { s with reading := .acronym c (last :: before) }

def finish (s : Splitter) : List SubWord :=
  match s.reading.reversed with
  | [] => s.closed.reverse
  | reversed => (⟨reversed.reverse, s.start⟩ :: s.closed).reverse

end Splitter

def splitToken (token : List Char) : List SubWord :=
  (token.foldl Splitter.step .empty).finish

end CamelSpell
