import CamelSpell.Unicode.Alphabetic
import CamelSpell.Unicode.Blank
import CamelSpell.Unicode.Casing

/-!
# Dictionaries

A dictionary is built from a list of entries and answers two questions: whether a lower-cased word
is accepted, and whether a character may be part of a token.  The second set grows with the
entries, so that `don't` brings the apostrophe along.  White space never becomes part of a token.
-/

namespace CamelSpell

open Unicode

/-- Accepted words in lower case, and the characters that the entries add to the letters.  Both
lists are free of repetitions and stand in the order of insertion, the newest first. -/
structure Dictionary where
  words : List (List Char)
  characters : List Char
deriving DecidableEq, Repr

namespace Dictionary

def empty : Dictionary := ⟨[], []⟩

def capital? (c : Char) : Option Char :=
  match upperChar c with
  | [u] => some u
  | _ => none

def insertCharacter (characters : List Char) (c : Char) : List Char :=
  if isBlank c then characters
  else
    match capital? c with
    | some u => (characters.insert c).insert u
    | none => characters.insert c

def insert (d : Dictionary) (entry : List Char) : Dictionary :=
  if entry = [] then d
  else ⟨d.words.insert (lower entry), entry.foldl insertCharacter d.characters⟩

def ofEntries (entries : List (List Char)) : Dictionary :=
  entries.foldl insert empty

def extend (d : Dictionary) (entries : List (List Char)) : Dictionary :=
  entries.foldl insert d

def has (d : Dictionary) (word : List Char) : Bool :=
  d.words.contains word

def isWordCharacter (d : Dictionary) (c : Char) : Bool :=
  d.characters.contains c || isAlphabetic c

def size (d : Dictionary) : Nat :=
  d.words.length

def sortedCharacters (d : Dictionary) : List Char :=
  d.characters.mergeSort fun a b => a ≤ b

end Dictionary
end CamelSpell
