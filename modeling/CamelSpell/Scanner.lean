import CamelSpell.Dictionary
import CamelSpell.Token

/-!
# Scanning of text

The scanner reads text character by character, in pieces of any size, and keeps the open token, so
that a token which straddles two pieces is seen whole.  Lines and columns count from one, columns
in characters; every line feed ends a line.
-/

namespace CamelSpell

open Unicode

structure Rules where
  dictionary : Dictionary
  minLength : Nat
deriving DecidableEq, Repr

def defaultMinLength : Nat := 4

structure Misspelling where
  word : List Char
  line : Nat
  column : Nat
deriving DecidableEq, Repr

namespace Rules

def isIncorrect (r : Rules) (word : List Char) : Bool :=
  r.minLength ≤ word.length && !r.dictionary.has (lower word)

def mistakes (r : Rules) (token : List Char) : List SubWord :=
  (splitToken token).filter fun part => r.isIncorrect part.text

def hasMistake (r : Rules) (token : List Char) : Bool :=
  !(r.mistakes token).isEmpty

def misspellings (r : Rules) (token : List Char) (line column : Nat) : List Misspelling :=
  (r.mistakes token).map fun part => ⟨part.text, line, column + part.offset⟩

end Rules

/-- A text read up to some point: the open token, last character first, with its first column; the
line and column of the last character; and what has been flagged, last first. -/
structure Scanner where
  token : List Char
  tokenColumn : Nat
  line : Nat
  column : Nat
  flagged : List Misspelling
deriving DecidableEq, Repr

namespace Scanner

def start : Scanner := ⟨[], 0, 1, 0, []⟩

def closeToken (r : Rules) (s : Scanner) : Scanner :=
  match s.token with
  | [] => s
  | token =>
      { s with
        token := []
        flagged := (r.misspellings token.reverse s.line s.tokenColumn).reverse ++ s.flagged }

/-- Reads one character.  A token that ends the line is closed before the line is counted. -/
def step (r : Rules) (s : Scanner) (c : Char) : Scanner :=
  let s := { s with column := s.column + 1 }
  let s :=
    if r.dictionary.isWordCharacter c then
      { s with
        token := c :: s.token
        tokenColumn := if s.token.isEmpty then s.column else s.tokenColumn }
    else s.closeToken r
  if c = '\n' then { s with line := s.line + 1, column := 0 } else s

def push (r : Rules) (s : Scanner) (text : List Char) : Scanner :=
  text.foldl (step r) s

theorem push_append (r : Rules) (s : Scanner) (first second : List Char) :
    s.push r (first ++ second) = (s.push r first).push r second :=
  List.foldl_append

def report (s : Scanner) : List Misspelling :=
  s.flagged.reverse

end Scanner

def checkText (r : Rules) (text : List Char) : List Misspelling :=
  ((Scanner.start.push r text).closeToken r).report

end CamelSpell
