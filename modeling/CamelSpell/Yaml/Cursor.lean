/-!
# Places in YAML text

A document is read by moving a cursor over its characters.  The cursor knows the line it is on, how
far that line is indented, and whether a tab has been passed in front of its first word.  Behind the
last character the text goes on with NUL characters, which no document may contain.
-/

namespace CamelSpell
namespace Yaml

abbrev Text := Array Char

structure Cursor where
  position : Nat
  line : Nat
  lineStart : Nat
  indent : Nat
  tabbed : Bool
deriving DecidableEq, Repr

def Text.at (text : Text) (i : Nat) : Char :=
  text.getD i '\x00'

def Text.slice (text : Text) (first last : Nat) : List Char :=
  (text.extract first last).toList

def isBreak (c : Char) : Bool :=
  c = '\n' || c = '\r'

def isSpace (c : Char) : Bool :=
  c = ' ' || c = '\t'

def isGap (c : Char) : Bool :=
  isSpace c || isBreak c

def isFlowMark (c : Char) : Bool :=
  c = ',' || c = '[' || c = ']' || c = '\x7b' || c = '\x7d'

namespace Cursor

def start : Cursor := ⟨0, 0, 0, 0, false⟩

def move (c : Cursor) (n : Nat) : Cursor :=
  { c with position := c.position + n }

def char (c : Cursor) (text : Text) : Char :=
  text.at c.position

def peek (c : Cursor) (text : Text) (n : Nat) : Char :=
  text.at (c.position + n)

def skipWhile (text : Text) (test : Char -> Bool) : Nat -> Cursor -> Cursor
  | 0, c => c
  | fuel + 1, c =>
      if c.position < text.size && test (c.char text) then skipWhile text test fuel (c.move 1)
      else c

def skip (c : Cursor) (text : Text) (test : Char -> Bool) : Cursor :=
  skipWhile text test (text.size + 1) c

def passBreak (c : Cursor) (text : Text) : Cursor :=
  let length := if c.char text = '\r' && c.peek text 1 = '\n' then 2 else 1
  let position := c.position + length
  { c with position := position, line := c.line + 1, lineStart := position, tabbed := false }

def passIndent (c : Cursor) (text : Text) : Cursor :=
  let past := c.skip text (· == ' ')
  { past with indent := past.position - c.position }

def passGaps (text : Text) (comments : Bool) : Nat -> Cursor -> Cursor
  | 0, c => c
  | fuel + 1, c =>
      let past := c.skip text isSpace
      let tab := (text.slice c.position past.position).contains '\t'
      let past := { past with tabbed := c.tabbed || tab }
      let past :=
        if comments && past.char text = '#' then past.skip text fun d => !isBreak d else past
      if isBreak (past.char text) then
        passGaps text comments fuel ((past.passBreak text).passIndent text)
      else past

def separate (c : Cursor) (text : Text) (comments : Bool) : Cursor :=
  passGaps text comments (text.size + 1) c

def atSeparator (c : Cursor) (text : Text) : Bool :=
  let d := c.char text
  let behind := c.peek text 3
  c.position = c.lineStart && (d = '-' || d = '.') && c.peek text 1 = d && c.peek text 2 = d &&
    (behind = '\x00' || isGap behind)

end Cursor
end Yaml
end CamelSpell
