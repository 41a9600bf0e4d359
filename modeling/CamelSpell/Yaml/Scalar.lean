import CamelSpell.Number.Literal
import CamelSpell.Unicode.Units
import CamelSpell.Yaml.Cursor

/-!
# Scalars of YAML

A scalar is plain, quoted, or a block of lines.  Lines of plain and quoted scalars are folded: one
end of line becomes a space, and each further one is kept.  Every reader answers `none` if the text
is malformed.
-/

namespace CamelSpell
namespace Yaml

def isPrintable (c : Char) : Bool :=
  let n := c.toNat
  !(n ≤ 0x08 || n = 0x0B || n = 0x0C || (0x0E ≤ n && n ≤ 0x1F) || (0x7F ≤ n && n ≤ 0x84) ||
    (0x86 ≤ n && n ≤ 0x9F) || n = 0xFFFE || n = 0xFFFF)

def isQuotable (c : Char) : Bool :=
  c = '\t' || 0x20 ≤ c.toNat

def piece? (text : Text) (allowed : Char -> Bool) (first last : Nat) : Option (List Char) :=
  let chars := text.slice first last
  if chars.all allowed then some chars else none

def folded (breaks : Nat) : List Char :=
  if breaks = 1 then [' '] else List.replicate (breaks - 1) '\n'

/-!
## Plain scalars
-/

def startsPlain (inFlow : Bool) (c following : Char) : Bool :=
  if isGap c || isFlowMark c || "#&*!|>'\"%@\x60".toList.contains c then false
  else if c = '?' || c = '-' then !(isGap following || (inFlow && isFlowMark following))
  else true

/-- The rest of a plain scalar.  `first` and `last` bound the piece that is being read, `from_` is
the line on which the last piece ended if a new line has been begun since, and `read` holds the
pieces so far, last first. -/
def readPlainFrom (text : Text) (indent : Int) (inFlow : Bool) :
    Nat -> Cursor -> Nat -> Nat -> Option Nat -> List (List Char) -> Option (List Char × Cursor)
  | 0, _, _, _, _, _ => none
  | fuel + 1, c, first, last, from_, read =>
      let d := c.char text
      let finish (c : Cursor) : Option (List Char × Cursor) :=
        (piece? text isPrintable first last).map fun p => ((p :: read).reverse.flatten, c)
      let ends :=
        c.position ≥ text.size ||
        (if d = ':' then
          let following := c.peek text 1
          isGap following || (inFlow && isFlowMark following)
        else if d = '#' then isGap (text.at (c.position - 1))
        else c.atSeparator text || (inFlow && isFlowMark d))
      if ends then finish c
      else if isBreak d then
        let next := c.separate text false
        if indent ≤ next.indent then
          readPlainFrom text indent inFlow fuel next first last (some c.line) read
        else finish { c with position := last, tabbed := next.tabbed }
      else
        match from_ with
        | some line =>
            match piece? text isPrintable first last with
            | none => none
            | some p =>
                let last := if isSpace d then c.position else c.position + 1
                readPlainFrom text indent inFlow fuel (c.move 1) c.position last none
                  (folded (c.line - line) :: p :: read)
        | none =>
            let last := if isSpace d then last else c.position + 1
            readPlainFrom text indent inFlow fuel (c.move 1) first last none read

def readPlain (text : Text) (indent : Int) (inFlow : Bool) (c : Cursor) :
    Option (Option (List Char × Cursor)) :=
  if startsPlain inFlow (c.char text) (c.peek text 1) then
    (readPlainFrom text indent inFlow (text.size + 2) c c.position c.position none []).map
      fun (chars, past) => if chars.isEmpty then none else some (chars, past)
  else some none

/-!
## Quoted scalars

A quoted scalar is read in code units, since an escape sequence may give half of a surrogate pair.
The units so far are kept in pieces, last first, under the name `read`; `first` and `last` bound the
open piece, without the spaces at its end.
-/

def simpleEscape? (c : Char) : Option Nat :=
  match c with
  | '0' => some 0x00
  | 'a' => some 0x07
  | 'b' => some 0x08
  | 't' => some 0x09
  | '\t' => some 0x09
  | 'n' => some 0x0A
  | 'v' => some 0x0B
  | 'f' => some 0x0C
  | 'r' => some 0x0D
  | 'e' => some 0x1B
  | ' ' => some 0x20
  | '"' => some 0x22
  | '/' => some 0x2F
  | '\\' => some 0x5C
  | 'N' => some 0x85
  | '_' => some 0xA0
  | 'L' => some 0x2028
  | 'P' => some 0x2029
  | _ => none

def hexLength? (c : Char) : Option Nat :=
  match c with
  | 'x' => some 2
  | 'u' => some 4
  | 'U' => some 8
  | _ => none

def unitsOfNumber (n : Nat) : List Nat :=
  if n < 0x10000 || 0x80000000 ≤ n then [n % 0x10000]
  else [(0xD800 + (n - 0x10000) / 0x400) % 0x10000, 0xDC00 + (n - 0x10000) % 0x400]

def readEscape (text : Text) (c : Cursor) : Option (List Nat × Cursor) :=
  let d := c.char text
  if isBreak d then some ([], c.separate text false)
  else
    match simpleEscape? d with
    | some n => some ([n], c.move 1)
    | none =>
        match hexLength? d with
        | none => none
        | some length =>
            let digits := text.slice (c.position + 1) (c.position + 1 + length)
            if digits.length < length then none
            else (Number.digits? 16 digits).map fun n => (unitsOfNumber n, c.move (length + 1))

def readQuotedFrom (text : Text) (mark : Char) :
    Nat -> Cursor -> Nat -> Nat -> List (List Nat) -> Option (List Char × Cursor)
  | 0, _, _, _, _ => none
  | fuel + 1, c, first, last, read =>
      let d := c.char text
      let piece (last : Nat) := (piece? text isQuotable first last).map Unicode.units
      if c.position ≥ text.size then none
      else if d = mark then
        match piece c.position with
        | none => none
        | some p =>
            if mark = '\'' && c.peek text 1 = mark then
              readQuotedFrom text mark fuel (c.move 2) (c.position + 1) (c.position + 2) (p :: read)
            else some (Unicode.textOfUnits (p :: read).reverse.flatten, c.move 1)
      else if d = '\\' && mark = '"' then
        match piece c.position, readEscape text (c.move 1) with
        | some p, some (us, past) =>
            readQuotedFrom text mark fuel past past.position past.position (us :: p :: read)
        | _, _ => none
      else if isBreak d then
        match piece last with
        | none => none
        | some p =>
            let past := c.separate text false
            readQuotedFrom text mark fuel past past.position past.position
              (Unicode.units (folded (past.line - c.line)) :: p :: read)
      else if c.atSeparator text then none
      else
        let last := if isSpace d then last else c.position + 1
        readQuotedFrom text mark fuel (c.move 1) first last read

def readQuoted (text : Text) (c : Cursor) : Option (Option (List Char × Cursor)) :=
  let mark := c.char text
  if mark = '\'' || mark = '"' then
    let inside := c.move 1
    (readQuotedFrom text mark (text.size + 2) inside inside.position inside.position []).map some
  else some none

/-!
## Blocks of lines

The head of a block gives its chomping and perhaps its indentation.  Else the lines up to the first
one that is not empty settle it; a block whose first line is not indented must give its indentation
in its head.
-/

inductive Chomping
  | clip
  | strip
  | keep
deriving DecidableEq, Repr

structure BlockHead where
  chomping : Chomping
  width : Option Nat

def readBlockMarks (text : Text) : Nat -> BlockHead -> Cursor -> Option (BlockHead × Cursor)
  | 0, _, _ => none
  | fuel + 1, head, c =>
      let d := c.char text
      if d = '+' || d = '-' then
        if head.chomping = .clip then
          let chomping := if d = '+' then Chomping.keep else Chomping.strip
          readBlockMarks text fuel { head with chomping := chomping } (c.move 1)
        else none
      else if d.isDigit then
        if d = '0' || head.width.isSome then none
        else
          let width := d.toNat - '0'.toNat
          readBlockMarks text fuel { head with width := some width } (c.move 1)
      else some (head, c)

/-- A block that is being read: the indentation of its lines and whether it is settled, the number
of empty lines since the last line, whether that one was indented further, and the text so far in
pieces, last first. -/
structure Block where
  indent : Int
  settled : Bool
  begun : Bool
  emptyLines : Nat
  further : Bool
  read : List (List Char)

namespace Block

def breaks (b : Block) : List Char :=
  List.replicate (if b.begun then b.emptyLines + 1 else b.emptyLines) '\n'

def joint (b : Block) (folds : Bool) (d : Char) : List Char :=
  if !folds || isSpace d then b.breaks
  else if b.further then List.replicate (b.emptyLines + 1) '\n'
  else if b.emptyLines = 0 then (if b.begun then [' '] else [])
  else List.replicate b.emptyLines '\n'

def ending (b : Block) (chomping : Chomping) : List Char :=
  match chomping with
  | .keep => b.breaks
  | .clip => if b.begun then ['\n'] else []
  | .strip => []

end Block

def passBlockIndent (text : Text) (b : Block) : Nat -> Cursor -> Cursor
  | 0, c => c
  | fuel + 1, c =>
      if (!b.settled || (c.indent : Int) < b.indent) && c.char text = ' ' then
        passBlockIndent text b fuel { c.move 1 with indent := c.indent + 1 }
      else c

def readBlockLines (text : Text) (folds : Bool) (chomping : Chomping) :
    Nat -> Block -> Cursor -> Option (List Char × Cursor)
  | 0, _, _ => none
  | fuel + 1, b, c =>
      if c.position ≥ text.size then some (b.read.reverse.flatten, c)
      else if !isBreak (c.char text) then none
      else
        let c := passBlockIndent text b (text.size + 1) { c.passBreak text with indent := 0 }
        let b :=
          if !b.settled && b.indent < c.indent then { b with indent := c.indent } else b
        let d := c.char text
        if isBreak d then
          readBlockLines text folds chomping fuel { b with emptyLines := b.emptyLines + 1 } c
        else if !b.settled && b.indent = 0 then none
        else if (c.indent : Int) < b.indent then
          some ((b.ending chomping :: b.read).reverse.flatten, c)
        else
          let past := c.skip text fun e => !isBreak e
          match piece? text isPrintable c.position past.position with
          | none => none
          | some line =>
              let further := if folds then isSpace d else b.further
              readBlockLines text folds chomping fuel
                ⟨b.indent, true, true, 0, further, line :: b.joint folds d :: b.read⟩ past

def readBlock (text : Text) (indent : Int) (c : Cursor) : Option (Option (List Char × Cursor)) :=
  let mark := c.char text
  if mark = '|' || mark = '>' then
    match readBlockMarks text (text.size + 2) ⟨.clip, none⟩ (c.move 1) with
    | none => none
    | some (head, c) =>
        let past := c.skip text isSpace
        let past :=
          if past.position ≠ c.position && past.char text = '#' then
            past.skip text fun e => !isBreak e
          else past
        let indent := match head.width with
          | some width => indent + width - 1
          | none => indent
        let block : Block := ⟨indent, head.width.isSome, false, 0, false, []⟩
        (readBlockLines text (mark = '>') head.chomping (text.size + 2) block past).map some
  else some none

end Yaml
end CamelSpell
