import CamelSpell.CommandLine.Arguments
import CamelSpell.Json.Printer
import CamelSpell.Unicode.Blank

/-!
# Help pages

A help page shows how a program is called and lists its arguments, options and commands in two
columns.  Descriptions are broken between words so that they fit the page; a word that is too long
for its column is kept whole.
-/

namespace CamelSpell
namespace CommandLine

structure HelpItem where
  term : String
  description : String

structure HelpPage where
  usage : String
  description : String
  arguments : List HelpItem
  options : List HelpItem
  commands : List HelpItem

/-!
## Breaking of text

A text is broken behind separators into pieces of less than some width; white space at the end of
a line is left out.
-/

def isSeparator (c : Char) : Bool :=
  Unicode.isBlank c || c = '\u200B'

def endsLine (c : Char) : Bool :=
  c = '\n' || c = '\r' || c = '\u2028' || c = '\u2029'

/-- The longest beginning of a text that fits and can be broken off, with its separator, and the
rest.  `room` is how many code units are left, `taken` holds what has been tried, last first, and
`best` is the longest one so far. -/
def longestPiece (room : Nat) (taken : List Char) (best : Option (List Char × List Char)) :
    List Char -> Option (List Char × List Char)
  | [] => if taken.isEmpty then best else some (taken.reverse, [])
  | c :: rest =>
      let best :=
        if !taken.isEmpty && isSeparator c then some ((c :: taken).reverse, rest) else best
      let length := (Unicode.unitsOfChar c).length
      if endsLine c || room < length then best
      else longestPiece (room - length) (c :: taken) best rest

def firstWord (text : List Char) : List Char × List Char :=
  let isPart (c : Char) : Bool := !isSeparator c
  let word := text.takeWhile isPart
  let rest := text.dropWhile isPart
  (word ++ rest.take 1, rest.drop 1)

def pieces (width : Nat) : Nat -> List Char -> List (List Char)
  | 0, _ => []
  | _, [] => []
  | fuel + 1, c :: rest =>
      match longestPiece (width - 1) [] none (c :: rest) with
      | some (piece, behind) => piece :: pieces width fuel behind
      | none =>
          if isSeparator c then pieces width fuel rest
          else
            let (word, behind) := firstWord (c :: rest)
            word :: pieces width fuel behind

def trimEnd (text : List Char) : List Char :=
  (text.reverse.dropWhile Unicode.isBlank).reverse

def wrap (width : Nat) (text : String) : List String :=
  (pieces width (text.length + 1) text.toList).map fun piece => String.ofList (trimEnd piece)

/-!
## Pages

Lists have a heading and an empty line behind them; a list without items is left out.
-/

def pageWidth : Nat := 80

def gap : Nat := 2

def spaces (n : Nat) : String := String.ofList (List.replicate n ' ')

def itemLines (termWidth : Nat) (item : HelpItem) : List String :=
  let indent := termWidth + gap
  let first := item.term ++ spaces (indent - Unicode.unitLength item.term.toList)
  match wrap (pageWidth - gap - indent) item.description with
  | [] => [first]
  | line :: rest => (first ++ line) :: rest.map fun line => spaces indent ++ line

def listLines (termWidth : Nat) (heading : String) (items : List HelpItem) : List String :=
  if items.isEmpty then []
  else
    heading :: (items.flatMap (itemLines termWidth)).map (fun line => spaces gap ++ line) ++ [""]

namespace HelpPage

def termWidth (h : HelpPage) : Nat :=
  (h.arguments ++ h.options ++ h.commands).foldl
    (fun width item => max width (Unicode.unitLength item.term.toList)) 0

def render (h : HelpPage) : String :=
  let items := listLines h.termWidth
  String.intercalate "\n" <|
    ["Usage: " ++ h.usage, ""] ++ wrap pageWidth h.description ++ [""] ++
      items "Arguments:" h.arguments ++ items "Options:" h.options ++ items "Commands:" h.commands

end HelpPage

def helpDescription : String := "display help for command"

namespace OptionSpec

def helpItem (o : OptionSpec) : HelpItem :=
  let shown := match o.shown with
    | some v => " (default: " ++ Json.compact v ++ ")"
    | none => ""
  ⟨o.flags, o.description ++ shown⟩

end OptionSpec

def optionItems (options : List OptionSpec) : List HelpItem :=
  options.map OptionSpec.helpItem ++ [⟨"-h, --help", helpDescription⟩]

end CommandLine
end CamelSpell
