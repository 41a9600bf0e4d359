/-!
# Word lists

A word list has one entry on each line.  A line may end with a carriage return, which does not
belong to the entry, and lines without an entry are passed over.
-/

namespace CamelSpell
namespace WordList

/-- The parts of a text between its line feeds; `line` holds the characters of the open line, last
first, and `closed` the lines before it, last first. -/
def linesOnto (closed : List (List Char)) (line : List Char) : List Char -> List (List Char)
  | [] => (line.reverse :: closed).reverse
  | c :: rest =>
      if c = '\n' then linesOnto (line.reverse :: closed) [] rest
      else linesOnto closed (c :: line) rest

def lines (text : List Char) : List (List Char) :=
  linesOnto [] [] text

def chomp (line : List Char) : List Char :=
  match line.reverse with
  | '\r' :: before => before.reverse
  | _ => line

def parse (text : List Char) : List (List Char) :=
  ((lines text).map chomp).filter fun entry => !entry.isEmpty

end WordList
end CamelSpell
