import CamelSpell.Unicode.CaseMap
import CamelSpell.Unicode.SigmaContext

/-!
# Case mapping of words

Lowering a word lowers its characters one by one, except that a capital sigma looks at its
neighbours: it takes its final form at the end of a word.  Raising needs no context.
-/

namespace CamelSpell
namespace Unicode

def lowerBetween (before : List Char) (c : Char) (after : List Char) : List Char :=
  if c = 'Σ' then (if isFinalPosition before after then ['ς'] else ['σ']) else lowerChar c

/-- Lowers the characters that remain; `lowered` holds the result so far, last character first, and
`before` the characters already lowered, nearest first. -/
def lowerOnto (lowered before : List Char) : List Char -> List Char
  | [] => lowered.reverse
  | c :: rest => lowerOnto ((lowerBetween before c rest).reverse ++ lowered) (c :: before) rest

def lower (word : List Char) : List Char :=
  lowerOnto [] [] word

def upper (word : List Char) : List Char :=
  word.flatMap upperChar

def lowerString (text : String) : String :=
  String.ofList (lower text.toList)

end Unicode
end CamelSpell
