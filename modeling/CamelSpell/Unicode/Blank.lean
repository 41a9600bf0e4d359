import CamelSpell.Unicode.RangeTable

/-!
# White space

The characters that separate words wherever text is trimmed: the white space of Unicode together
with the byte order mark, and without the control character U+0085.
-/

namespace CamelSpell
namespace Unicode

def blankRanges : RangeTable :=
  [(0x9, 0xd), (0x20, 0x20), (0xa0, 0xa0), (0x1680, 0x1680), (0x2000, 0x200a), (0x2028, 0x2029),
   (0x202f, 0x202f), (0x205f, 0x205f), (0x3000, 0x3000), (0xfeff, 0xfeff)]

def isBlank (c : Char) : Bool :=
  memTable blankRanges c

def trimBlank (text : List Char) : List Char :=
  ((text.dropWhile isBlank).reverse.dropWhile isBlank).reverse

theorem isBlank_newline : isBlank '\n' = true := by decide

end Unicode
end CamelSpell
