import CamelSpell.Dictionary.English
import CamelSpell.Failure
import CamelSpell.FileSystem.Access
import CamelSpell.Unicode.Utf8
import CamelSpell.WordList

/-!
# Dictionaries from files

A dictionary is read from a file with one entry on each line.  Bytes that are no UTF-8 are replaced
and never refused.
-/

namespace CamelSpell
namespace Dictionary

def load (fs : FileSystem) (p : Path) : Except Failure Dictionary :=
  match fs.read p with
  | .ok bytes => .ok (ofEntries (WordList.parse (Utf8.lenient bytes).toList))
  | .error e => .error (.unreadableDictionary p e)

def loadOrEnglish (fs : FileSystem) : Option Path -> Except Failure Dictionary
  | some p => load fs p
  | none => .ok english

end Dictionary
end CamelSpell
