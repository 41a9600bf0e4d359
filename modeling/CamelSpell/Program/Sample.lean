/-!
# The sample configuration

What a new configuration file holds: rules against files that are not written by hand, and no words.
-/

namespace CamelSpell
namespace Program

def sampleExclusions : List String :=
  [".git", "node_modules", "dist", "coverage", "*.lock", "*.min.js"]

def sampleText : String :=
  "# Globs matched against both the full path and the file or directory name.\n" ++
  "exclude = [\n" ++
  String.join (sampleExclusions.map fun rule => "  \"" ++ rule ++ "\",\n") ++
  "]\n\n" ++
  "# Project-specific words accepted on top of the dictionary.\n" ++
  "allowed-words = []\n"

end Program
end CamelSpell
