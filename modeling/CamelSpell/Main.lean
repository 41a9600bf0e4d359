import CamelSpell.FileSystem.Snapshot
import CamelSpell.Json.Reader
import CamelSpell.Program.Session

/-!
# The program

Carries out one command line on the files of a snapshot, which is read from standard input as a JSON
document: a table with the absolute path `home` of the directory, a list `tree` of its entries, the
path `cwd` in it from which paths are read, and the `time` to be written into the log.
-/

namespace CamelSpell
namespace Program

partial def readAll (input : IO.FS.Stream) (read : String) : IO String := do
  let line <- input.getLine
  if line.isEmpty then return read else readAll input (read ++ line)

def snapshotOf (fields : Fields) : Snapshot :=
  let textOf (key : String) : Path := ((Snapshot.textOf? fields key).getD "").toList
  let entries := match Fields.get? fields "tree" with
    | some (.list items) => items.filterMap Snapshot.readEntry?
    | _ => []
  ⟨Path.names (textOf "home"), entries, textOf "cwd"⟩

def readEnvironment : IO Environment := do
  return ⟨<- IO.getEnv "SPELLSWEEP_LOG_LEVEL", <- IO.getEnv "SPELLSWEEP_LOG_FORMAT",
    <- IO.getEnv "SPELLSWEEP_DICTIONARY", RunRequest.usualMaxArguments⟩

end Program
end CamelSpell

open CamelSpell Program in
def main (args : List String) : IO UInt32 := do
  let document <- readAll (<- IO.getStdin) ""
  match (Json.parse? document).bind Value.fields? with
  | none =>
      (<- IO.getStderr).putStrLn "The snapshot is no JSON table."
      return UInt32.ofNat ExitCode.failure.toNat
  | some fields =>
      let session : Session := ⟨(snapshotOf fields).toFileSystem, Log.Settings.standard⟩
      let time := (Snapshot.textOf? fields "time").getD ""
      let (_, out) := session.run time (<- readEnvironment) args
      (<- IO.getStdout).putStr out.stdout
      (<- IO.getStderr).putStr out.stderr
      return UInt32.ofNat out.code.toNat
