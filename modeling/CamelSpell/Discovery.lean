import CamelSpell.Failure
import CamelSpell.FileSystem.Access
import CamelSpell.Log.Logged
import CamelSpell.Exclusion
import CamelSpell.Unicode.Blank

/-!
# Discovery of files

Every root is visited, and below a directory every entry that is not excluded.  Roots are followed
through links; links below a root are not.  An excluded directory is never listed, and files that
another root leads to inside of it are dropped in the end.  The files come out in the order of
their code units, each path once.
-/

namespace CamelSpell

open CamelSpell.Path Log

/-- What visiting a root or an entry brings: files, the names of excluded directories from the top,
and the directories that were listed. -/
structure Visit where
  files : List Path
  excluded : List (List Name)
  listed : List Path
deriving DecidableEq, Repr

namespace Visit

def empty : Visit := ⟨[], [], []⟩

def file (p : Path) : Visit := ⟨[p], [], []⟩

def append (a b : Visit) : Visit :=
  ⟨a.files ++ b.files, a.excluded ++ b.excluded, a.listed ++ b.listed⟩

def sequence : List (Logged Failure Visit) -> Logged Failure Visit
  | [] => pure empty
  | v :: rest => do
      let first <- v
      let others <- sequence rest
      return first.append others

end Visit

structure Discovery where
  fileSystem : FileSystem
  excludes : Exclusion
  scope : Option String

namespace Discovery

def exclude (d : Discovery) (p : Path) (kind : EntryKind) : Logged Failure Visit := do
  Logged.debug d.scope ("Excluded " ++ p.toString)
  return { Visit.empty with
    excluded :=
      if kind = .directory then
        [Path.resolveNames d.fileSystem.workingDirectory p]
      else [] }

def visitEntry (d : Discovery) (p : Path) (kind : EntryKind)
    (below : Unit -> Logged Failure Visit) : Logged Failure Visit :=
  if d.excludes p then d.exclude p kind
  else
    match kind with
    | .directory => below ()
    | .file => pure (.file p)
    | .other => pure .empty

def inOrder (visits : List (Name × Logged Failure Visit)) : List (Logged Failure Visit) :=
  (visits.mergeSort fun a b => Unicode.unitsLe (Unicode.units a.1) (Unicode.units b.1)).map
    Prod.snd

def abort (p : Path) (error : FileError) : Logged Failure Visit :=
  Logged.fail (.walkAborted p error)

def visitListed (p : Path) (entries : List (Name × Logged Failure Visit)) :
    Logged Failure Visit := do
  let below <- Visit.sequence (inOrder entries)
  return { below with listed := p :: below.listed }

mutual

def walk (d : Discovery) (p : Path) : Tree -> Logged Failure Visit
  | .directory entries =>
      if FileSystem.pathLimit < FileSystem.byteLength p then
        abort p (.system .nameTooLong .list p)
      else visitListed p (walkEntries d p entries)
  | _ => abort p (.system .notDirectory .list p)

def walkEntries (d : Discovery) (p : Path) :
    List (Name × Tree) -> List (Name × Logged Failure Visit)
  | [] => []
  | (name, t) :: rest =>
      let path := Path.join p name
      (name, d.visitEntry path t.kind fun _ => walk d path t) :: walkEntries d p rest

end

def walkFrom (d : Discovery) (p : Path) : Logged Failure Visit :=
  match d.fileSystem.locate .list p with
  | .error e => abort p e
  | .ok t => walk d p t

/-- The visit of a root that is a directory.  Its entries are found by their own paths, which may
lead elsewhere if the root goes back from a link. -/
def walkRoot (d : Discovery) (root : Path) : Logged Failure Visit :=
  match d.fileSystem.list root with
  | .error e => abort root e
  | .ok entries =>
      visitListed root <| entries.map fun (name, t) =>
        let path := Path.join root name
        (name, d.visitEntry path t.kind fun _ => walkFrom d path)

/-- Whether a directory is excluded that the root names on its way.  A root that is absolute names
none, and the directory itself and those above do not count. -/
def hasExcludedAncestor (d : Discovery) (root : Path) : Bool :=
  if isAbsolute root then false
  else
    let parts := (names (normalize root)).filter fun n => n != above
    (List.range (parts.length - 1)).any fun i => d.excludes (joinNames (parts.take (i + 1)))

def visitRoot (d : Discovery) (root : Path) : Logged Failure Visit :=
  if root.all Unicode.isBlank then Logged.fail .blankRoot
  else
    match d.fileSystem.kind root with
    | .error e => Logged.fail (.walkAborted root e)
    | .ok kind =>
        if d.excludes root || d.hasExcludedAncestor root then d.exclude root kind
        else
          match kind with
          | .directory => d.walkRoot root
          | .file => pure (.file root)
          | .other => do
              Logged.warn d.scope ("Skipped " ++ root.toString ++
                ": not a regular file or directory")
              return .empty

def isInside (directory names : List Name) : Bool :=
  directory.isPrefixOf names && directory.length < names.length

def fileSet (d : Discovery) (v : Visit) : List Path :=
  let kept := v.files.eraseDups.filter fun p =>
    let names := Path.resolveNames d.fileSystem.workingDirectory p
    !v.excluded.any fun directory => isInside directory names
  kept.mergeSort fun a b => Unicode.unitsLe (Unicode.units a) (Unicode.units b)

def visitRoots (d : Discovery) (roots : List Path) : Logged Failure Visit :=
  Visit.sequence (roots.map d.visitRoot)

def run (d : Discovery) (roots : List Path) : Logged Failure (List Path) :=
  if roots.isEmpty then Logged.fail .noRoot
  else do
    let visit <- d.visitRoots roots
    let files := d.fileSet visit
    Logged.write d.scope .debug
      ("Discovered " ++ toString files.length ++ " files")
      [("roots", .list (roots.map fun root => .text root.toString))]
    return files

end Discovery
end CamelSpell
