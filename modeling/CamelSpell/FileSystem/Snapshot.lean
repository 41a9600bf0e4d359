import CamelSpell.Base64
import CamelSpell.FileSystem.Basic
import CamelSpell.Unicode.Utf8
import CamelSpell.Value

/-!
# Snapshots

A snapshot lists the entries below a directory.  It is turned into a file system that has, besides
that directory, a device without contents and a file that cannot be read.  Directories on the way to
an entry are made.
-/

namespace CamelSpell

open CamelSpell.Path

structure Snapshot where
  home : List Name
  entries : List (Path × Tree)
  working : Path

namespace Snapshot

def surroundings : Tree :=
  (Tree.empty.put .device ["dev".toList, "null".toList]).put .damaged
    ["proc".toList, "self".toList, "mem".toList]

def toFileSystem (s : Snapshot) : FileSystem :=
  let bare := surroundings.put .empty s.home
  { root := s.entries.foldl (fun t (p, entry) => t.put entry (s.home ++ names p)) bare
    workingNames := s.home ++ names s.working }

/-!
## Snapshots as documents

The contents of an entry are given as text or as base-64 data.  An entry may also be a link, and
without any of these it is a directory.
-/

def textOf? (fields : Fields) (key : String) : Option String :=
  match Fields.get? fields key with
  | some (.text s) => some s
  | _ => none

def readEntry? (v : Value) : Option (Path × Tree) := do
  let fields <- v.fields?
  let path <- textOf? fields "path"
  let tree :=
    match textOf? fields "base64", textOf? fields "symlink", textOf? fields "text" with
    | some data, _, _ => .file ((Base64.decode data.toList).map UInt8.ofNat)
    | none, some target, _ => .link target.toList
    | none, none, some text => .file (Utf8.encode text)
    | none, none, none => .empty
  return (path.toList, tree)

end Snapshot
end CamelSpell
