import CamelSpell.FileSystem.Basic

/-!
# Access to files

Paths are followed name by name from the top or from the working directory.  Links on the way and at
the end are followed too, up to a limit.  On top of that stand the four requests: what an entry is,
what a file holds, what a directory lists, and the making of a new file.
-/

namespace CamelSpell

open CamelSpell.Path

namespace FileSystem

def linkLimit : Nat := 40

def nameLimit : Nat := 255

def pathLimit : Nat := 4095

def byteLength (text : List Char) : Nat :=
  text.foldl (fun n c => n + c.utf8Size) 0

def steps (p : Path) : List Name :=
  let ns := (pieces p).filter fun n => !n.isEmpty
  if endsWithSlash p then ns ++ [here] else ns

/-- Follows names from a place.  `place` holds the names from the top to the place, last first. -/
def follow (root : Tree) (links : Nat) (place : List Name) :
    List Name -> Except Errno (List Name × Tree)
  | [] =>
      match root.at? place.reverse with
      | some t => .ok (place, t)
      | none => .error .noEntry
  | name :: rest =>
      match (root.at? place.reverse).bind Tree.entries? with
      | none => .error .notDirectory
      | some entries =>
          if name = here then follow root links place rest
          else if name = above then follow root links place.tail rest
          else if nameLimit < byteLength name then .error .nameTooLong
          else
            match entries.lookup name with
            | none => .error .noEntry
            | some (.link target) =>
                match links with
                | 0 => .error .tooManyLinks
                | links + 1 =>
                    follow root links (if isAbsolute target then [] else place)
                      (steps target ++ rest)
            | some _ => follow root links (name :: place) rest
termination_by names => (links, names.length)

def startOf (fs : FileSystem) (p : Path) : List Name :=
  if isAbsolute p then [] else fs.workingNames.reverse

def locate (fs : FileSystem) (request : Request) (p : Path) : Except FileError Tree :=
  if p.contains '\x00' then .error (.zeroCharacter p)
  else if p.isEmpty then .error (.system .noEntry request p)
  else if pathLimit < byteLength p then .error (.system .nameTooLong request p)
  else
    match follow fs.root linkLimit (fs.startOf p) (steps p) with
    | .ok (_, t) => .ok t
    | .error e => .error (.system e request p)

def kind (fs : FileSystem) (p : Path) : Except FileError EntryKind :=
  (fs.locate .stat p).map Tree.kind

def read (fs : FileSystem) (p : Path) : Except FileError (List UInt8) :=
  match fs.locate .open_ p with
  | .error e => .error e
  | .ok (.file bytes) => .ok bytes
  | .ok (.directory _) => .error (.system .isDirectory .read p)
  | .ok .damaged => .error (.system .inputOutput .read p)
  | .ok (.link _) => .error (.system .tooManyLinks .open_ p)
  | .ok .device => .ok []

def list (fs : FileSystem) (p : Path) : Except FileError (List (Name × Tree)) :=
  match fs.locate .list p with
  | .error e => .error e
  | .ok (.directory entries) => .ok entries
  | .ok _ => .error (.system .notDirectory .list p)

/-- Makes a new file.  An entry that has the name already, even a link that leads nowhere, is left
alone. -/
def create (fs : FileSystem) (p : Path) (bytes : List UInt8) : Except FileError FileSystem :=
  let refuse (e : Errno) : Except FileError FileSystem := .error (.system e .open_ p)
  if p.contains '\x00' then .error (.zeroCharacter p)
  else if p.isEmpty then refuse .noEntry
  else if pathLimit < byteLength p then refuse .nameTooLong
  else
    let names := steps p
    match names.getLast? with
    | none => refuse .exists
    | some name =>
        match follow fs.root linkLimit (fs.startOf p) names.dropLast with
        | .error e => refuse e
        | .ok (place, t) =>
            match t.entries? with
            | none => refuse .notDirectory
            | some entries =>
                if name = here || name = above then refuse .exists
                else if nameLimit < byteLength name then refuse .nameTooLong
                else if (entries.lookup name).isSome then refuse .exists
                else .ok { fs with root := fs.root.put (.file bytes) (place.reverse ++ [name]) }

end FileSystem
end CamelSpell
