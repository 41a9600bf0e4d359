import CamelSpell.Path
import CamelSpell.Unicode.Units

/-!
# File systems

A file system is a tree of named entries and a working directory in it.  Symbolic links are leaves
of the tree that hold the path they stand for.  A device is neither file nor directory, and nothing
can be read from it; a damaged entry is a file whose contents cannot be read.
-/

namespace CamelSpell

open CamelSpell.Path

inductive Tree
  | file (bytes : List UInt8)
  | directory (entries : List (Name × Tree))
  | link (target : Path)
  | device
  | damaged

inductive EntryKind
  | file
  | directory
  | other
deriving DecidableEq, Repr

namespace Tree

def empty : Tree := directory []

def kind : Tree -> EntryKind
  | file _ => .file
  | damaged => .file
  | directory _ => .directory
  | link _ => .other
  | device => .other

def entries? : Tree -> Option (List (Name × Tree))
  | directory entries => some entries
  | _ => none

def child? (t : Tree) (name : Name) : Option Tree :=
  t.entries?.bind fun entries => entries.lookup name

def at? (t : Tree) : List Name -> Option Tree
  | [] => some t
  | name :: rest => (t.child? name).bind fun c => c.at? rest

def setEntry (name : Name) (t : Tree) : List (Name × Tree) -> List (Name × Tree)
  | [] => [(name, t)]
  | (n, old) :: rest => if n = name then (n, t) :: rest else (n, old) :: setEntry name t rest

def put (t new : Tree) : List Name -> Tree
  | [] => new
  | name :: rest =>
      let entries := t.entries?.getD []
      directory (setEntry name (((entries.lookup name).getD empty).put new rest) entries)

end Tree

structure FileSystem where
  root : Tree
  workingNames : List Name

namespace FileSystem

def workingDirectory (fs : FileSystem) : Path :=
  Path.absolute fs.workingNames

def resolve (fs : FileSystem) (p : Path) : Path :=
  Path.resolve fs.workingDirectory p

end FileSystem

/-!
## Errors

A request fails with one of the system's reasons.  A path with a NUL character is refused before
anything is asked; the message then shows the path between quotation marks, and line by line if it
is long.
-/

inductive Errno
  | noEntry
  | notDirectory
  | isDirectory
  | tooManyLinks
  | nameTooLong
  | inputOutput
  | exists
deriving DecidableEq, Repr

namespace Errno

def text : Errno -> String
  | noEntry => "ENOENT: no such file or directory"
  | notDirectory => "ENOTDIR: not a directory"
  | isDirectory => "EISDIR: illegal operation on a directory"
  | tooManyLinks => "ELOOP: too many symbolic links encountered"
  | nameTooLong => "ENAMETOOLONG: name too long"
  | inputOutput => "EIO: i/o error"
  | .exists => "EEXIST: file already exists"

end Errno

inductive Request
  | stat
  | open_
  | read
  | list
deriving DecidableEq, Repr

namespace Request

def name : Request -> String
  | stat => "stat"
  | open_ => "open"
  | read => "read"
  | list => "scandir"

end Request

inductive FileError
  | system (cause : Errno) (request : Request) (path : Path)
  | zeroCharacter (path : Path)
deriving DecidableEq, Repr

namespace FileError

def escape (quote : Char) (c : Char) : List Char :=
  let hex (n : Nat) : Char := Char.ofNat (if n < 10 then 48 + n else 55 + n)
  if c = quote && c = '\'' then ['\\', c]
  else
    match c with
    | '\\' => ['\\', '\\']
    | '\x08' => ['\\', 'b']
    | '\t' => ['\\', 't']
    | '\n' => ['\\', 'n']
    | '\x0c' => ['\\', 'f']
    | '\r' => ['\\', 'r']
    | c =>
        let n := c.toNat
        if n < 0x20 || (0x7F ≤ n && n ≤ 0x9F) then ['\\', 'x', hex (n / 16), hex (n % 16)]
        else [c]

def hasPlaceholder : List Char -> Bool
  | '$' :: '\x7b' :: _ => true
  | _ :: rest => hasPlaceholder rest
  | [] => false

/-- A path between quotation marks: single ones unless it holds some itself, then double ones, then
backquotes. -/
def quoted (text : List Char) : List Char :=
  let has (c : Char) := text.contains c
  let quote :=
    if !has '\'' then '\''
    else if !has '"' then '"'
    else if !has '\x60' && !hasPlaceholder text then '\x60'
    else '\''
  quote :: (text.flatMap (escape quote) ++ [quote])

def linesOf (text : List Char) : List (List Char) :=
  let (last, done) := text.foldl
    (fun (line, done) c =>
      if c = '\n' then (([] : List Char), (c :: line).reverse :: done) else (c :: line, done))
    (([] : List Char), ([] : List (List Char)))
  (if last.isEmpty then done else last.reverse :: done).reverse

def lineLimit : Nat := 124

def shownLimit : Nat := 128

def shown (text : List Char) : List Char :=
  let whole :=
    if lineLimit < Unicode.unitLength text then
      [' ', '+', '\n', ' ', ' '].intercalate ((linesOf text).map quoted)
    else quoted text
  if shownLimit < Unicode.unitLength whole then
    Unicode.textOfUnits ((Unicode.units whole).take shownLimit) ++ ['.', '.', '.']
  else whole

def message : FileError -> String
  | system cause .read _ => cause.text ++ ", " ++ Request.read.name
  | system cause request path =>
      cause.text ++ ", " ++ request.name ++ " '" ++ String.ofList path ++ "'"
  | zeroCharacter path =>
      "The argument 'path' must be a string, Uint8Array, or URL without null bytes. Received " ++
        String.ofList (shown path)

def isAbsence : FileError -> Bool
  | system .noEntry _ _ | system .notDirectory _ _ => true
  | _ => false

end FileError
end CamelSpell
