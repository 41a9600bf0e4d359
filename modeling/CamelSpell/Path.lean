/-!
# Paths

A path is kept as it is written: names between slashes, absolute if it begins with one.  The
functions here work on the spelling alone and never ask the file system.  Names that have been cut
off so far are kept last first, under the name `done`.
-/

namespace CamelSpell

abbrev Path := List Char

namespace Path

abbrev Name := List Char

def slash : Char := '/'

def here : Name := ['.']

def above : Name := ['.', '.']

def ofString (s : String) : Path := s.toList

def toString (p : Path) : String := String.ofList p

def piecesOnto (done : List Name) (piece : Name) : Path -> List Name
  | [] => (piece.reverse :: done).reverse
  | c :: rest =>
      if c = slash then piecesOnto (piece.reverse :: done) [] rest
      else piecesOnto done (c :: piece) rest

def pieces (p : Path) : List Name :=
  piecesOnto [] [] p

def names (p : Path) : List Name :=
  (pieces p).filter fun n => !n.isEmpty && n != here

def isAbsolute (p : Path) : Bool :=
  p.head? == some slash

def endsWithSlash (p : Path) : Bool :=
  p.getLast? == some slash

def joinNames : List Name -> Path
  | [] => []
  | [n] => n
  | n :: rest => n ++ slash :: joinNames rest

/-- Follows one more name.  `route` holds the names so far, last first; a `..` takes one back, and
where none is left it stays if `escapes` allows it. -/
def follow (escapes : Bool) (route : List Name) (name : Name) : List Name :=
  if name = above then
    match route with
    | [] => if escapes then [above] else []
    | last :: before => if last = above then above :: route else before
  else name :: route

/-- The names of a path once every `..` is resolved as far as the path itself allows. -/
def route (escapes : Bool) (p : Path) : List Name :=
  ((names p).foldl (follow escapes) []).reverse

def normalize (p : Path) : Path :=
  let absolute := isAbsolute p
  let body := joinNames (route (!absolute) p)
  if absolute then
    if body.isEmpty then [slash]
    else slash :: (if endsWithSlash p then body ++ [slash] else body)
  else
    let body := if body.isEmpty then here else body
    if endsWithSlash p then body ++ [slash] else body

def join (p q : Path) : Path :=
  match p, q with
  | [], [] => here
  | [], _ => normalize q
  | _, [] => normalize p
  | _, _ => normalize (p ++ slash :: q)

def absolute (ns : List Name) : Path :=
  slash :: joinNames ns

def resolveNames (directory p : Path) : List Name :=
  if isAbsolute p then route false p else route false (directory ++ slash :: p)

def resolve (directory p : Path) : Path :=
  absolute (resolveNames directory p)

def outward (ns : List Name) : List (List Name) :=
  (List.range (ns.length + 1)).reverse.map fun n => ns.take n

def baseName (p : Path) : Name :=
  (((pieces p).filter fun n => !n.isEmpty).getLast?).getD []

/-- The end of the last name from its last point on.  A point in front of the name begins no
extension. -/
def fileExtension (p : Path) : Name :=
  let name := baseName p
  let ending := name.reverse.takeWhile fun c => c != '.'
  if name = above || ending.length + 1 ≥ name.length then []
  else '.' :: ending.reverse

end Path
end CamelSpell
