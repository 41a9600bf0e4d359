import CamelSpell.Yaml.Node

/-!
# Documents of YAML

A stream holds documents with directives in front of them.  A configuration file is a stream of at
most one document.
-/

namespace CamelSpell
namespace Yaml

open Reader

def readWords (text : Text) : Nat -> List (List Char) -> Reader (List (List Char))
  | 0, _ => malformed
  | fuel + 1, read => do
      let c := (<- cursor).skip text isSpace
      if c.char text = '#' then
        setCursor (c.skip text fun d => !isBreak d)
        return read.reverse
      else if c.position ≥ text.size || isBreak (c.char text) then
        setCursor c
        return read.reverse
      else
        let past := c.skip text fun d => !isGap d
        setCursor past
        readWords text fuel (text.slice c.position past.position :: read)

def isVersionOne (s : List Char) : Bool :=
  let major := s.takeWhile Char.isDigit
  match s.dropWhile Char.isDigit with
  | '.' :: minor =>
      !major.isEmpty && Number.ofDigits major = 1 && !minor.isEmpty && minor.all Char.isDigit
  | _ => false

/-- Carries out a directive.  `versioned` tells that a version has been given before; directives
that nobody knows are passed over. -/
def obey (name : List Char) (words : List (List Char)) (versioned : Bool) : Reader Bool := do
  if name = "YAML".toList then
    match versioned, words with
    | false, [version] => check (isVersionOne version)
    | _, _ => malformed
    return true
  else if name = "TAG".toList then
    match words with
    | [handle, beginning] =>
        let handleText := String.ofList handle
        check (isHandle handle && ((<- get).handles.lookup handleText).isNone)
        check (isTagText true beginning)
        match percentDecode? beginning with
        | some decoded =>
            modify fun s => { s with handles := (handleText, decoded) :: s.handles }
        | none => malformed
    | _ => malformed
    return versioned
  else return versioned

def readDirectives (text : Text) : Nat -> Bool -> Bool -> Reader Bool
  | 0, _, _ => malformed
  | fuel + 1, found, versioned => do
      let _ <- separate text
      let c <- cursor
      if c.position ≥ text.size || c.indent > 0 || c.char text ≠ '%' then return found
      let past := (c.move 1).skip text fun d => !isGap d
      let name := text.slice (c.position + 1) past.position
      check (!name.isEmpty)
      setCursor past
      let words <- readWords text (text.size + 1) []
      let c <- cursor
      if c.position < text.size then setCursor (c.passBreak text)
      let versioned <- obey name words versioned
      readDirectives text fuel true versioned

def readDocument (text : Text) : Reader Value := do
  modify fun s => { s with anchors := [], handles := [] }
  let found <- readDirectives text (text.size + 2) false false
  let c <- cursor
  if c.indent = 0 && c.char text = '-' && c.peek text 1 = '-' && c.peek text 2 = '-' then
    setCursor (c.move 3)
    let _ <- separate text
  else check !found
  let c <- cursor
  let node <- readNode text (8 * text.size + 64) ((c.indent : Int) - 1) .blockOut true
  let _ <- separate text
  let c <- cursor
  if c.atSeparator text then
    if c.char text = '.' then
      setCursor (c.move 3)
      let _ <- separate text
  else check (text.size ≤ c.position + 1)
  return node.value

def readDocuments (text : Text) : Nat -> List Value -> Reader (List Value)
  | 0, _ => malformed
  | fuel + 1, read => do
      if text.size ≤ (<- cursor).position + 1 then return read.reverse
      let value <- readDocument text
      readDocuments text fuel (value :: read)

/-- The value of a stream of at most one document; a stream without documents is null.  A byte order
mark at the beginning is passed over. -/
def parse? (chars : List Char) : Option Value := do
  let ended := match chars.getLast? with
    | none => chars
    | some c => if isBreak c then chars else chars ++ ['\n']
  let ended := match ended with
    | '\uFEFF' :: rest => rest
    | _ => ended
  let text := ended.toArray
  if ended.contains '\x00' then none
  else
    let start := Cursor.start.passIndent text
    let (values, _) <- (readDocuments text (text.size + 2) []).run ⟨start, [], [], 0, 0⟩
    match values with
    | [] => some .null
    | [value] => some value
    | _ => none

end Yaml
end CamelSpell
