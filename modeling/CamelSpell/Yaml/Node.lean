import CamelSpell.Yaml.Resolve
import CamelSpell.Unicode.Utf8
import CamelSpell.Yaml.Scalar

/-!
# Nodes of YAML

Reads nodes with their properties: blocks of entries, collections in brackets and braces, scalars
and references to earlier nodes.  A reader answers `none` if the text is malformed.  The depth of
nodes inside of each other and the work of merges are limited.  Recursion is bounded by a counter
that starts above anything the length of the text allows.
-/

namespace CamelSpell
namespace Yaml

/-- Where the reader is, the values of the anchors so far, the declared tag handles, the number of
nodes around the place, and the number of keys that merges have gone through. -/
structure Reading where
  cursor : Cursor
  anchors : List (String × Value)
  handles : List (String × String)
  depth : Nat
  mergedKeys : Nat

def depthLimit : Nat := 100

def mergeLimit : Nat := 100

def mergedKeyLimit : Nat := 10000

abbrev Reader := StateT Reading Option

inductive Context
  | flowIn
  | flowOut
  | blockIn
  | blockOut
deriving DecidableEq, Repr

namespace Context

def isBlock : Context -> Bool
  | blockIn | blockOut => true
  | flowIn | flowOut => false

end Context

structure Properties where
  tag : Option String
  anchor : Option String

structure Node where
  value : Value
  kind : Option NodeKind
  tag : Option String
  present : Bool

namespace Reader

def malformed {α : Type} : Reader α := fun _ => none

def check (b : Bool) : Reader Unit :=
  if b then pure () else malformed

def cursor : Reader Cursor := return (<- get).cursor

def setCursor (c : Cursor) : Reader Unit :=
  modify fun s => { s with cursor := c }

def setAnchor (anchor : Option String) (value : Value) : Reader Unit :=
  match anchor with
  | none => pure ()
  | some name => modify fun s => { s with anchors := (name, value) :: s.anchors }

def nested {α : Type} (read : Reader α) : Reader α := do
  let depth := (<- get).depth
  check (depth < depthLimit)
  modify fun s => { s with depth := depth + 1 }
  let a <- read
  modify fun s => { s with depth := depth }
  return a

def separate (text : Text) : Reader Bool := do
  let c <- cursor
  let past := c.separate text true
  setCursor past
  return past.line ≠ c.line

def here (text : Text) : Reader Char := return (<- cursor).char text

def move (n : Nat) : Reader Unit := do setCursor ((<- cursor).move n)

def scalar (read : Cursor -> Option (Option (List Char × Cursor))) :
    Reader (Option (List Char)) := do
  match read (<- cursor) with
  | none => malformed
  | some none => return none
  | some (some (chars, past)) =>
      setCursor past
      return some chars

end Reader

open Reader

/-!
## Properties

A node may have a tag and an anchor in front of it, in either order and over several lines.  An
opening is what has been read of them: the place of the first one, whether a new line has been
begun, whether a block of entries may follow, and how the line is indented in comparison with the
parent.
-/

def isTagMark (c : Char) : Bool :=
  c.isAlphanum || "-#;/?:@&=+$,_.!~*'()[]".toList.contains c

def isTagText (first : Bool) : List Char -> Bool
  | [] => !first
  | '%' :: a :: b :: rest =>
      if (Json.hexValue? a).isSome && (Json.hexValue? b).isSome then isTagText false rest
      else first && isTagText false (a :: b :: rest)
  | c :: rest =>
      (if first then c = '!' || !isFlowMark c else isTagMark c) && isTagText false rest
termination_by s => s.length

def percentBytes : List Char -> List UInt8
  | [] => []
  | '%' :: a :: b :: rest =>
      match Json.hexValue? a, Json.hexValue? b with
      | some x, some y => UInt8.ofNat (16 * x + y) :: percentBytes rest
      | _, _ => Utf8.encode "%" ++ percentBytes (a :: b :: rest)
  | c :: rest => Utf8.encode c.toString ++ percentBytes rest
termination_by s => s.length

def percentDecode? (s : List Char) : Option String :=
  let rec complete : List Char -> Bool
    | [] => true
    | '%' :: a :: b :: rest =>
        (Json.hexValue? a).isSome && (Json.hexValue? b).isSome && complete rest
    | c :: rest => c ≠ '%' && complete rest
  if complete s then
    let bytes := (percentBytes s).toByteArray
    if h : bytes.IsValidUTF8 then some (String.fromUTF8 bytes h) else none
  else none

def isHandle (s : List Char) : Bool :=
  match s with
  | ['!'] => true
  | ['!', '!'] => true
  | '!' :: rest =>
      match rest.reverse with
      | '!' :: name => !name.isEmpty && name.all fun c => c.isAlphanum || c = '-'
      | _ => false
  | _ => false

def tagOf (handle name : String) : Reader String := do
  match (<- get).handles.lookup handle with
  | some beginning => return beginning ++ name
  | none =>
      if handle = "!" then return "!" ++ name
      else if handle = "!!" then return standardTag name
      else malformed

def readTag (text : Text) : Reader (Option String) := do
  if (<- here text) ≠ '!' then return none
  move 1
  let c <- cursor
  if c.char text = '<' then
    let past := (c.move 1).skip text (· != '>')
    let name := text.slice (c.position + 1) past.position
    check (past.position < text.size && (name.isEmpty || isTagText true name))
    setCursor (past.move 1)
    match percentDecode? name with
    | some tag => return some tag
    | none => malformed
  else
    let past := c.skip text fun d => !isGap d
    let word := text.slice c.position past.position
    let handle := word.takeWhile (· != '!')
    let (handle, name) :=
      if word.length = handle.length then (['!'], word)
      else ('!' :: (handle ++ ['!']), word.drop (handle.length + 1))
    check (isHandle handle && !name.contains '!' && !name.any isFlowMark)
    check (name.isEmpty || isTagText true name)
    setCursor past
    match percentDecode? name with
    | some name => return some (<- tagOf (String.ofList handle) name)
    | none => malformed

def readName (text : Text) (mark : Char) : Reader (Option String) := do
  if (<- here text) ≠ mark then return none
  move 1
  let c <- cursor
  let past := c.skip text fun d => !isGap d && !isFlowMark d
  check (past.position ≠ c.position)
  setCursor past
  return some (String.ofList (text.slice c.position past.position))

def indentOrder (c : Cursor) (parent : Int) : Ordering :=
  compare (c.indent : Int) parent

structure Opening where
  properties : Properties
  start : Option Cursor
  atNewLine : Bool
  allowed : Bool
  order : Ordering

/-- The properties of a node.  On a new line, a second tag or a second anchor belongs to what
follows. -/
def readProperties (text : Text) (parent : Int) (context : Context) :
    Nat -> Opening -> Reader Opening
  | 0, _ => malformed
  | fuel + 1, o => do
      let p := o.properties
      let c <- cursor
      let d := c.char text
      if o.atNewLine && ((d = '!' && p.tag.isSome) || (d = '&' && p.anchor.isSome)) then return o
      let next (p : Properties) : Reader Opening := do
        let o := { o with properties := p, start := o.start.or (some c) }
        if <- separate text then
          readProperties text parent context fuel { o with
            atNewLine := true
            allowed := context.isBlock
            order := indentOrder (<- cursor) parent }
        else readProperties text parent context fuel { o with allowed := false }
      match <- readTag text with
      | some tag =>
          check p.tag.isNone
          next { p with tag := some tag }
      | none =>
          match <- readName text '&' with
          | some anchor =>
              check p.anchor.isNone
              next { p with anchor := some anchor }
          | none => return o

/-!
## Mappings

A mapping that is being read keeps the keys that it has only from a merge apart.  A merge brings the
fields that the mapping lacks; an entry of its own replaces a merged one.
-/

structure Mapping where
  fields : Fields
  merged : List String

namespace Mapping

def empty : Mapping := ⟨[], []⟩

def absorb (m : Mapping) (other : Fields) : Mapping :=
  other.foldl (fun m (key, value) =>
    if (Fields.get? m.fields key).isSome then m
    else ⟨m.fields.set key value, key :: m.merged⟩) m

/-- Stores an entry.  A key may be given once, except that one from a merge is replaced. -/
def store? (m : Mapping) (key : String) (value : Value) : Option Mapping :=
  if (Fields.get? m.fields key).isSome && !m.merged.contains key then none
  else some ⟨m.fields.set key value, m.merged.filter (· != key)⟩

def toValue (m : Mapping) : Value :=
  .table (Fields.arrange m.fields)

end Mapping

def mergedFields? : Value -> Option Fields
  | .list items => some (Fields.ofItems items)
  | v => v.fields?

def merge (m : Mapping) (value : Value) : Reader Mapping := do
  match mergedFields? value with
  | none => malformed
  | some fields =>
      modify fun s => { s with mergedKeys := s.mergedKeys + fields.length }
      check ((<- get).mergedKeys ≤ mergedKeyLimit)
      return m.absorb fields

def store (m : Mapping) (key : Node) (value : Value) : Reader Mapping :=
  match keyText? key.value with
  | none => malformed
  | some text =>
      if key.tag = some mergeTag then
        match value with
        | .list items => do
            check (items.length ≤ mergeLimit)
            items.foldlM merge m
        | _ => merge m value
      else
        match m.store? text value with
        | some m => pure m
        | none => malformed

def storeWaiting (m : Mapping) (waiting : Option Node) : Reader Mapping :=
  match waiting with
  | none => pure m
  | some key => store m key .null

/-!
## Nodes

What stands behind the properties of a node is tried in turn: a block of entries, a mapping whose
first key has these properties, a collection in brackets or braces, a block of lines, a quoted
scalar, a reference, a plain scalar.  The entries of a collection so far are kept last first, under
the name `read`.
-/

def finishNode (p : Properties) (plain : Bool) (kind : Option NodeKind) (value : Value)
    (hasContent : Bool) : Reader Node := do
  let present := hasContent || p.tag.isSome || p.anchor.isSome
  let node <- match p.tag with
    | none =>
        match plain, value with
        | true, .text s =>
            let (value, merges) := resolvePlain s.toList
            pure ⟨value, kind, some (if merges then mergeTag else "?"), true⟩
        | _, _ => pure (Node.mk value kind none present)
    | some "!" => pure ⟨value, kind, some "!", present⟩
    | some "?" =>
        match kind, value with
        | some .scalar, .text s =>
            let (value, merges) := resolvePlain s.toList
            pure ⟨value, kind, some (if merges then mergeTag else "?"), present⟩
        | none, .null => pure ⟨value, kind, some "?", present⟩
        | _, _ => malformed
    | some tag =>
        match resolveTagged? tag kind value with
        | some value => pure ⟨value, kind, some tag, present⟩
        | none => malformed
  setAnchor p.anchor node.value
  return node

inductive BlockReading
  | nothing
  | collection (value : Value)
  | node (n : Node)

mutual

/-- A node.  `parent` is the indentation of its parent, and `compact` lets a block of entries begin
on the line of its parent. -/
def readNode (text : Text) :
    Nat -> Int -> Context -> Bool -> Reader Node
  | 0, _, _, _ => malformed
  | fuel + 1, parent, context, compact => nested do
      let newLine <- separate text
      let begin <- cursor
      let order := if newLine then indentOrder begin parent else .gt
      let o : Opening := ⟨⟨none, none⟩, none, newLine, context.isBlock, order⟩
      let o <- if order = .gt then readProperties text parent context (text.size + 2) o else pure o
      let p := o.properties
      let blocks := o.allowed && (o.atNewLine || compact)
      let c <- cursor
      let column := c.position - c.lineStart
      let flowIndent := if context.isBlock then parent + 1 else parent
      if o.order = .gt then
        let block <- if blocks then readBlocks text fuel column flowIndent p else pure none
        match block with
        | some (.collection value) =>
            let kind := match value with
              | .list _ => NodeKind.sequence
              | _ => .mapping
            finishNode p false (some kind) value true
        | some (.node n) =>
            finishNode p false n.kind n.value true
        | some .nothing => readSingle text fuel context flowIndent ⟨none, none⟩
        | none =>
            let isOther := "[\x7b|>".toList.contains (c.char text)
            let start := if context.isBlock && !blocks && !isOther then o.start else none
            match <- readKeyed text fuel flowIndent start with
            | some value => finishNode ⟨none, none⟩ false (some .mapping) value true
            | none => readSingle text fuel context flowIndent p
      else if o.order = .eq && context = .blockOut && blocks then
        match <- readSequence text fuel column p.anchor with
        | some value => finishNode p false (some .sequence) value true
        | none => finishNode p false none .null false
      else finishNode p false none .null false

def readKeyed (text : Text) :
    Nat -> Int -> Option Cursor -> Reader (Option Value)
  | 0, _, _ => malformed
  | _, _, none => return none
  | fuel + 1, flowIndent, some start => do
      if start.tabbed then return none
      let before <- get
      setCursor start
      let column := start.position - start.lineStart
      match <- readMapping text fuel column flowIndent .empty false none with
      | .collection value => return some value
      | .nothing | .node _ =>
          set before
          return none

def readBlocks (text : Text) :
    Nat -> Nat -> Int -> Properties -> Reader (Option BlockReading)
  | 0, _, _, _ => malformed
  | fuel + 1, column, flowIndent, p => do
      if (<- cursor).tabbed then return none
      match <- readSequence text fuel column p.anchor with
      | some value => return some (.collection value)
      | none =>
          if (<- cursor).position ≥ text.size then return none
          setAnchor p.anchor (.table [])
          return some (<- readMapping text fuel column flowIndent .empty false none)

def readSingle (text : Text) :
    Nat -> Context -> Int -> Properties -> Reader Node
  | 0, _, _, _ => malformed
  | fuel + 1, context, indent, p => do
      let c <- cursor
      let d := c.char text
      if d = '[' then
        setAnchor p.anchor (.list [])
        move 1
        let items <- readFlowItems text fuel indent [] true
        finishNode p false (some .sequence) (.list items) true
      else if d = '\x7b' then
        setAnchor p.anchor (.table [])
        move 1
        let m <- readFlowEntries text fuel indent .empty true
        finishNode p false (some .mapping) m.toValue true
      else
        let block <- if context.isBlock then scalar (readBlock text indent) else pure none
        match block with
        | some chars => finishNode p false (some .scalar) (.text (String.ofList chars)) true
        | none =>
            match <- scalar (readQuoted text) with
            | some chars => finishNode p false (some .scalar) (.text (String.ofList chars)) true
            | none =>
                match <- readName text '*' with
                | some name =>
                    check (p.tag.isNone && p.anchor.isNone)
                    match (<- get).anchors.lookup name with
                    | none => malformed
                    | some value =>
                        let _ <- separate text
                        return ⟨value, none, none, true⟩
                | none =>
                    match <- scalar (readPlain text indent (context = .flowIn)) with
                    | some chars =>
                        finishNode p true (some .scalar) (.text (String.ofList chars)) true
                    | none => finishNode p false none .null false

def readFlowItems (text : Text) :
    Nat -> Int -> List Value -> Bool -> Reader (List Value)
  | 0, _, _, _ => malformed
  | fuel + 1, indent, read, fresh => do
      let _ <- separate text
      let d <- here text
      if d = ']' then
        move 1
        return read.reverse
      check (fresh && d ≠ ',' && d ≠ '\x00')
      let (key, value) <- readFlowEntry text fuel indent
      let item <- match value with
        | none => pure key.value
        | some value => do
            let m <- store .empty key value
            pure m.toValue
      let _ <- separate text
      if (<- here text) = ',' then
        move 1
        readFlowItems text fuel indent (item :: read) true
      else readFlowItems text fuel indent (item :: read) false

def readFlowEntries (text : Text) :
    Nat -> Int -> Mapping -> Bool -> Reader Mapping
  | 0, _, _, _ => malformed
  | fuel + 1, indent, m, fresh => do
      let _ <- separate text
      let d <- here text
      if d = '\x7d' then
        move 1
        return m
      check (fresh && d ≠ ',' && d ≠ '\x00')
      let (key, value) <- readFlowEntry text fuel indent
      let m <- store m key (value.getD .null)
      let _ <- separate text
      if (<- here text) = ',' then
        move 1
        readFlowEntries text fuel indent m true
      else readFlowEntries text fuel indent m false

def readFlowEntry (text : Text) :
    Nat -> Int -> Reader (Node × Option Value)
  | 0, _ => malformed
  | fuel + 1, indent => do
      let c <- cursor
      let isExplicit := c.char text = '?' && isGap (c.peek text 1)
      if isExplicit then
        move 1
        let _ <- separate text
      let line := (<- cursor).line
      let key <- readNode text fuel indent .flowIn false
      let _ <- separate text
      let c <- cursor
      if (isExplicit || c.line = line) && c.char text = ':' then
        move 1
        let _ <- separate text
        let value <- readNode text fuel indent .flowIn false
        return (key, some value.value)
      else return (key, if isExplicit then some .null else none)

def readSequence (text : Text) :
    Nat -> Nat -> Option String -> Reader (Option Value)
  | 0, _, _ => malformed
  | fuel + 1, column, anchor => do
      if (<- cursor).tabbed then return none
      setAnchor anchor (.list [])
      match <- readDashes text fuel column [] with
      | none => return none
      | some items => return some (.list items)

def readDashes (text : Text) :
    Nat -> Nat -> List Value -> Reader (Option (List Value))
  | 0, _, _ => malformed
  | fuel + 1, column, read => do
      let c <- cursor
      let done := if read.isEmpty then none else some read.reverse
      if c.position ≥ text.size then return done
      check !c.tabbed
      if c.char text ≠ '-' || !isGap (c.peek text 1) then return done
      move 1
      let newLine <- separate text
      let c <- cursor
      if newLine && c.indent ≤ column then readDashes text fuel column (.null :: read)
      else
        let line := c.line
        let node <- readNode text fuel column .blockIn true
        let read := node.value :: read
        let _ <- separate text
        let c <- cursor
        let isOver := c.position ≥ text.size
        check (isOver || !(c.line = line || c.indent > column))
        if c.indent < column then return some read.reverse
        else readDashes text fuel column read

/-- The rest of a block of entries with keys in a column.  `begun` tells that a colon or a question
mark has been met, and `waiting` is a key behind a question mark that waits for its value. -/
def readMapping (text : Text) :
    Nat -> Nat -> Int -> Mapping -> Bool -> Option Node -> Reader BlockReading
  | 0, _, _, _, _, _ => malformed
  | fuel + 1, column, flowIndent, m, begun, waiting => do
      let close : Reader BlockReading := do
        let m <- storeWaiting m waiting
        return if begun then .collection m.toValue else .nothing
      let c <- cursor
      if c.position ≥ text.size then close
      else
        check (waiting.isSome || !c.tabbed)
        let d := c.char text
        if d = '?' && isGap (c.peek text 1) then
          let m <- storeWaiting m waiting
          move 1
          let key <- readNode text fuel column .blockOut true
          let waiting := some { key with tag := none }
          readMappingNext text fuel column flowIndent m c.line waiting
        else if d = ':' && isGap (c.peek text 1) then
          match waiting with
          | none => malformed
          | some key =>
              move 1
              let value <- readNode text fuel column .blockOut true
              let m <- store m key value.value
              readMappingNext text fuel column flowIndent m c.line none
        else
          let key <- readNode text fuel flowIndent .flowOut false
          if !key.present then close
          else
            let past := (<- cursor).skip text isSpace
            if past.line = c.line && past.char text = ':' then
              setCursor (past.move 1)
              check (isGap (past.peek text 1))
              let m <- storeWaiting m waiting
              let value <- readNode text fuel column .blockOut false
              let m <- store m key value.value
              readMappingNext text fuel column flowIndent m c.line none
            else
              if past.line = c.line then setCursor past
              check !begun
              return .node key

def readMappingNext (text : Text) :
    Nat -> Nat -> Int -> Mapping -> Nat -> Option Node -> Reader BlockReading
  | 0, _, _, _, _, _ => malformed
  | fuel + 1, column, flowIndent, m, line, waiting => do
      let _ <- separate text
      let c <- cursor
      let isOver := c.position ≥ text.size
      check (isOver || !(c.line = line || c.indent > column))
      if c.indent < column then
        let m <- storeWaiting m waiting
        return .collection m.toValue
      else readMapping text fuel column flowIndent m true waiting

end

end Yaml
end CamelSpell
