import CamelSpell.Number.Literal
import CamelSpell.Toml.Statement

/-!
# Reading of TOML

Each function reads something at the beginning of a text and returns it with the rest of the text.
What has been read so far is kept last first, under the name `read`, and a counter that starts above
the length of the text bounds the recursion.
-/

namespace CamelSpell
namespace Toml

def isSpace (c : Char) : Bool :=
  c = ' ' || c = '\t'

def skipSpaces (text : List Char) : List Char :=
  text.dropWhile isSpace

def lineEnd? : List Char -> Option (List Char)
  | '\n' :: rest => some rest
  | '\r' :: '\n' :: rest => some rest
  | _ => none

def atLineEnd (text : List Char) : Bool :=
  (lineEnd? text).isSome

def skipLine : List Char -> List Char
  | '\r' :: '\n' :: rest => '\r' :: '\n' :: rest
  | '\n' :: rest => '\n' :: rest
  | _ :: rest => skipLine rest
  | [] => []

def skipFiller : Bool -> List Char -> List Char
  | _, [] => []
  | _, '\n' :: rest => skipFiller false rest
  | _, '\r' :: '\n' :: rest => skipFiller false rest
  | true, _ :: rest => skipFiller true rest
  | false, c :: rest =>
      if isSpace c then skipFiller false rest
      else if c = '#' then skipFiller true rest
      else c :: rest

/-!
## Texts

Quoted texts may run over several lines, and an end of line right behind threefold opening marks is
left out.  A backslash that begins no escape sequence stands for itself (`Escape.none`); one whose
digits denote no character makes the text malformed (`Escape.noChar`).
-/

inductive Escape
  | char (c : Char) (rest : List Char)
  | noChar
  | none

def numbered (count : Nat) (rest : List Char) : Escape :=
  let digits := rest.take count
  if digits.length < count then .none
  else
    match Number.digits? 16 digits with
    | Option.none => .none
    | some n => if h : n.isValidChar then .char (Char.ofNatAux n h) (rest.drop count) else .noChar

def escapeAfter : List Char -> Escape
  | '"' :: rest => .char '"' rest
  | '\\' :: rest => .char '\\' rest
  | 'b' :: rest => .char '\x08' rest
  | 't' :: rest => .char '\t' rest
  | 'n' :: rest => .char '\n' rest
  | 'f' :: rest => .char '\x0c' rest
  | 'r' :: rest => .char '\r' rest
  | 'U' :: rest => numbered 8 rest
  | 'u' :: rest => numbered 4 rest
  | _ => .none

structure Quoting where
  mark : Char
  isLong : Bool
  hasEscapes : Bool

namespace Quoting

def close? (q : Quoting) : List Char -> Option (List Char)
  | a :: b :: c :: rest =>
      if q.isLong then if a = q.mark && b = q.mark && c = q.mark then some rest else Option.none
      else if a = q.mark then some (b :: c :: rest) else Option.none
  | a :: rest => if !q.isLong && a = q.mark then some rest else Option.none
  | [] => Option.none

end Quoting

def readTextOnto (q : Quoting) :
    Nat -> List Char -> List Char -> Option (String × List Char)
  | 0, _, _ => none
  | fuel + 1, read, text =>
      match q.close? text with
      | some rest => some (String.ofList read.reverse, rest)
      | none =>
          match text with
          | [] => none
          | c :: rest =>
              if c = '\\' && q.hasEscapes then
                match escapeAfter rest with
                | .char e rest => readTextOnto q fuel (e :: read) rest
                | .noChar => none
                | .none =>
                    match if q.isLong then lineEnd? rest else none with
                    | some rest =>
                        let rest := skipFillerLines rest
                        readTextOnto q fuel read rest
                    | none => readTextOnto q fuel (c :: read) rest
              else readTextOnto q fuel (c :: read) rest
where
  skipFillerLines : List Char -> List Char
    | '\n' :: rest => skipFillerLines rest
    | '\r' :: '\n' :: rest => skipFillerLines rest
    | c :: rest => if isSpace c then skipFillerLines rest else c :: rest
    | [] => []

def readShort (text : List Char) : Option (String × List Char) :=
  match text with
  | '"' :: rest => readTextOnto ⟨'"', false, true⟩ (rest.length + 1) [] rest
  | '\'' :: rest => readTextOnto ⟨'\'', false, false⟩ (rest.length + 1) [] rest
  | _ => none

def readLong (text : List Char) : Option (String × List Char) :=
  let read (q : Quoting) (rest : List Char) :=
    readTextOnto q (rest.length + 1) [] ((lineEnd? rest).getD rest)
  match text with
  | '"' :: '"' :: '"' :: rest => read ⟨'"', true, true⟩ rest
  | '\'' :: '\'' :: '\'' :: rest => read ⟨'\'', true, false⟩ rest
  | _ => none

def readText (text : List Char) : Option (String × List Char) :=
  (readLong text).or (readShort text)

/-!
## Numbers and times

Underscores between digits are passed over.  A numeral may consist of nothing else, and then it has
no value.
-/

def isDigitMark (c : Char) : Bool :=
  c.isDigit || c = '_'

def readDigits (text : List Char) : Option (List Char × List Char) :=
  match text.takeWhile isDigitMark with
  | [] => none
  | marks => some (marks.filter Char.isDigit, text.dropWhile isDigitMark)

def readSign : List Char -> Bool × List Char
  | '-' :: rest => (true, rest)
  | '+' :: rest => (false, rest)
  | text => (false, text)

/-- A numeral: its sign, the digits before the point and those behind it, if there is a point. -/
structure Numeral where
  negative : Bool
  whole : List Char
  fraction : Option (List Char)

namespace Numeral

def value (n : Numeral) (exponent : Int) : Number :=
  let fraction := n.fraction.getD []
  let digits := n.whole ++ fraction
  if digits.isEmpty then .notANumber
  else Number.ofDecimal n.negative (Number.ofDigits digits) (exponent - fraction.length)

end Numeral

def readInteger (text : List Char) : Option (Numeral × List Char) :=
  let (negative, rest) := readSign text
  match readDigits rest with
  | none => none
  | some (_, '.' :: _) => none
  | some (digits, rest) => some (⟨negative, digits, none⟩, rest)

def readPointed (text : List Char) : Option (Numeral × List Char) :=
  let (negative, rest) := readSign text
  match readDigits rest with
  | some (whole, '.' :: rest) =>
      (readDigits rest).map fun (fraction, rest) => (⟨negative, whole, some fraction⟩, rest)
  | _ => none

def readPower (text : List Char) : Option (Int × List Char) :=
  match text with
  | e :: rest =>
      if e = 'e' || e = 'E' then
        (readInteger rest).map fun (n, rest) =>
          let size : Int := Number.ofDigits n.whole
          (if n.negative then -size else size, rest)
      else none
  | [] => none

def readFloat (text : List Char) : Option (Number × List Char) :=
  let powered := do
    let (n, rest) <- (readPointed text).or (readInteger text)
    let (exponent, rest) <- readPower rest
    return (n.value exponent, rest)
  powered.or ((readPointed text).map fun (n, rest) => (n.value 0, rest))

def afterPattern : List Char -> List Char -> Option (List Char)
  | [], text => some text
  | '0' :: pattern, c :: text => if c.isDigit then afterPattern pattern text else none
  | p :: pattern, c :: text => if c = p then afterPattern pattern text else none
  | _ :: _, [] => none

def skipFraction : List Char -> List Char
  | '.' :: rest =>
      match readDigits rest with
      | some (_, rest) => rest
      | none => '.' :: rest
  | text => text

def afterMoment? (text : List Char) : Option (List Char) := do
  let rest <- afterPattern "0000-00-00T00:00:00".toList text
  match skipFraction rest with
  | 'Z' :: rest => some rest
  | '+' :: rest => afterPattern "00:00".toList rest
  | '-' :: rest => afterPattern "00:00".toList rest
  | _ => none

def readMoment (text : List Char) : Option (Moment × List Char) := do
  let rest <- afterMoment? text
  let written := text.take (text.length - rest.length)
  return (<- Moment.ofText? (written.filter (· != '_')), rest)

/-!
## Values

Between the items of a list, spaces, ends of lines and comments are filler.  The fields of a table
may follow each other without a comma.
-/

def isKeyMark (c : Char) : Bool :=
  c.isAlphanum || c = '_' || c = '-'

def readBareKey (text : List Char) : Option (String × List Char) :=
  match text.takeWhile isKeyMark with
  | [] => none
  | key => some (String.ofList key, text.dropWhile isKeyMark)

def readKey (text : List Char) : Option (String × List Char) :=
  (readBareKey text).or (readShort text)

def afterEquals? (text : List Char) : Option (List Char) :=
  match skipSpaces text with
  | '=' :: rest => some (skipSpaces rest)
  | _ => none

def readSimple (text : List Char) : Option (Item × List Char) :=
  let moment := (readMoment text).map fun (m, rest) => (Item.moment m, rest)
  let float := fun (_ : Unit) => (readFloat text).map fun (n, rest) => (Item.float n, rest)
  let integer := fun (_ : Unit) =>
    (readInteger text).map fun (n, rest) => (Item.integer (n.value 0), rest)
  match text with
  | 't' :: 'r' :: 'u' :: 'e' :: rest => some (.bool true, rest)
  | 'f' :: 'a' :: 'l' :: 's' :: 'e' :: rest => some (.bool false, rest)
  | c :: _ =>
      if c = '"' || c = '\'' then (readText text).map fun (s, rest) => (.text s, rest)
      else (moment.orElse float).orElse integer
  | [] => none

mutual

def readItem : Nat -> List Char -> Option (Item × List Char)
  | 0, _ => none
  | fuel + 1, text =>
      match text with
      | '[' :: rest => (readItems fuel [] rest).map fun (items, rest) => (.list items, rest)
      | '\x7b' :: rest =>
          (readFields fuel [] rest).map fun (fields, rest) => (.table fields, rest)
      | _ => readSimple text

def readItems : Nat -> List Item -> List Char -> Option (List Item × List Char)
  | 0, _, _ => none
  | fuel + 1, read, text =>
      match skipFiller false text with
      | ']' :: rest => some (read.reverse, rest)
      | text =>
          match readItem fuel text with
          | none => none
          | some (item, rest) =>
              match skipFiller false rest with
              | ',' :: rest => readItems fuel (item :: read) rest
              | ']' :: rest => some ((item :: read).reverse, rest)
              | _ => none

def readFields :
    Nat -> List (String × Item) -> List Char -> Option (List (String × Item) × List Char)
  | 0, _, _ => none
  | fuel + 1, read, text =>
      let text := skipSpaces text
      let field := do
        let (key, rest) <- readBareKey text
        let rest <- afterEquals? rest
        let (item, rest) <- readItem fuel rest
        return ((key, item), rest)
      match field with
      | some (field, rest) =>
          match skipSpaces rest with
          | ',' :: rest => readFields fuel (field :: read) rest
          | _ => readFields fuel (field :: read) rest
      | none =>
          match text with
          | '\x7d' :: rest => some (read.reverse, rest)
          | _ => none

end

/-!
## Statements

A statement ends with its line, on which only a comment may follow.
-/

def readKeys : Nat -> List Char -> Option (List String × List Char)
  | 0, _ => none
  | fuel + 1, text =>
      match readKey (skipSpaces text) with
      | none => none
      | some (key, rest) =>
          match skipSpaces rest with
          | '.' :: rest => (readKeys fuel rest).map fun (keys, rest) => (key :: keys, rest)
          | rest => some ([key], rest)

def readHeader (text : List Char) : Option (Statement × List Char) :=
  match text with
  | '[' :: '[' :: rest =>
      match readKeys (rest.length + 1) rest with
      | some (keys, ']' :: ']' :: rest) => some (.openListed keys, rest)
      | _ => none
  | '[' :: rest =>
      match readKeys (rest.length + 1) rest with
      | some (keys, ']' :: rest) => some (.openTable keys, rest)
      | _ => none
  | _ => none

def readAssignment (text : List Char) : Option (Statement × List Char) := do
  let (key, rest) <- readKey text
  let rest <- afterEquals? rest
  let (item, rest) <- readItem (rest.length + 1) rest
  return (.assign key item, rest)

def finishLine (text : List Char) : Option (List Char) :=
  let rest := match skipSpaces text with
    | '#' :: rest => skipLine rest
    | rest => rest
  if rest.isEmpty then some [] else lineEnd? rest

def readStatements : Nat -> List Statement -> List Char -> Option (List Statement)
  | 0, _, _ => none
  | _ + 1, read, [] => some read.reverse
  | fuel + 1, read, text =>
      let text := skipSpaces text
      match text with
      | [] => some read.reverse
      | c :: _ =>
          if c = '#' || atLineEnd text then
            (finishLine text).bind fun rest => readStatements fuel read rest
          else
            let statement := if c = '[' then readHeader text else readAssignment text
            match statement with
            | none => none
            | some (s, rest) =>
                (finishLine rest).bind fun rest => readStatements fuel (s :: read) rest

def statements? (text : List Char) : Option (List Statement) :=
  readStatements (text.length + 1) [] text

end Toml
end CamelSpell
