import CamelSpell.Unicode.Units
import CamelSpell.Value

/-!
# Reading of JSON

The reader works on a list of characters and returns what is left.  Nesting and the number of
entries are bounded by a counter that starts above the length of the text and is never used up.
Characters and entries that have been read are kept last first, under the name `read`.
-/

namespace CamelSpell
namespace Json

def isSpace (c : Char) : Bool :=
  c = ' ' || c = '\t' || c = '\n' || c = '\r'

def hexValue? (c : Char) : Option Nat :=
  if '0' ≤ c ∧ c ≤ '9' then some (c.toNat - '0'.toNat)
  else if 'a' ≤ c ∧ c ≤ 'f' then some (c.toNat - 'a'.toNat + 10)
  else if 'A' ≤ c ∧ c ≤ 'F' then some (c.toNat - 'A'.toNat + 10)
  else none

def hex4? (a b c d : Char) : Option Nat := do
  let a <- hexValue? a
  let b <- hexValue? b
  let c <- hexValue? c
  let d <- hexValue? d
  return ((a * 16 + b) * 16 + c) * 16 + d

/-- The characters of a text after its opening quotation mark, and what follows the closing one.
`read` holds the code units so far, last first. -/
def readText (read : List Nat) : List Char -> Option (String × List Char)
  | [] => none
  | '"' :: rest => some (String.ofList (Unicode.textOfUnits read.reverse), rest)
  | '\\' :: 'u' :: a :: b :: c :: d :: rest =>
      match hex4? a b c d with
      | some unit => readText (unit :: read) rest
      | none => none
  | '\\' :: e :: rest =>
      match e with
      | '"' => readText ('"'.toNat :: read) rest
      | '\\' => readText ('\\'.toNat :: read) rest
      | '/' => readText ('/'.toNat :: read) rest
      | 'b' => readText (8 :: read) rest
      | 'f' => readText (12 :: read) rest
      | 'n' => readText (10 :: read) rest
      | 'r' => readText (13 :: read) rest
      | 't' => readText (9 :: read) rest
      | _ => none
  | ['\\'] => none
  | c :: rest =>
      if c.toNat < 0x20 then none
      else readText ((Unicode.unitsOfChar c).reverse ++ read) rest

def readFraction : List Char -> Option (List Char × List Char)
  | '.' :: rest =>
      match rest.takeWhile Char.isDigit with
      | [] => none
      | digits => some (digits, rest.dropWhile Char.isDigit)
  | rest => some ([], rest)

def readExponent (text : List Char) : Option (Int × List Char) :=
  let digitsOf (negative : Bool) (rest : List Char) : Option (Int × List Char) :=
    match rest.takeWhile Char.isDigit with
    | [] => none
    | digits =>
        let n : Int := Number.ofDigits digits
        some (if negative then -n else n, rest.dropWhile Char.isDigit)
  match text with
  | e :: rest =>
      if e = 'e' ∨ e = 'E' then
        match rest with
        | '+' :: rest => digitsOf false rest
        | '-' :: rest => digitsOf true rest
        | rest => digitsOf false rest
      else some (0, text)
  | [] => some (0, [])

def readNumber (text : List Char) : Option (Number × List Char) := do
  let (negative, text) := match text with
    | '-' :: rest => (true, rest)
    | _ => (false, text)
  let (whole, text) <- match text with
    | '0' :: rest => some (['0'], rest)
    | _ =>
        match text.takeWhile Char.isDigit with
        | [] => none
        | digits => some (digits, text.dropWhile Char.isDigit)
  let (fraction, text) <- readFraction text
  let (exponent, text) <- readExponent text
  return (Number.ofDecimal negative (Number.ofDigits (whole ++ fraction))
    (exponent - fraction.length), text)

mutual

def readValue : Nat -> List Char -> Option (Value × List Char)
  | 0, _ => none
  | fuel + 1, text =>
      match text.dropWhile isSpace with
      | 'n' :: 'u' :: 'l' :: 'l' :: rest => some (.null, rest)
      | 't' :: 'r' :: 'u' :: 'e' :: rest => some (.bool true, rest)
      | 'f' :: 'a' :: 'l' :: 's' :: 'e' :: rest => some (.bool false, rest)
      | '"' :: rest => (readText [] rest).map fun (s, rest) => (.text s, rest)
      | '[' :: rest =>
          match rest.dropWhile isSpace with
          | ']' :: rest => some (.list [], rest)
          | _ => (readItems fuel [] rest).map fun (items, rest) => (.list items, rest)
      | '\x7b' :: rest =>
          match rest.dropWhile isSpace with
          | '\x7d' :: rest => some (.table [], rest)
          | _ =>
              (readMembers fuel [] rest).map fun (members, rest) =>
                (.table (Fields.ofList members), rest)
      | text => (readNumber text).map fun (n, rest) => (.number n, rest)

def readItems : Nat -> List Value -> List Char -> Option (List Value × List Char)
  | 0, _, _ => none
  | fuel + 1, read, text =>
      match readValue fuel text with
      | none => none
      | some (item, rest) =>
          match rest.dropWhile isSpace with
          | ',' :: rest => readItems fuel (item :: read) rest
          | ']' :: rest => some ((item :: read).reverse, rest)
          | _ => none

def readMembers :
    Nat -> List (String × Value) -> List Char -> Option (List (String × Value) × List Char)
  | 0, _, _ => none
  | fuel + 1, read, text =>
      match text.dropWhile isSpace with
      | '"' :: rest =>
          match readText [] rest with
          | none => none
          | some (key, rest) =>
              match rest.dropWhile isSpace with
              | ':' :: rest =>
                  match readValue fuel rest with
                  | none => none
                  | some (value, rest) =>
                      match rest.dropWhile isSpace with
                      | ',' :: rest => readMembers fuel ((key, value) :: read) rest
                      | '\x7d' :: rest => some (((key, value) :: read).reverse, rest)
                      | _ => none
              | _ => none
      | _ => none

end

def parse? (text : String) : Option Value :=
  match readValue (text.length + 2) text.toList with
  | some (value, rest) => if rest.all isSpace then some value else none
  | none => none

end Json
end CamelSpell
