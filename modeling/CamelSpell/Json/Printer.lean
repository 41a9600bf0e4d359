import CamelSpell.Number.Shortest
import CamelSpell.Value

/-!
# Printing of JSON

Values are printed without any space, or with one entry on each line and two spaces of indentation
for each level.  Quotation marks, backslashes and control characters are escaped; all other
characters stand for themselves.
-/

namespace CamelSpell
namespace Json

def hexDigit (n : Nat) : Char :=
  if n < 10 then Char.ofNat ('0'.toNat + n) else Char.ofNat ('a'.toNat + (n - 10))

def escape (c : Char) : List Char :=
  match c with
  | '"' => ['\\', '"']
  | '\\' => ['\\', '\\']
  | '\n' => ['\\', 'n']
  | '\r' => ['\\', 'r']
  | '\t' => ['\\', 't']
  | '\x08' => ['\\', 'b']
  | '\x0c' => ['\\', 'f']
  | c =>
      if c.toNat < 0x20 then
        ['\\', 'u', '0', '0', hexDigit (c.toNat / 16), hexDigit (c.toNat % 16)]
      else [c]

def quote (s : String) : String :=
  String.ofList ('"' :: (s.toList.flatMap escape ++ ['"']))

def number (n : Number) : String :=
  (n.write?).getD "null"

def byteFields (mark : String) (bs : List Nat) : List String :=
  bs.zipIdx.map fun (b, i) => quote (toString i) ++ mark ++ toString b

mutual

def compact : Value -> String
  | .null => "null"
  | .bool true => "true"
  | .bool false => "false"
  | .number n => number n
  | .text s => quote s
  | .list items => "[" ++ String.intercalate "," (compactItems items) ++ "]"
  | .table fields => "\x7b" ++ String.intercalate "," (compactFields fields) ++ "\x7d"
  | .moment m => quote m.text
  | .bytes bs => "\x7b" ++ String.intercalate "," (byteFields ":" bs) ++ "\x7d"

def compactItems : List Value -> List String
  | [] => []
  | item :: rest => compact item :: compactItems rest

def compactFields : List (String × Value) -> List String
  | [] => []
  | (key, value) :: rest => (quote key ++ ":" ++ compact value) :: compactFields rest

end

def newline (level : Nat) : String :=
  "\n" ++ String.ofList (List.replicate (2 * level) ' ')

def block (level : Nat) (opening closing : String) (entries : List String) : String :=
  if entries.isEmpty then opening ++ closing
  else
    opening ++ newline (level + 1) ++ String.intercalate ("," ++ newline (level + 1)) entries ++
      newline level ++ closing

mutual

def indented (level : Nat) : Value -> String
  | .list items => block level "[" "]" (indentedItems (level + 1) items)
  | .table fields => block level "\x7b" "\x7d" (indentedFields (level + 1) fields)
  | .null => "null"
  | .bool true => "true"
  | .bool false => "false"
  | .number n => number n
  | .text s => quote s
  | .moment m => quote m.text
  | .bytes bs => block level "\x7b" "\x7d" (byteFields ": " bs)

def indentedItems (level : Nat) : List Value -> List String
  | [] => []
  | item :: rest => indented level item :: indentedItems level rest

def indentedFields (level : Nat) : List (String × Value) -> List String
  | [] => []
  | (key, value) :: rest => (quote key ++ ": " ++ indented level value) :: indentedFields level rest

end

end Json
end CamelSpell
