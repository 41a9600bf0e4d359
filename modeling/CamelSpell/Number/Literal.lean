import CamelSpell.Json.Reader
import CamelSpell.Unicode.Blank

/-!
# Numbers as they are typed

A number is typed in decimal notation, with a sign, a point and a power of ten if need be, or
without any of them in base two, eight or sixteen.  Blanks around it do not matter, and nothing at
all is zero.
-/

namespace CamelSpell
namespace Number

def digits? (base : Nat) (s : List Char) : Option Nat :=
  if s.isEmpty then none
  else
    s.foldl (fun n d => do
      let n <- n
      let d <- Json.hexValue? d
      if d < base then return n * base + d else none) (some 0)

def signOf : List Char -> Bool × List Char
  | '-' :: rest => (true, rest)
  | '+' :: rest => (false, rest)
  | s => (false, s)

def power? : List Char -> Option Int
  | [] => some 0
  | e :: rest =>
      if e = 'e' || e = 'E' then
        let (negative, ds) := signOf rest
        (digits? 10 ds).map fun n => if negative then -(n : Int) else n
      else none

def splitAtPoint (s : List Char) : List Char × List Char × List Char :=
  let whole := s.takeWhile Char.isDigit
  match s.dropWhile Char.isDigit with
  | '.' :: more => (whole, more.takeWhile Char.isDigit, more.dropWhile Char.isDigit)
  | rest => (whole, [], rest)

def decimal? (negative : Bool) (s : List Char) : Option Number :=
  let (whole, fraction, rest) := splitAtPoint s
  if whole.isEmpty && fraction.isEmpty then none
  else
    (power? rest).map fun e =>
      ofDecimal negative (ofDigits (whole ++ fraction)) (e - fraction.length)

def signed? (s : List Char) : Option Number :=
  let (negative, rest) := signOf s
  if rest = "Infinity".toList then some (infinite negative) else decimal? negative rest

def base? (mark : Char) : Option Nat :=
  if mark = 'b' || mark = 'B' then some 2
  else if mark = 'o' || mark = 'O' then some 8
  else if mark = 'x' || mark = 'X' then some 16
  else none

def ofText? (text : List Char) : Option Number :=
  match Unicode.trimBlank text with
  | [] => some (ofNat 0)
  | '0' :: mark :: rest =>
      match base? mark with
      | some base => (digits? base rest).map ofNat
      | none => signed? ('0' :: mark :: rest)
  | s => signed? s

end Number
end CamelSpell
