import CamelSpell.Number.Arithmetic
import CamelSpell.Number.Digits
import CamelSpell.Number.Shortest

/-!
# Brace expansion

`a{b,c}d` stands for `abd` and `acd`, and `{1..3}` for the numbers from 1 to 3, which are binary
floating-point numbers.  Sets may be nested and may follow each other; the expansions are listed in
the order of the text, the last set varying fastest.  At the top, empty expansions of a comma set
are left out.  Braces that hold neither a comma nor a sequence stand for themselves.
-/

namespace CamelSpell
namespace Glob
namespace Brace

inductive Symbol
  | plain (c : Char)
  | escaped (c : Char)
deriving DecidableEq, Repr

def limit : Nat := 100000

def isProtected (c : Char) : Bool :=
  c = '\\' || c = '\x7b' || c = '\x7d' || c = ',' || c = '.'

/-- Reads the backslashes that protect a mark; `read` holds the symbols so far, last first. -/
def maskOnto (read : List Symbol) : List Char -> List Symbol
  | [] => read.reverse
  | '\\' :: c :: rest =>
      if isProtected c then maskOnto (.escaped c :: read) rest
      else maskOnto (.plain '\\' :: read) (c :: rest)
  | c :: rest => maskOnto (.plain c :: read) rest
termination_by text => text.length

def mask (pattern : List Char) : List Symbol :=
  maskOnto [] pattern

def unmask (symbols : List Symbol) : List Char :=
  symbols.map fun
    | .plain c => c
    | .escaped c => c

def opening : Symbol := .plain '\x7b'
def closing : Symbol := .plain '\x7d'
def comma : Symbol := .plain ','

/-- Positions of the first pair of braces that closes the outermost opening brace, or, if that one
stays open, of the leftmost pair inside.  `opened` holds the positions of the open braces, innermost
first, and `inner` the leftmost pair so far. -/
def pairFrom (position : Nat) (opened : List Nat) (inner : Option (Nat × Nat)) :
    List Symbol -> Option (Nat × Nat)
  | [] => if opened.isEmpty then none else inner
  | s :: rest =>
      if s = opening then pairFrom (position + 1) (position :: opened) inner rest
      else if s = closing then
        match opened with
        | [] => pairFrom (position + 1) [] inner rest
        | [start] => some (start, position)
        | start :: outer =>
            let inner := match inner with
              | some (left, right) =>
                  if start < left then some (start, position) else some (left, right)
              | none => some (start, position)
            pairFrom (position + 1) outer inner rest
      else pairFrom (position + 1) opened inner rest

structure Parts where
  before : List Symbol
  body : List Symbol
  after : List Symbol

def parts? (symbols : List Symbol) : Option Parts :=
  (pairFrom 0 [] none symbols).map fun (left, right) =>
    ⟨symbols.take left, (symbols.drop (left + 1)).take (right - left - 1),
      symbols.drop (right + 1)⟩

def splitCommas (symbols : List Symbol) : List (List Symbol) :=
  let (last, done) := symbols.foldl
    (fun (current, done) s =>
      if s = comma then ([], current.reverse :: done) else (s :: current, done))
    (([] : List Symbol), ([] : List (List Symbol)))
  (last.reverse :: done).reverse

def appendLast (lists : List (List Symbol)) (more : List Symbol) : List (List Symbol) :=
  match lists.reverse with
  | [] => [more]
  | last :: before => ((last ++ more) :: before).reverse

def members : Nat -> List Symbol -> List (List Symbol)
  | 0, symbols => [symbols]
  | fuel + 1, symbols =>
      match parts? symbols with
      | none => splitCommas symbols
      | some p =>
          let front := appendLast (splitCommas p.before) (opening :: p.body ++ [closing])
          match p.after with
          | [] => front
          | after =>
              match members fuel after with
              | [] => front
              | first :: more => appendLast front first ++ more

def integer? (text : List Char) : Option Number :=
  let value (negative : Bool) (digits : List Char) : Option Number :=
    if digits ≠ [] ∧ digits.all Char.isDigit then
      some (Number.ofDecimal negative (Number.ofDigits digits) 0)
    else none
  match text with
  | '-' :: digits => value true digits
  | digits => value false digits

def splitDoublePoints (text : List Char) : List (List Char) :=
  go [] text
where
  go (current : List Char) : List Char -> List (List Char)
    | [] => [current.reverse]
    | '.' :: '.' :: rest => current.reverse :: go [] rest
    | c :: rest => go (c :: current) rest

def isPadded (text : List Char) : Bool :=
  match text with
  | '-' :: '0' :: d :: _ => d.isDigit
  | '0' :: d :: _ => d.isDigit
  | _ => false

structure Progression where
  numbers : List Number
  repeats : Nat

def progressionFrom (last step : Number) (down : Bool) :
    Nat -> List Number -> Number -> Progression
  | 0, read, _ => ⟨read.reverse, 0⟩
  | fuel + 1, read, n =>
      let within := if down then last.le n else n.le last
      let next := n.add step
      if !within then ⟨read.reverse, 0⟩
      else if next = n then ⟨(n :: read).reverse, fuel⟩
      else progressionFrom last step down fuel (n :: read) next

/-- The numbers from `first` to `last` in steps of `step`, within the limit.  A step that is too
small to lead to another number repeats the last one until the limit is reached. -/
def progression (first last step : Number) : Progression :=
  let down := !first.le last
  progressionFrom last (if down then step.neg else step) down limit [] first

def Progression.texts (p : Progression) (write : Number -> List Char) : List (List Char) :=
  let texts := p.numbers.map write
  texts ++ List.replicate p.repeats (texts.getLastD [])

def padded (width : Nat) (n : Number) : List Char :=
  let written := n.text.toList
  let zeros := List.replicate (width - written.length) '0'
  match written with
  | '-' :: digits => '-' :: zeros ++ digits
  | digits => zeros ++ digits

def sequence? (body : List Char) : Option (List (List Char)) :=
  let one := Number.ofNat 1
  let stepOf (rest : List (List Char)) : Option Number :=
    match rest with
    | [] => some one
    | [step] => (integer? step).map fun n => if n.abs.le one then one else n.abs
    | _ => none
  match splitDoublePoints body with
  | first :: last :: rest =>
      match stepOf rest with
      | none => none
      | some step =>
          match integer? first, integer? last with
          | some x, some y =>
              let width :=
                if (first :: last :: rest).any isPadded then max first.length last.length else 0
              some ((progression x y step).texts (padded width))
          | _, _ =>
              match first, last with
              | [x], [y] =>
                  if x.isAlpha ∧ y.isAlpha then
                    some ((progression (.ofNat x.toNat) (.ofNat y.toNat) step).texts fun n =>
                      let c := Char.ofNat (n.toNat?.getD 0)
                      if c = '\\' then [] else [c])
                  else none
              | _, _ => none
  | _ => none

def plainText? (symbols : List Symbol) : Option (List Char) :=
  symbols.mapM fun
    | .plain c => some c
    | .escaped _ => none

def isLineEnd (c : Char) : Bool :=
  c = '\n' || c = '\r' || c = '\u2028' || c = '\u2029'

def closesOnLine : List Symbol -> Bool
  | [] => false
  | s :: rest =>
      match s with
      | .plain c => c = '\x7d' || (!isLineEnd c && closesOnLine rest)
      | .escaped _ => closesOnLine rest

/-- Whether a comma that no other comma follows has a closing brace later on its line. -/
def commaThenClose : List Symbol -> Bool
  | [] => false
  | s :: rest => (s = comma && rest.head? != some comma && closesOnLine rest) || commaThenClose rest

def combine (before : List Symbol) (middles afters : List (List Symbol)) : List (List Symbol) :=
  (middles.flatMap fun middle => afters.map fun after => before ++ middle ++ after).take limit

def expandSymbols : Nat -> Bool -> List Symbol -> List (List Symbol)
  | 0, _, symbols => [symbols]
  | fuel + 1, top, symbols =>
      match parts? symbols with
      | none => [symbols]
      | some p =>
          let afters := if p.after.isEmpty then [[]] else expandSymbols fuel false p.after
          if p.before.getLast? = some (.plain '$') then
            combine p.before [opening :: p.body ++ [closing]] afters
          else
            match (plainText? p.body).bind sequence? with
            | some texts => combine p.before (texts.map fun text => text.map .plain) afters
            | none =>
                if !p.body.contains comma then
                  if commaThenClose p.after then
                    expandSymbols fuel false
                      (p.before ++ opening :: p.body ++ .escaped '\x7d' :: p.after)
                  else [symbols]
                else
                  let keep (expansions : List (List Symbol)) :=
                    if top then expansions.filter fun e => !e.isEmpty else expansions
                  match members fuel p.body with
                  | [only] =>
                      let inner := (expandSymbols fuel false only).map fun e =>
                        opening :: e ++ [closing]
                      match inner with
                      | [single] => afters.map fun after => p.before ++ single ++ after
                      | several =>
                          keep (combine p.before
                            (several.flatMap fun e => expandSymbols fuel false e) afters)
                  | several =>
                      keep (combine p.before
                        (several.flatMap fun e => expandSymbols fuel false e) afters)

def hasPair : Bool -> List Char -> Bool
  | _, [] => false
  | isOpen, c :: rest =>
      if c = '\x7b' then hasPair true rest
      else if c = '\x7d' ∧ isOpen then true
      else hasPair (isOpen && !isLineEnd c) rest

/-- The expansions of a pattern, each run of equal ones once.  A pair of empty braces at the
beginning stands for itself. -/
def expand (pattern : List Char) : List (List Char) :=
  if hasPair false pattern then
    let symbols := match pattern with
      | '\x7b' :: '\x7d' :: rest => .escaped '\x7b' :: .escaped '\x7d' :: mask rest
      | _ => mask pattern
    ((expandSymbols (2 * symbols.length + 2) true symbols).map unmask).eraseReps
  else [pattern]

end Brace
end Glob
end CamelSpell
