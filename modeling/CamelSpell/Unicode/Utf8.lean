/-!
# Decoding of UTF-8

Bytes are read one at a time.  Between two characters nothing is pending; inside a sequence the
bits read so far are kept together with the bounds of the next byte, so that overlong forms,
surrogates and numbers above U+10FFFF are refused at the first byte that shows them.

There are two readers over the same step.  The strict one works on chunks and stops at the first
malformed byte; the lenient one puts U+FFFD in the place of each malformed part and reads on.
-/

namespace CamelSpell
namespace Utf8

/-- A sequence that has begun: its bits so far, the bounds of its next byte, and how many bytes
follow that one. -/
structure Pending where
  bits : Nat
  low : Nat
  high : Nat
  more : Nat
deriving DecidableEq, Repr

inductive Step
  | char (c : Char)
  | pending (p : Pending)
  | malformed
deriving DecidableEq, Repr

def first (byte : Nat) : Step :=
  if byte < 0x80 then .char (Char.ofNat byte)
  else if byte < 0xC2 then .malformed
  else if byte < 0xE0 then .pending ⟨byte - 0xC0, 0x80, 0xBF, 0⟩
  else if byte < 0xF0 then
    .pending ⟨byte - 0xE0, if byte = 0xE0 then 0xA0 else 0x80,
      if byte = 0xED then 0x9F else 0xBF, 1⟩
  else if byte < 0xF5 then
    .pending ⟨byte - 0xF0, if byte = 0xF0 then 0x90 else 0x80,
      if byte = 0xF4 then 0x8F else 0xBF, 2⟩
  else .malformed

def next (p : Pending) (byte : Nat) : Step :=
  if byte < p.low ∨ p.high < byte then .malformed
  else
    let bits := p.bits * 64 + (byte - 0x80)
    match p.more with
    | 0 => .char (Char.ofNat bits)
    | more + 1 => .pending ⟨bits, 0x80, 0xBF, more⟩

def step : Option Pending -> Nat -> Step
  | none, byte => first byte
  | some p, byte => next p byte

/-!
## The strict reader

The characters of a chunk so far are kept last first, under the name `read`.
-/

/-- The strict reader between two chunks: the open sequence, and whether a character has been
read, after which a byte order mark is an ordinary character. -/
structure Decoder where
  pending : Option Pending
  begun : Bool
deriving DecidableEq, Repr

namespace Decoder

def start : Decoder := ⟨none, false⟩

def feedOnto (read : List Char) (d : Decoder) : List UInt8 -> Option (List Char × Decoder)
  | [] => some (read.reverse, d)
  | byte :: rest =>
      match step d.pending byte.toNat with
      | .malformed => none
      | .pending p => feedOnto read { d with pending := some p } rest
      | .char c =>
          if c = '\uFEFF' ∧ d.begun = false then feedOnto read ⟨none, true⟩ rest
          else feedOnto (c :: read) ⟨none, true⟩ rest

def feed (d : Decoder) (chunk : List UInt8) : Option (List Char × Decoder) :=
  feedOnto [] d chunk

def atBoundary (d : Decoder) : Bool :=
  d.pending.isNone

end Decoder

/-!
## The lenient reader

A byte that breaks an open sequence is read again, as the first byte of the next one.
-/

def lenientOnto (read : List Char) : Option Pending -> List UInt8 -> List Char
  | none, [] => read.reverse
  | some _, [] => ('\uFFFD' :: read).reverse
  | state, byte :: rest =>
      match step state byte.toNat with
      | .char c => lenientOnto (c :: read) none rest
      | .pending p => lenientOnto read (some p) rest
      | .malformed =>
          match state with
          | none => lenientOnto ('\uFFFD' :: read) none rest
          | some _ =>
              match first byte.toNat with
              | .char c => lenientOnto (c :: '\uFFFD' :: read) none rest
              | .pending p => lenientOnto ('\uFFFD' :: read) (some p) rest
              | .malformed => lenientOnto ('\uFFFD' :: '\uFFFD' :: read) none rest

def lenient (bytes : List UInt8) : String :=
  String.ofList (lenientOnto [] none bytes)

def encode (text : String) : List UInt8 :=
  text.toUTF8.toList

end Utf8
end CamelSpell
