import CamelSpell.FileSystem.Access
import CamelSpell.Scanner
import CamelSpell.Unicode.Utf8

/-!
# Checking of files

A file is read in chunks, which are decoded and scanned as they come.  Whether the contents are
UTF-8 is only known at the end; if they are not, nothing is reported of the words before.
-/

namespace CamelSpell

open Utf8

structure CheckState where
  decoder : Decoder
  scanner : Scanner

namespace CheckState

def start : CheckState := ⟨.start, .start⟩

def push? (r : Rules) (s : CheckState) (chunk : List UInt8) : Option CheckState :=
  (s.decoder.feed chunk).map fun (text, decoder) => ⟨decoder, s.scanner.push r text⟩

def pushAll? (r : Rules) (s : CheckState) : List (List UInt8) -> Option CheckState
  | [] => some s
  | chunk :: rest => (s.push? r chunk).bind fun s => s.pushAll? r rest

def finish? (r : Rules) (s : CheckState) : Option (List Misspelling) :=
  if s.decoder.atBoundary then some (s.scanner.closeToken r).report else none

end CheckState

/-- The misspellings of contents that come in chunks, or nothing if they are not UTF-8. -/
def checkChunks? (r : Rules) (chunks : List (List UInt8)) : Option (List Misspelling) :=
  (CheckState.start.pushAll? r chunks).bind fun s => s.finish? r

inductive FileStatus
  | clean
  | mistakes (found : List Misspelling)
  | notUtf8
  | unreadable (error : FileError)
deriving DecidableEq, Repr

structure CheckedFile where
  path : Path
  status : FileStatus
deriving DecidableEq, Repr

def chunkLength : Nat := 65536

def chunksOf (length : Nat) (bytes : List UInt8) : List (List UInt8) :=
  if _h : length = 0 ∨ bytes = [] then (if bytes = [] then [] else [bytes])
  else bytes.take length :: chunksOf length (bytes.drop length)
termination_by bytes.length
decreasing_by
  simp only [not_or] at _h
  have := List.length_pos_iff.mpr _h.2
  simp only [List.length_drop]
  omega

namespace FileStatus

def ofChunks (r : Rules) (chunks : List (List UInt8)) : FileStatus :=
  match checkChunks? r chunks with
  | none => notUtf8
  | some [] => clean
  | some found => mistakes found

end FileStatus

def checkFile (fs : FileSystem) (r : Rules) (p : Path) : CheckedFile :=
  match fs.read p with
  | .ok bytes => ⟨p, .ofChunks r (chunksOf chunkLength bytes)⟩
  | .error e => ⟨p, .unreadable e⟩

structure Finding where
  path : Path
  misspelling : Misspelling
deriving DecidableEq, Repr

namespace CheckedFile

def findings (c : CheckedFile) : List Finding :=
  match c.status with
  | .mistakes found => found.map fun m => ⟨c.path, m⟩
  | _ => []

end CheckedFile
end CamelSpell
