import CamelSpell.FileCheck
import CamelSpell.Proofs.Utf8

/-!
# Checking of decoded files

Between two chunks the decoder may be inside of a character and the scanner inside of a token.  Both
go on where they stopped, so that the chunks come to the same as the whole contents: the
misspellings of their text, or nothing at all if the contents turn out not to be UTF-8 in the end.
-/

namespace CamelSpell

open Utf8

/-!
# Chunks

Chunks bring the decoder and the scanner to where their concatenation brings them.
-/

theorem flatten_chunksOf (length : Nat) (bytes : List UInt8) :
    (chunksOf length bytes).flatten = bytes := by
  induction bytes using chunksOf.induct length with
  | case1 hstop =>
      unfold chunksOf
      rw [dif_pos hstop, if_pos rfl]
      rfl
  | case2 bytes hstop hne =>
      unfold chunksOf
      rw [dif_pos hstop, if_neg hne, List.flatten_singleton]
  | case3 bytes hmore ih =>
      unfold chunksOf
      rw [dif_neg hmore, List.flatten_cons, ih, List.take_append_drop]

namespace CheckState

theorem push?_eq (r : Rules) (s : CheckState) (chunk : List UInt8) :
    s.push? r chunk =
      (s.decoder.feed chunk).map fun (text, decoder) => ⟨decoder, s.scanner.push r text⟩ :=
  rfl

theorem pushAll?_eq (r : Rules) (s : CheckState) (chunks : List (List UInt8)) :
    s.pushAll? r chunks = s.push? r chunks.flatten := by
  induction chunks generalizing s with
  | nil =>
      rfl
  | cons chunk rest ih =>
      rw [pushAll?, List.flatten_cons, push?_eq r s (chunk ++ rest.flatten), Decoder.feed_append,
        push?_eq]
      cases s.decoder.feed chunk with
      | none =>
          rfl
      | some read =>
          rw [Option.map_some, Option.bind_some, Option.bind_some, ih, push?_eq, Option.map_map]
          congr 1
          funext more
          show _ = CheckState.mk more.2 (s.scanner.push r (read.1 ++ more.1))
          rw [Scanner.push_append]

end CheckState

theorem checkChunks?_eq (r : Rules) (chunks : List (List UInt8)) :
    checkChunks? r chunks = (decode? chunks.flatten).map (checkText r) := by
  unfold checkChunks? decode?
  rw [CheckState.pushAll?_eq, CheckState.push?_eq]
  show ((Decoder.start.feed chunks.flatten).map _).bind _ = _
  cases Decoder.start.feed chunks.flatten with
  | none =>
      rfl
  | some read =>
      rcases read with ⟨text, decoder⟩
      simp only [Option.map_some, Option.bind_some, CheckState.finish?]
      cases decoder.atBoundary <;> rfl

namespace FileStatus

def ofFound : List Misspelling -> FileStatus
  | [] => clean
  | found => mistakes found

theorem ofFound_ne_notUtf8 (found : List Misspelling) : ofFound found ≠ notUtf8 := by
  cases found <;> exact FileStatus.noConfusion

theorem ofChunks_eq (r : Rules) (chunks : List (List UInt8)) :
    ofChunks r chunks =
      match decode? chunks.flatten with
      | none => notUtf8
      | some text => ofFound (checkText r text) := by
  unfold ofChunks
  rw [checkChunks?_eq]
  cases decode? chunks.flatten with
  | none =>
      rfl
  | some text =>
      simp only [Option.map_some]
      cases checkText r text <;> rfl

end FileStatus

namespace CheckedFile

theorem findings_ofFound (p : Path) (found : List Misspelling) :
    findings ⟨p, .ofFound found⟩ = found.map fun m => ⟨p, m⟩ := by
  cases found <;> rfl

end CheckedFile

/-!
# Files

A readable file is checked as any chunks of its contents would be.
-/

section CheckFile

variable {fs : FileSystem} {p : Path} {bytes : List UInt8}

theorem checkFile_of_chunks (hread : fs.read p = .ok bytes) (r : Rules)
    {chunks : List (List UInt8)} (hchunks : chunks.flatten = bytes) :
    checkFile fs r p = ⟨p, .ofChunks r chunks⟩ := by
  unfold checkFile
  rw [hread]
  simp only
  rw [FileStatus.ofChunks_eq, FileStatus.ofChunks_eq, flatten_chunksOf, hchunks]

theorem checkFile_of_decode? (hread : fs.read p = .ok bytes) (r : Rules) {text : List Char}
    (htext : decode? bytes = some text) :
    checkFile fs r p = ⟨p, .ofFound (checkText r text)⟩ := by
  rw [checkFile_of_chunks hread r (List.flatten_singleton), FileStatus.ofChunks_eq,
    List.flatten_singleton, htext]

theorem checkFile_of_decode?_none (hread : fs.read p = .ok bytes) (r : Rules)
    (htext : decode? bytes = none) : checkFile fs r p = ⟨p, .notUtf8⟩ := by
  rw [checkFile_of_chunks hread r (List.flatten_singleton), FileStatus.ofChunks_eq,
    List.flatten_singleton, htext]

end CheckFile

/-- However the contents of a readable file are cut into chunks: they are refused exactly if they
are not well formed as a whole, and then nothing is found in them; otherwise the findings are the
misspellings of the text that they encode, without a byte order mark in front. -/
theorem checkFile_eq_checkText {fs : FileSystem} {p : Path} {bytes : List UInt8}
    (hread : fs.read p = .ok bytes) (r : Rules) :
    (forall chunks : List (List UInt8), chunks.flatten = bytes ->
      checkFile fs r p = ⟨p, .ofChunks r chunks⟩) ∧
    ((checkFile fs r p).status = .notUtf8 <-> ¬ bytes.toByteArray.IsValidUTF8) ∧
    ((checkFile fs r p).status = .notUtf8 -> (checkFile fs r p).findings = []) ∧
    (forall text, encoded text = bytes ->
      (checkFile fs r p).status = .ofFound (checkText r (withoutMark text)) ∧
      (checkFile fs r p).findings =
        (checkText r (withoutMark text)).map fun m => ⟨p, m⟩) := by
  refine ⟨?_, ?_, ?_, ?_⟩
  · intro chunks hchunks
    exact checkFile_of_chunks hread r hchunks
  · rw [<- decode?_eq_none_iff]
    cases htext : decode? bytes with
    | none =>
        rw [checkFile_of_decode?_none hread r htext]
        simp
    | some text =>
        rw [checkFile_of_decode? hread r htext]
        simp [FileStatus.ofFound_ne_notUtf8]
  · intro hstatus
    unfold CheckedFile.findings
    rw [hstatus]
  · intro text htext
    have hdecode : decode? bytes = some (withoutMark text) :=
      decode?_eq_some_iff.mpr ⟨text, htext, rfl⟩
    rw [checkFile_of_decode? hread r hdecode]
    exact ⟨rfl, CheckedFile.findings_ofFound p _⟩

def accentedFiles : FileSystem where
  root := Tree.directory
    [(['a'], Tree.file [0xEF, 0xBB, 0xBF, 0x63, 0x61, 0x66, 0xC3, 0xA9, 0x73]),
      (['b'], Tree.file [0x77, 0x72, 0x72, 0x64, 0x20, 0xC3])]
  workingNames := []

theorem checkFile_eq_checkText_accented :
    accentedFiles.read ['a'] = .ok [0xEF, 0xBB, 0xBF, 0x63, 0x61, 0x66, 0xC3, 0xA9, 0x73] ∧
      FileStatus.ofChunks ⟨Dictionary.empty, 4⟩
          [[0xEF], [0xBB, 0xBF, 0x63, 0x61, 0x66, 0xC3], [], [0xA9, 0x73]] =
        .mistakes [⟨['c', 'a', 'f', 'é', 's'], 1, 1⟩] ∧
      accentedFiles.read ['b'] = .ok [0x77, 0x72, 0x72, 0x64, 0x20, 0xC3] ∧
      FileStatus.ofChunks ⟨Dictionary.empty, 4⟩ [[0x77, 0x72, 0x72, 0x64, 0x20], [0xC3]] =
        .notUtf8 ∧
      (checkFile accentedFiles ⟨Dictionary.empty, 4⟩ ['b']).findings = [] := by
  have hwhole : accentedFiles.read ['a'] =
      .ok [0xEF, 0xBB, 0xBF, 0x63, 0x61, 0x66, 0xC3, 0xA9, 0x73] := by
    cbv
  have hbroken : accentedFiles.read ['b'] = .ok [0x77, 0x72, 0x72, 0x64, 0x20, 0xC3] := by
    cbv
  have haccent := checkFile_eq_checkText hwhole ⟨Dictionary.empty, 4⟩
  have hbreak := checkFile_eq_checkText hbroken ⟨Dictionary.empty, 4⟩
  have hcut := haccent.1 [[0xEF], [0xBB, 0xBF, 0x63, 0x61, 0x66, 0xC3], [], [0xA9, 0x73]] rfl
  have hend := hbreak.1 [[0x77, 0x72, 0x72, 0x64, 0x20], [0xC3]] rfl
  have hstatus : FileStatus.ofChunks ⟨Dictionary.empty, 4⟩
      [[0x77, 0x72, 0x72, 0x64, 0x20], [0xC3]] = .notUtf8 := by
    decide +kernel
  refine ⟨hwhole, ?_, hbroken, hstatus, ?_⟩
  · have htext := (haccent.2.2.2 ['\uFEFF', 'c', 'a', 'f', 'é', 's'] (by decide +kernel)).1
    rw [hcut] at htext
    refine htext.trans ?_
    decide +kernel
  · apply hbreak.2.2.1
    rw [hend, hstatus]

end CamelSpell
