import CamelSpell.Unicode.Utf8
import Mathlib

/-!
# Well-formed UTF-8

Bytes are well formed if they are the encoding of some text.  The strict reader refuses all others,
and what it reads of an encoding is the text, up to the byte order mark in front.  The lenient
reader reads the whole text.
-/

namespace CamelSpell
namespace Utf8

def encoded (text : List Char) : List UInt8 :=
  text.flatMap String.utf8EncodeChar

theorem encoded_cons (c : Char) (text : List Char) :
    encoded (c :: text) = String.utf8EncodeChar c ++ encoded text :=
  rfl

theorem isValidUTF8_iff {bytes : List UInt8} :
    bytes.toByteArray.IsValidUTF8 <-> exists text, encoded text = bytes := by
  constructor
  · rintro ⟨text, htext⟩
    exact ⟨text, (List.toByteArray_inj.mp htext).symm⟩
  · rintro ⟨text, htext⟩
    exact ⟨text, congrArg List.toByteArray htext.symm⟩

/-!
# One character

The bytes that lead from a state to the end of a character are followed one at a time; those that
lead there from the boundary between two characters are the encoding of the character.
-/

def Completes (c : Char) : Option Pending -> List UInt8 -> Prop
  | _, [] => False
  | state, byte :: rest =>
      match step state byte.toNat with
      | .char read => read = c ∧ rest = []
      | .pending p => Completes c (some p) rest
      | .malformed => False

theorem completes_last {c : Char} {bits low high : Nat} {bytes : List UInt8} :
    Completes c (some ⟨bits, low, high, 0⟩) bytes <->
      exists byte, bytes = [byte] ∧ low ≤ byte.toNat ∧ byte.toNat ≤ high ∧
        Char.ofNat (bits * 64 + (byte.toNat - 0x80)) = c := by
  cases bytes with
  | nil =>
      simp [Completes]
  | cons byte rest =>
      by_cases hbounds : byte.toNat < low ∨ high < byte.toNat
      · simp only [Completes, step, next, hbounds, if_true, false_iff]
        rintro ⟨b, hb, hlow, hhigh, _⟩
        cases hb
        omega
      · simp only [Completes, step, next, hbounds, if_false]
        constructor
        · rintro ⟨hread, hrest⟩
          exact ⟨byte, by rw [hrest], by omega, by omega, hread⟩
        · rintro ⟨b, hb, _, _, hread⟩
          cases hb
          exact ⟨hread, rfl⟩

theorem completes_more {c : Char} {bits low high more : Nat} {bytes : List UInt8} :
    Completes c (some ⟨bits, low, high, more + 1⟩) bytes <->
      exists byte rest, bytes = byte :: rest ∧ low ≤ byte.toNat ∧ byte.toNat ≤ high ∧
        Completes c (some ⟨bits * 64 + (byte.toNat - 0x80), 0x80, 0xBF, more⟩) rest := by
  cases bytes with
  | nil =>
      simp [Completes]
  | cons byte rest =>
      by_cases hbounds : byte.toNat < low ∨ high < byte.toNat
      · simp only [Completes, step, next, hbounds, if_true, false_iff]
        rintro ⟨b, others, hb, hlow, hhigh, _⟩
        cases hb
        omega
      · simp only [Completes, step, next, hbounds, if_false]
        constructor
        · intro hrest
          exact ⟨byte, rest, rfl, by omega, by omega, hrest⟩
        · rintro ⟨b, others, hb, _, _, hrest⟩
          cases hb
          exact hrest

theorem toNat_valid (c : Char) : c.toNat < 0xD800 ∨ (0xDFFF < c.toNat ∧ c.toNat < 0x110000) :=
  c.valid

theorem ofNat_eq_char {n : Nat} {c : Char} (h : n = c.toNat) : Char.ofNat n = c := by
  rw [h, Char.ofNat_toNat]

theorem exists_byte {n : Nat} (h : n < 256) : exists byte : UInt8, byte.toNat = n :=
  ⟨UInt8.ofNat n, UInt8.toNat_ofNat_of_lt' h⟩

theorem first_one {byte : Nat} (h : byte < 0x80) : first byte = .char (Char.ofNat byte) := by
  unfold first
  rw [if_pos h]

theorem first_two {byte : Nat} (hlow : 0xC2 ≤ byte) (hhigh : byte ≤ 0xDF) :
    first byte = .pending ⟨byte - 0xC0, 0x80, 0xBF, 0⟩ := by
  unfold first
  rw [if_neg (by omega), if_neg (by omega), if_pos (by omega)]

theorem first_three {byte : Nat} (hlow : 0xE0 ≤ byte) (hhigh : byte ≤ 0xEF) :
    first byte = .pending ⟨byte - 0xE0, if byte = 0xE0 then 0xA0 else 0x80,
      if byte = 0xED then 0x9F else 0xBF, 1⟩ := by
  unfold first
  rw [if_neg (by omega), if_neg (by omega), if_neg (by omega), if_pos (by omega)]

theorem first_four {byte : Nat} (hlow : 0xF0 ≤ byte) (hhigh : byte ≤ 0xF4) :
    first byte = .pending ⟨byte - 0xF0, if byte = 0xF0 then 0x90 else 0x80,
      if byte = 0xF4 then 0x8F else 0xBF, 2⟩ := by
  unfold first
  rw [if_neg (by omega), if_neg (by omega), if_neg (by omega), if_neg (by omega),
    if_pos (by omega)]

theorem completes_of_char {c read : Char} {byte : UInt8} {rest : List UInt8}
    (h : first byte.toNat = .char read) :
    Completes c none (byte :: rest) <-> read = c ∧ rest = [] := by
  simp only [Completes, step, h]

theorem completes_of_pending {c : Char} {byte : UInt8} {rest : List UInt8} {p : Pending}
    (h : first byte.toNat = .pending p) :
    Completes c none (byte :: rest) <-> Completes c (some p) rest := by
  simp only [Completes, step, h]

theorem first_malformed {byte : Nat} (h : (0x80 ≤ byte ∧ byte < 0xC2) ∨ 0xF4 < byte) :
    first byte = .malformed := by
  unfold first
  rw [if_neg (by omega)]
  rcases h with hgap | habove
  · rw [if_pos hgap.2]
  · rw [if_neg (by omega), if_neg (by omega), if_neg (by omega), if_neg (by omega)]

/-!
# The four lengths

The encoding of a character has one to four bytes.  It is read as that character, and no other
bytes are.
-/

section EncodeChar

variable {c : Char} {first second third fourth : UInt8}

theorem encodeChar_one (hhigh : c.toNat ≤ 0x7F) (hfirst : first.toNat = c.toNat) :
    String.utf8EncodeChar c = [first] := by
  show ite (c.toNat ≤ 0x7F) [UInt8.ofNat c.toNat] _ = _
  rw [if_pos hhigh, <- hfirst, UInt8.ofNat_toNat]

theorem encodeChar_two (hlow : 0x7F < c.toNat) (hhigh : c.toNat ≤ 0x7FF)
    (hfirst : first.toNat = c.toNat / 64 + 0xC0) (hsecond : second.toNat = c.toNat % 64 + 0x80) :
    String.utf8EncodeChar c = [first, second] := by
  show ite (c.toNat ≤ 0x7F) _ (ite (c.toNat ≤ 0x7FF)
    [UInt8.ofNat (c.toNat / 64 % 32 + 0xC0), UInt8.ofNat (c.toNat % 64 + 0x80)] _) = _
  have hlead : c.toNat / 64 % 32 = c.toNat / 64 := Nat.mod_eq_of_lt (by omega)
  rw [if_neg (by omega), if_pos hhigh, hlead, <- hfirst, <- hsecond]
  simp only [UInt8.ofNat_toNat]

theorem encodeChar_three (hlow : 0x7FF < c.toNat) (hhigh : c.toNat ≤ 0xFFFF)
    (hfirst : first.toNat = c.toNat / 4096 + 0xE0)
    (hsecond : second.toNat = c.toNat / 64 % 64 + 0x80)
    (hthird : third.toNat = c.toNat % 64 + 0x80) :
    String.utf8EncodeChar c = [first, second, third] := by
  show ite (c.toNat ≤ 0x7F) _ (ite (c.toNat ≤ 0x7FF) _ (ite (c.toNat ≤ 0xFFFF)
    [UInt8.ofNat (c.toNat / 4096 % 16 + 0xE0), UInt8.ofNat (c.toNat / 64 % 64 + 0x80),
      UInt8.ofNat (c.toNat % 64 + 0x80)] _)) = _
  have hlead : c.toNat / 4096 % 16 = c.toNat / 4096 := Nat.mod_eq_of_lt (by omega)
  rw [if_neg (by omega), if_neg (by omega), if_pos hhigh, hlead, <- hfirst, <- hsecond, <- hthird]
  simp only [UInt8.ofNat_toNat]

theorem encodeChar_four (hlow : 0xFFFF < c.toNat)
    (hfirst : first.toNat = c.toNat / 262144 + 0xF0)
    (hsecond : second.toNat = c.toNat / 4096 % 64 + 0x80)
    (hthird : third.toNat = c.toNat / 64 % 64 + 0x80)
    (hfourth : fourth.toNat = c.toNat % 64 + 0x80) :
    String.utf8EncodeChar c = [first, second, third, fourth] := by
  have hvalid := toNat_valid c
  show ite (c.toNat ≤ 0x7F) _ (ite (c.toNat ≤ 0x7FF) _ (ite (c.toNat ≤ 0xFFFF) _
    [UInt8.ofNat (c.toNat / 262144 % 8 + 0xF0), UInt8.ofNat (c.toNat / 4096 % 64 + 0x80),
      UInt8.ofNat (c.toNat / 64 % 64 + 0x80), UInt8.ofNat (c.toNat % 64 + 0x80)])) = _
  have hlead : c.toNat / 262144 % 8 = c.toNat / 262144 := Nat.mod_eq_of_lt (by omega)
  rw [if_neg (by omega), if_neg (by omega), if_neg (by omega), hlead, <- hfirst, <- hsecond,
    <- hthird, <- hfourth]
  simp only [UInt8.ofNat_toNat]

end EncodeChar

theorem completes_encodeChar (c : Char) : Completes c none (String.utf8EncodeChar c) := by
  have hvalid := toNat_valid c
  have hbyte : forall n, n < 256 -> exists byte : UInt8, byte.toNat = n :=
    fun n hn => exists_byte hn
  by_cases hone : c.toNat ≤ 0x7F
  · rcases hbyte c.toNat (by omega) with ⟨byte, h⟩
    rw [encodeChar_one hone h, completes_of_char (first_one (by omega))]
    exact ⟨ofNat_eq_char h, rfl⟩
  rcases hbyte (c.toNat % 64 + 0x80) (by omega) with ⟨last, hlast⟩
  by_cases htwo : c.toNat ≤ 0x7FF
  · rcases hbyte (c.toNat / 64 + 0xC0) (by omega) with ⟨byte, h⟩
    rw [encodeChar_two (by omega) htwo h hlast,
      completes_of_pending (first_two (by omega) (by omega)), completes_last]
    exact ⟨last, rfl, by omega, by omega, ofNat_eq_char (by omega)⟩
  rcases hbyte (c.toNat / 64 % 64 + 0x80) (by omega) with ⟨third, hthird⟩
  by_cases hthree : c.toNat ≤ 0xFFFF
  · rcases hbyte (c.toNat / 4096 + 0xE0) (by omega) with ⟨byte, h⟩
    rw [encodeChar_three (by omega) hthree h hthird hlast,
      completes_of_pending (first_three (by omega) (by omega)), completes_more]
    refine ⟨third, [last], rfl, ?_, ?_, ?_⟩
    · split <;> omega
    · split <;> omega
    · rw [completes_last]
      exact ⟨last, rfl, by omega, by omega, ofNat_eq_char (by omega)⟩
  · rcases hbyte (c.toNat / 262144 + 0xF0) (by omega) with ⟨byte, h⟩
    rcases hbyte (c.toNat / 4096 % 64 + 0x80) (by omega) with ⟨second, hsecond⟩
    rw [encodeChar_four (by omega) h hsecond hthird hlast,
      completes_of_pending (first_four (by omega) (by omega)), completes_more]
    refine ⟨second, [third, last], rfl, ?_, ?_, ?_⟩
    · split <;> omega
    · split <;> omega
    · rw [completes_more]
      refine ⟨third, [last], rfl, by omega, by omega, ?_⟩
      rw [completes_last]
      exact ⟨last, rfl, by omega, by omega, ofNat_eq_char (by omega)⟩

section Completes

variable {c : Char} {byte : UInt8} {rest : List UInt8}

theorem eq_encodeChar_one (hhigh : byte.toNat < 0x80) (h : Completes c none (byte :: rest)) :
    byte :: rest = String.utf8EncodeChar c := by
  rcases (completes_of_char (first_one hhigh)).mp h with ⟨hread, hrest⟩
  have hc : c.toNat = byte.toNat := by
    rw [<- hread, Char.toNat_ofNat, if_pos (Or.inl (by omega))]
  rw [hrest]
  exact (encodeChar_one (by omega) hc.symm).symm

theorem eq_encodeChar_two (hlow : 0xC2 ≤ byte.toNat) (hhigh : byte.toNat ≤ 0xDF)
    (h : Completes c none (byte :: rest)) : byte :: rest = String.utf8EncodeChar c := by
  rw [completes_of_pending (first_two hlow hhigh), completes_last] at h
  rcases h with ⟨second, hrest, hsecond, hsecond', hread⟩
  have hc : c.toNat = (byte.toNat - 0xC0) * 64 + (second.toNat - 0x80) := by
    rw [<- hread, Char.toNat_ofNat, if_pos (Or.inl (by omega))]
  rw [hrest]
  exact (encodeChar_two (by omega) (by omega) (by omega) (by omega)).symm

theorem eq_encodeChar_three (hlow : 0xE0 ≤ byte.toNat) (hhigh : byte.toNat ≤ 0xEF)
    (h : Completes c none (byte :: rest)) : byte :: rest = String.utf8EncodeChar c := by
  rw [completes_of_pending (first_three hlow hhigh), completes_more] at h
  rcases h with ⟨second, others, hrest, hsecond, hsecond', h⟩
  rcases completes_last.mp h with ⟨third, hothers, hthird, hthird', hread⟩
  -- the bounds of the second byte keep the number above 0x7FF and out of the surrogates
  have hc : c.toNat = ((byte.toNat - 0xE0) * 64 + (second.toNat - 0x80)) * 64 +
      (third.toNat - 0x80) := by
    rw [<- hread, Char.toNat_ofNat, if_pos]
    unfold Nat.isValidChar
    split at hsecond <;> split at hsecond' <;> omega
  have hbounds : 0x7FF < c.toNat ∧ c.toNat ≤ 0xFFFF ∧ 0x80 ≤ second.toNat ∧
      second.toNat ≤ 0xBF := by
    split at hsecond <;> split at hsecond' <;> omega
  rw [hrest, hothers]
  exact (encodeChar_three (by omega) (by omega) (by omega) (by omega) (by omega)).symm

theorem eq_encodeChar_four (hlow : 0xF0 ≤ byte.toNat) (hhigh : byte.toNat ≤ 0xF4)
    (h : Completes c none (byte :: rest)) : byte :: rest = String.utf8EncodeChar c := by
  rw [completes_of_pending (first_four hlow hhigh), completes_more] at h
  rcases h with ⟨second, others, hrest, hsecond, hsecond', h⟩
  rcases completes_more.mp h with ⟨third, last, hothers, hthird, hthird', h⟩
  rcases completes_last.mp h with ⟨fourth, hlast, hfourth, hfourth', hread⟩
  -- the bounds of the second byte keep the number between 0x10000 and 0x10FFFF
  have hc : c.toNat = (((byte.toNat - 0xF0) * 64 + (second.toNat - 0x80)) * 64 +
      (third.toNat - 0x80)) * 64 + (fourth.toNat - 0x80) := by
    rw [<- hread, Char.toNat_ofNat, if_pos]
    unfold Nat.isValidChar
    split at hsecond <;> split at hsecond' <;> omega
  have hbounds : 0xFFFF < c.toNat ∧ 0x80 ≤ second.toNat ∧ second.toNat ≤ 0xBF := by
    split at hsecond <;> split at hsecond' <;> omega
  rw [hrest, hothers, hlast]
  exact (encodeChar_four (by omega) (by omega) (by omega) (by omega) (by omega)).symm

end Completes

theorem eq_encodeChar_of_completes {c : Char} {bytes : List UInt8}
    (h : Completes c none bytes) : bytes = String.utf8EncodeChar c := by
  cases bytes with
  | nil =>
      cases h
  | cons byte rest =>
      by_cases hmalformed : (0x80 ≤ byte.toNat ∧ byte.toNat < 0xC2) ∨ 0xF4 < byte.toNat
      · simp only [Completes, step, first_malformed hmalformed] at h
      by_cases hone : byte.toNat < 0x80
      · exact eq_encodeChar_one hone h
      by_cases htwo : byte.toNat ≤ 0xDF
      · exact eq_encodeChar_two (by omega) htwo h
      by_cases hthree : byte.toNat ≤ 0xEF
      · exact eq_encodeChar_three (by omega) hthree h
      · exact eq_encodeChar_four (by omega) (by omega) h

/-!
# Whole texts

What has been read of a chunk stands in front of the rest, so chunks that are read one after the
other are read like their concatenation.  A byte order mark is dropped in front of the text and
nowhere else.
-/

/-- A text without the byte order mark in front of it. -/
def withoutMark : List Char -> List Char
  | [] => []
  | c :: rest => if c = '\uFEFF' then rest else c :: rest

namespace Decoder

def keep (d : Decoder) (read : List Char) (c : Char) : List Char :=
  if c = '\uFEFF' ∧ d.begun = false then read else c :: read

theorem keep_append (d : Decoder) (read : List Char) (c : Char) :
    d.keep read c = d.keep [] c ++ read := by
  unfold keep
  split <;> rfl

section FeedOnto

variable {d : Decoder} {byte : UInt8}

theorem feedOnto_malformed (h : step d.pending byte.toNat = .malformed) (read : List Char)
    (rest : List UInt8) : feedOnto read d (byte :: rest) = none := by
  simp only [feedOnto, h]

theorem feedOnto_pending {p : Pending} (h : step d.pending byte.toNat = .pending p)
    (read : List Char) (rest : List UInt8) :
    feedOnto read d (byte :: rest) = feedOnto read { d with pending := some p } rest := by
  simp only [feedOnto, h]

theorem feedOnto_char {c : Char} (h : step d.pending byte.toNat = .char c) (read : List Char)
    (rest : List UInt8) :
    feedOnto read d (byte :: rest) = feedOnto (d.keep read c) ⟨none, true⟩ rest := by
  simp only [feedOnto, h, keep]
  split <;> rfl

end FeedOnto

theorem feedOnto_eq (read : List Char) (d : Decoder) (chunk : List UInt8) :
    feedOnto read d chunk = (d.feed chunk).map fun (text, d) => (read.reverse ++ text, d) := by
  unfold feed
  induction chunk generalizing read d with
  | nil =>
      simp [feedOnto]
  | cons byte rest ih =>
      cases hstep : step d.pending byte.toNat with
      | malformed =>
          rw [feedOnto_malformed hstep, feedOnto_malformed hstep]
          rfl
      | pending p =>
          rw [feedOnto_pending hstep, feedOnto_pending hstep]
          exact ih read { d with pending := some p }
      | char c =>
          rw [feedOnto_char hstep, feedOnto_char hstep, ih (d.keep read c), ih (d.keep [] c),
            keep_append d read]
          cases feedOnto [] ⟨none, true⟩ rest with
          | none =>
              rfl
          | some result =>
              simp

theorem feedOnto_append (read : List Char) (d : Decoder) (first second : List UInt8) :
    feedOnto read d (first ++ second) =
      (feedOnto read d first).bind fun (text, d) => feedOnto text.reverse d second := by
  induction first generalizing read d with
  | nil =>
      simp [feedOnto]
  | cons byte rest ih =>
      rw [List.cons_append]
      cases hstep : step d.pending byte.toNat with
      | malformed =>
          rw [feedOnto_malformed hstep, feedOnto_malformed hstep]
          rfl
      | pending p =>
          rw [feedOnto_pending hstep, feedOnto_pending hstep]
          exact ih read { d with pending := some p }
      | char c =>
          rw [feedOnto_char hstep, feedOnto_char hstep]
          exact ih (d.keep read c) ⟨none, true⟩

theorem feed_append (d : Decoder) (first second : List UInt8) :
    d.feed (first ++ second) =
      (d.feed first).bind fun (text, d) =>
        (d.feed second).map fun (more, d) => (text ++ more, d) := by
  unfold feed
  rw [feedOnto_append]
  congr 1
  funext ⟨text, d⟩
  simp only
  rw [feedOnto_eq, List.reverse_reverse]
  rfl

theorem feedOnto_of_completes {c : Char} {d : Decoder} {bytes : List UInt8}
    (h : Completes c d.pending bytes) (read : List Char) (rest : List UInt8) :
    feedOnto read d (bytes ++ rest) = feedOnto (d.keep read c) ⟨none, true⟩ rest := by
  induction bytes generalizing d with
  | nil =>
      cases h
  | cons byte others ih =>
      unfold Completes at h
      rw [List.cons_append]
      cases hstep : step d.pending byte.toNat with
      | malformed =>
          rw [hstep] at h
          cases h
      | pending p =>
          rw [hstep] at h
          rw [feedOnto_pending hstep]
          exact @ih { d with pending := some p } h
      | char read =>
          rw [hstep] at h
          rcases h with ⟨hread, hothers⟩
          rw [feedOnto_char hstep, hread, hothers, List.nil_append]

theorem feedOnto_encoded (read text : List Char) :
    feedOnto read ⟨none, true⟩ (encoded text) = some (read.reverse ++ text, ⟨none, true⟩) := by
  induction text generalizing read with
  | nil =>
      simp [encoded, feedOnto]
  | cons c rest ih =>
      rw [encoded_cons, feedOnto_of_completes (completes_encodeChar c), ih]
      simp [keep]

/-- What the strict reader reads to the end consists of the rest of the open character, if there is
one, and an encoding. -/
theorem exists_completes_of_feedOnto {read out : List Char} {d after : Decoder}
    {bytes : List UInt8} (h : feedOnto read d bytes = some (out, after))
    (hafter : after.pending = none) :
    (d.pending = none ∧ bytes = []) ∨
      exists c first text, bytes = first ++ encoded text ∧ Completes c d.pending first := by
  induction bytes generalizing read d with
  | nil =>
      cases h
      exact Or.inl ⟨hafter, rfl⟩
  | cons byte rest ih =>
      right
      cases hstep : step d.pending byte.toNat with
      | malformed =>
          rw [feedOnto_malformed hstep] at h
          cases h
      | pending p =>
          rw [feedOnto_pending hstep] at h
          rcases ih h with ⟨hnone, _⟩ | ⟨c, first, text, hrest, hcompletes⟩
          · cases hnone
          · refine ⟨c, byte :: first, text, by rw [hrest, List.cons_append], ?_⟩
            unfold Completes
            rw [hstep]
            exact hcompletes
      | char c =>
          rw [feedOnto_char hstep] at h
          have hrest : exists text, rest = encoded text := by
            rcases ih h with ⟨_, hnil⟩ | ⟨next, first, text, hrest, hcompletes⟩
            · exact ⟨[], hnil⟩
            · refine ⟨next :: text, ?_⟩
              rw [hrest, eq_encodeChar_of_completes hcompletes, encoded_cons]
          rcases hrest with ⟨text, hrest⟩
          refine ⟨c, [byte], text, by rw [hrest, List.singleton_append], ?_⟩
          unfold Completes
          rw [hstep]
          exact ⟨rfl, rfl⟩

end Decoder

/-!
# Whole contents

The strict reader reads well-formed contents and no others.
-/

/-- The text of contents, unless they break the encoding or end inside of a character. -/
def decode? (bytes : List UInt8) : Option (List Char) :=
  (Decoder.start.feed bytes).bind fun (text, d) => if d.atBoundary then some text else none

theorem decode?_encoded (text : List Char) : decode? (encoded text) = some (withoutMark text) := by
  unfold decode? Decoder.feed Decoder.start
  cases text with
  | nil =>
      rfl
  | cons c rest =>
      rw [encoded_cons, Decoder.feedOnto_of_completes (completes_encodeChar c),
        Decoder.feedOnto_encoded]
      unfold withoutMark Decoder.keep
      by_cases hc : c = '\uFEFF'
      · simp [hc, Decoder.atBoundary]
      · simp [hc, Decoder.atBoundary]

theorem exists_encoded_of_decode? {bytes : List UInt8} {read : List Char}
    (h : decode? bytes = some read) : exists text, encoded text = bytes := by
  unfold decode? at h
  rcases Option.bind_eq_some_iff.mp h with ⟨⟨out, after⟩, hfeed, hend⟩
  have hafter : after.pending = none := by
    cases hpending : after.pending with
    | none =>
        rfl
    | some p =>
        simp [Decoder.atBoundary, hpending] at hend
  rcases Decoder.exists_completes_of_feedOnto hfeed hafter with
    ⟨_, hnil⟩ | ⟨c, first, text, hbytes, hcompletes⟩
  · exact ⟨[], hnil.symm⟩
  · refine ⟨c :: text, ?_⟩
    rw [hbytes, eq_encodeChar_of_completes hcompletes, encoded_cons]

theorem decode?_eq_some_iff {bytes : List UInt8} {read : List Char} :
    decode? bytes = some read <-> exists text, encoded text = bytes ∧ withoutMark text = read := by
  constructor
  · intro h
    rcases exists_encoded_of_decode? h with ⟨text, htext⟩
    rw [<- htext, decode?_encoded] at h
    exact ⟨text, htext, Option.some.inj h⟩
  · rintro ⟨text, htext, hread⟩
    rw [<- htext, decode?_encoded, hread]

theorem decode?_eq_none_iff {bytes : List UInt8} :
    decode? bytes = none <-> ¬ bytes.toByteArray.IsValidUTF8 := by
  rw [isValidUTF8_iff, Option.eq_none_iff_forall_ne_some]
  constructor
  · rintro hnone ⟨text, htext⟩
    exact hnone (withoutMark text) (decode?_eq_some_iff.mpr ⟨text, htext, rfl⟩)
  · intro hnot read hread
    exact hnot (exists_encoded_of_decode? hread)

/-!
# The lenient reader

The lenient reader reads the text that was encoded, a byte order mark included.
-/

theorem toList_loop (bytes : ByteArray) (i : Nat) (read : List UInt8) :
    ByteArray.toList.loop bytes i read = read.reverse ++ bytes.data.toList.drop i := by
  induction i, read using ByteArray.toList.loop.induct bytes with
  | case1 i read hi ih =>
      have hbyte : bytes.data.toList.drop i = bytes.get! i :: bytes.data.toList.drop (i + 1) := by
        have hlength : i < bytes.data.toList.length := hi
        rw [List.drop_eq_getElem_cons hlength]
        congr 1
        exact (getElem!_pos bytes.data i hi).symm
      rw [ByteArray.toList.loop, if_pos hi, ih, hbyte, List.reverse_cons, List.append_assoc]
      rfl
  | case2 i read hi =>
      have hlength : bytes.data.toList.length ≤ i := Nat.le_of_not_lt hi
      rw [ByteArray.toList.loop, if_neg hi, List.drop_eq_nil_of_le hlength, List.append_nil]

theorem encode_eq_encoded (text : String) : encode text = encoded text.toList := by
  have hbytes : text.toUTF8 = (encoded text.toList).toByteArray :=
    String.utf8Encode_toList.symm
  unfold encode ByteArray.toList
  rw [toList_loop, hbytes]
  simp

theorem lenientOnto_pending {state : Option Pending} {p : Pending} {byte : UInt8}
    (h : step state byte.toNat = .pending p) (read : List Char) (rest : List UInt8) :
    lenientOnto read state (byte :: rest) = lenientOnto read (some p) rest := by
  cases state <;> simp only [lenientOnto, h]

theorem lenientOnto_char {state : Option Pending} {c : Char} {byte : UInt8}
    (h : step state byte.toNat = .char c) (read : List Char) (rest : List UInt8) :
    lenientOnto read state (byte :: rest) = lenientOnto (c :: read) none rest := by
  cases state <;> simp only [lenientOnto, h]

theorem lenientOnto_of_completes {c : Char} {state : Option Pending} {bytes : List UInt8}
    (h : Completes c state bytes) (read : List Char) (rest : List UInt8) :
    lenientOnto read state (bytes ++ rest) = lenientOnto (c :: read) none rest := by
  induction bytes generalizing state with
  | nil =>
      cases h
  | cons byte others ih =>
      unfold Completes at h
      rw [List.cons_append]
      cases hstep : step state byte.toNat with
      | malformed =>
          rw [hstep] at h
          cases h
      | pending p =>
          rw [hstep] at h
          rw [lenientOnto_pending hstep]
          exact ih h
      | char next =>
          rw [hstep] at h
          rcases h with ⟨hnext, hothers⟩
          rw [lenientOnto_char hstep, hnext, hothers, List.nil_append]

theorem lenientOnto_encoded (read text : List Char) :
    lenientOnto read none (encoded text) = read.reverse ++ text := by
  induction text generalizing read with
  | nil =>
      simp [encoded, lenientOnto]
  | cons c rest ih =>
      rw [encoded_cons, lenientOnto_of_completes (completes_encodeChar c), ih]
      simp

theorem lenient_encode (text : String) : lenient (encode text) = text := by
  unfold lenient
  rw [encode_eq_encoded, lenientOnto_encoded]
  exact String.ofList_toList

end Utf8
end CamelSpell
