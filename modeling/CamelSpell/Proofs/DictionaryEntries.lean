import CamelSpell.Proofs.Capital

/-!
# Entries of a dictionary

Adding entries accepts their lower-case forms, and brings their characters and the capitals of those
among the word characters.  Nothing else changes.
-/

namespace CamelSpell

open Unicode

namespace Unicode

/-!
# Lowering

No character is lowered to nothing, so the lower-case form of an entry is as empty as the entry.
-/

theorem lowerOnto_eq (lowered before rest : List Char) :
    lowerOnto lowered before rest = lowered.reverse ++ lowerOnto [] before rest := by
  induction rest generalizing lowered before with
  | nil =>
      simp [lowerOnto]
  | cons c rest ih =>
      rw [lowerOnto, ih, lowerOnto, ih ((lowerBetween before c rest).reverse ++ [])]
      simp

theorem lowerBetween_ne_nil (before : List Char) (c : Char) (after : List Char) :
    lowerBetween before c after ≠ [] := by
  unfold lowerBetween
  split
  · split <;> exact List.cons_ne_nil _ _
  · exact lowerChar_ne_nil c

theorem lower_ne_nil {word : List Char} (h : word ≠ []) : lower word ≠ [] := by
  cases word with
  | nil =>
      exact absurd rfl h
  | cons c rest =>
      intro hlower
      unfold lower at hlower
      rw [lowerOnto, lowerOnto_eq] at hlower
      have hfirst := (List.append_eq_nil_iff.mp hlower).1
      rw [List.append_nil, List.reverse_reverse] at hfirst
      exact lowerBetween_ne_nil [] c rest hfirst

end Unicode

namespace Dictionary

/-!
# Characters of entries

Entries bring their characters and the capitals of these.  Entries whose characters are word
characters already bring no new ones.
-/

/-- An entry brings a character: it contains the character or a character with that capital, which
is no white space. -/
def Brings (entry : List Char) (c : Char) : Prop :=
  exists a, a ∈ entry ∧ isBlank a = false ∧ (c = a ∨ capital? a = some c)

theorem mem_insertCharacter {characters : List Char} {a c : Char} :
    c ∈ insertCharacter characters a <->
      c ∈ characters ∨ isBlank a = false ∧ (c = a ∨ capital? a = some c) := by
  unfold insertCharacter
  cases isBlank a with
  | true =>
      simp
  | false =>
      cases capital? a with
      | none =>
          simp [or_comm]
      | some u =>
          simp only [Bool.false_eq_true, if_false, List.mem_insert_iff, true_and,
            Option.some.injEq]
          constructor
          · rintro (hu | ha | hold)
            · exact Or.inr (Or.inr hu.symm)
            · exact Or.inr (Or.inl ha)
            · exact Or.inl hold
          · rintro (hold | ha | hu)
            · exact Or.inr (Or.inr hold)
            · exact Or.inr (Or.inl ha)
            · exact Or.inl hu.symm

theorem mem_foldl_insertCharacter {entry characters : List Char} {c : Char} :
    c ∈ entry.foldl insertCharacter characters <-> c ∈ characters ∨ Brings entry c := by
  induction entry generalizing characters with
  | nil =>
      simp [Brings]
  | cons a rest ih =>
      rw [List.foldl_cons, ih, mem_insertCharacter, or_assoc]
      apply or_congr_right
      unfold Brings
      simp only [List.mem_cons, or_and_right, exists_or, exists_eq_left]

theorem mem_insert_characters {d : Dictionary} {entry : List Char} {c : Char} :
    c ∈ (d.insert entry).characters <-> c ∈ d.characters ∨ Brings entry c := by
  unfold insert
  by_cases hentry : entry = []
  · rw [if_pos hentry, hentry]
    simp [Brings]
  · rw [if_neg hentry]
    exact mem_foldl_insertCharacter

theorem mem_extend_characters {d : Dictionary} {entries : List (List Char)} {c : Char} :
    c ∈ (d.extend entries).characters <->
      c ∈ d.characters ∨ exists entry, entry ∈ entries ∧ Brings entry c := by
  unfold extend
  induction entries generalizing d with
  | nil =>
      simp
  | cons entry rest ih =>
      rw [List.foldl_cons, ih, mem_insert_characters, or_assoc]
      apply or_congr_right
      simp only [List.mem_cons, or_and_right, exists_or, exists_eq_left]

/-- A word contains word characters only, apart from white space. -/
def Spells (d : Dictionary) (word : List Char) : Prop :=
  forall c, c ∈ word -> isBlank c = false -> d.isWordCharacter c = true

theorem isWordCharacter_extend {d : Dictionary} {entries : List (List Char)}
    (h : forall entry, entry ∈ entries -> d.Spells entry) (c : Char) :
    (d.extend entries).isWordCharacter c = d.isWordCharacter c := by
  rw [Bool.eq_iff_iff]
  unfold isWordCharacter
  rw [Bool.or_eq_true, Bool.or_eq_true, List.contains_iff_mem, List.contains_iff_mem,
    mem_extend_characters]
  constructor
  · rintro ((hold | ⟨entry, hentry, a, ha, hblank, hc⟩) | hletter)
    · exact Or.inl hold
    · have hword := h entry hentry a ha hblank
      have hc' : d.isWordCharacter c = true := by
        rcases hc with hself | hcapital
        · rw [hself]
          exact hword
        · exact isWordCharacter_capital hcapital hword
      unfold isWordCharacter at hc'
      rwa [Bool.or_eq_true, List.contains_iff_mem] at hc'
    · exact Or.inr hletter
  · rintro (hold | hletter)
    · exact Or.inl (Or.inl hold)
    · exact Or.inr hletter

/-!
# Words of entries

A word is in an extended dictionary if it was there before or is the lower-case form of an entry.
-/

theorem has_insert {d : Dictionary} {entry word : List Char} :
    (d.insert entry).has word = true <->
      d.has word = true ∨ entry ≠ [] ∧ lower entry = word := by
  unfold insert has
  by_cases hentry : entry = []
  · rw [if_pos hentry]
    simp [hentry]
  · rw [if_neg hentry]
    rw [List.contains_iff_mem, List.contains_iff_mem, List.mem_insert_iff, and_iff_right hentry,
      or_comm, @eq_comm _ word]

theorem has_extend {d : Dictionary} {entries : List (List Char)} {word : List Char} :
    (d.extend entries).has word = true <->
      d.has word = true ∨ exists entry, entry ∈ entries ∧ entry ≠ [] ∧ lower entry = word := by
  unfold extend
  induction entries generalizing d with
  | nil =>
      simp
  | cons entry rest ih =>
      rw [List.foldl_cons, ih, has_insert, or_assoc]
      apply or_congr_right
      simp only [List.mem_cons, or_and_right, exists_or, exists_eq_left]

end Dictionary
end CamelSpell
