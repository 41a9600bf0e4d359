import CamelSpell.Proofs.DictionaryEntries

/-!
# The two views of a dictionary

A dictionary is a set of words and a set of characters.  However it came about, from one list of
entries or by extending it again and again, both sets are decided by which entries there are: their
order, their repetitions and empty ones among them make no difference.  White space is never among
the word characters.
-/

namespace CamelSpell

open Unicode

namespace Dictionary

/-!
# Views without repetitions

Neither a word nor a character is kept twice.
-/

structure HasNoRepeats (d : Dictionary) : Prop where
  words : d.words.Nodup
  characters : d.characters.Nodup

theorem nodup_insertCharacter {characters : List Char} (h : characters.Nodup) (c : Char) :
    (insertCharacter characters c).Nodup := by
  unfold insertCharacter
  split
  · exact h
  · split
    · exact (h.insert).insert
    · exact h.insert

theorem HasNoRepeats.insert {d : Dictionary} (h : d.HasNoRepeats) (entry : List Char) :
    (d.insert entry).HasNoRepeats := by
  unfold Dictionary.insert
  split
  · exact h
  · constructor
    · exact h.words.insert
    · exact List.foldlRecOn (motive := List.Nodup) entry insertCharacter h.characters
        (fun _ hcharacters c _ => nodup_insertCharacter hcharacters c)

theorem hasNoRepeats_ofEntries (entries : List (List Char)) : (ofEntries entries).HasNoRepeats :=
  List.foldlRecOn (motive := HasNoRepeats) entries Dictionary.insert
    ⟨List.nodup_nil, List.nodup_nil⟩ (fun _ h entry _ => h.insert entry)

/-!
# One list of entries

Extending a dictionary lengthens its list of entries.  What is accepted are the lower-case forms
of the entries, and the characters are theirs and the capitals of these, without white space.
-/

theorem extend_ofEntries (entries more : List (List Char)) :
    (ofEntries entries).extend more = ofEntries (entries ++ more) :=
  List.foldl_append.symm

theorem foldl_extend_ofEntries (entries : List (List Char)) (more : List (List (List Char))) :
    more.foldl extend (ofEntries entries) = ofEntries (entries ++ more.flatten) := by
  induction more generalizing entries with
  | nil =>
      rw [List.foldl_nil, List.flatten_nil, List.append_nil]
  | cons list rest ih =>
      rw [List.foldl_cons, extend_ofEntries, ih, List.flatten_cons, List.append_assoc]

theorem has_ofEntries {entries : List (List Char)} {word : List Char} :
    (ofEntries entries).has word = true <->
      exists entry, entry ∈ entries ∧ entry ≠ [] ∧ lower entry = word := by
  have hofEntries : ofEntries entries = empty.extend entries := rfl
  rw [hofEntries, has_extend]
  exact or_iff_right Bool.false_ne_true

theorem mem_words_ofEntries {entries : List (List Char)} {word : List Char} :
    word ∈ (ofEntries entries).words <->
      exists entry, entry ∈ entries ∧ entry ≠ [] ∧ lower entry = word := by
  rw [<- has_ofEntries]
  exact List.contains_iff_mem.symm

theorem capital?_eq_some_iff {c u : Char} : capital? c = some u <-> upperChar c = [u] := by
  constructor
  · exact upperChar_of_capital
  · intro h
    unfold capital?
    rw [h]

theorem mem_characters_ofEntries {entries : List (List Char)} {c : Char} :
    c ∈ (ofEntries entries).characters <->
      exists entry a, entry ∈ entries ∧ a ∈ entry ∧ isBlank a = false ∧
        (c = a ∨ upperChar a = [c]) := by
  have hofEntries : ofEntries entries = empty.extend entries := rfl
  rw [hofEntries, mem_extend_characters]
  unfold Brings
  simp only [capital?_eq_some_iff]
  constructor
  · rintro (hempty | ⟨entry, hentry, a, ha, hblank, hc⟩)
    · cases hempty
    · exact ⟨entry, a, hentry, ha, hblank, hc⟩
  · rintro ⟨entry, a, hentry, ha, hblank, hc⟩
    exact Or.inr ⟨entry, hentry, a, ha, hblank, hc⟩

/-!
# The same entries

Lists of the same entries give the same words and characters, up to the order in which these were
met; in ascending order there is no difference at all.
-/

/-- Two lists hold the same entries, apart from empty ones. -/
def SameEntries (entries others : List (List Char)) : Prop :=
  forall entry, entry ≠ [] -> (entry ∈ entries <-> entry ∈ others)

section SameEntries

variable {entries others : List (List Char)} (h : SameEntries entries others)
include h

theorem perm_words_of_sameEntries : (ofEntries entries).words.Perm (ofEntries others).words := by
  rw [List.perm_ext_iff_of_nodup (hasNoRepeats_ofEntries entries).words
    (hasNoRepeats_ofEntries others).words]
  intro word
  rw [mem_words_ofEntries, mem_words_ofEntries]
  apply exists_congr
  intro entry
  exact and_congr_left fun hne => h entry hne.1

theorem perm_characters_of_sameEntries :
    (ofEntries entries).characters.Perm (ofEntries others).characters := by
  rw [List.perm_ext_iff_of_nodup (hasNoRepeats_ofEntries entries).characters
    (hasNoRepeats_ofEntries others).characters]
  intro c
  rw [mem_characters_ofEntries, mem_characters_ofEntries]
  apply exists_congr
  intro entry
  apply exists_congr
  intro a
  exact and_congr_left fun hbrings => h entry (List.ne_nil_of_mem hbrings.1)

end SameEntries

theorem sortedCharacters_eq_of_perm {d e : Dictionary} (h : d.characters.Perm e.characters) :
    d.sortedCharacters = e.sortedCharacters := by
  have hsorted : forall d : Dictionary, d.sortedCharacters.Pairwise fun a b => a ≤ b := by
    intro d
    have hpairwise : d.sortedCharacters.Pairwise fun a b => decide (a ≤ b) = true := by
      apply List.pairwise_mergeSort
      · intro a b c hab hbc
        rw [decide_eq_true_eq] at hab hbc ⊢
        exact Char.le_trans hab hbc
      · intro a b
        rw [Bool.or_eq_true, decide_eq_true_eq, decide_eq_true_eq]
        exact Char.le_total a b
    exact hpairwise.imp fun hab => of_decide_eq_true hab
  have hperm : d.sortedCharacters.Perm e.sortedCharacters :=
    ((List.mergeSort_perm _ _).trans h).trans (List.mergeSort_perm _ _).symm
  exact hperm.eq_of_pairwise (fun a b _ _ hab hba => Char.le_antisymm hab hba) (hsorted d)
    (hsorted e)

theorem size_ofEntries (entries : List (List Char)) :
    (ofEntries entries).size =
      ((entries.filter fun entry => decide (entry ≠ [])).map lower).dedup.length := by
  have hperm : (ofEntries entries).words.Perm
      ((entries.filter fun entry => decide (entry ≠ [])).map lower).dedup := by
    rw [List.perm_ext_iff_of_nodup (hasNoRepeats_ofEntries entries).words (List.nodup_dedup _)]
    intro word
    rw [mem_words_ofEntries, List.mem_dedup, List.mem_map]
    apply exists_congr
    intro entry
    rw [List.mem_filter, decide_eq_true_eq, and_assoc]
  exact hperm.length_eq

/-!
# Chains of extensions

A chain is a list of entries that is extended by one list after another.
-/

def chained (entries : List (List Char)) (more : List (List (List Char))) : Dictionary :=
  more.foldl extend (ofEntries entries)

/-- A chain of extensions comes to the dictionary of all entries together, and that one is decided
by which entries there are: the words are their lower-case forms, and the characters are those of
the entries and their capitals, without white space. -/
theorem chained_views {first entries : List (List Char)} {more : List (List (List Char))}
    (h : SameEntries entries (first ++ more.flatten)) :
    chained first more = ofEntries (first ++ more.flatten) ∧
    (chained first more).words.Perm (ofEntries entries).words ∧
    (chained first more).characters.Perm (ofEntries entries).characters ∧
    (chained first more).sortedCharacters = (ofEntries entries).sortedCharacters ∧
    (chained first more).size = (ofEntries entries).size ∧
    (chained first more).size =
      ((entries.filter fun entry => decide (entry ≠ [])).map lower).dedup.length ∧
    (forall word, (chained first more).has word = true <->
      exists entry, entry ∈ entries ∧ entry ≠ [] ∧ lower entry = word) ∧
    (forall c, c ∈ (chained first more).characters <->
      exists entry a, entry ∈ entries ∧ a ∈ entry ∧ isBlank a = false ∧
        (c = a ∨ upperChar a = [c])) ∧
    (forall c, isBlank c = true -> (chained first more).isWordCharacter c = false) ∧
    (chained first more).isWordCharacter '\n' = false := by
  have hchained : chained first more = ofEntries (first ++ more.flatten) :=
    foldl_extend_ofEntries first more
  have hwords := (perm_words_of_sameEntries h).symm
  have hcharacters := (perm_characters_of_sameEntries h).symm
  have hbuilt := Built.ofEntries (first ++ more.flatten)
  have hsize : (ofEntries (first ++ more.flatten)).size = (ofEntries entries).size :=
    hwords.length_eq
  rw [hchained]
  refine ⟨rfl, hwords, hcharacters, sortedCharacters_eq_of_perm hcharacters, hsize,
    hsize.trans (size_ofEntries entries), ?_, ?_, ?_, hbuilt.isWordCharacter_newline⟩
  · intro word
    rw [<- has_ofEntries]
    unfold has
    rw [List.contains_iff_mem, List.contains_iff_mem]
    exact hwords.mem_iff
  · intro c
    rw [<- mem_characters_ofEntries]
    exact hcharacters.mem_iff
  · intro c hc
    exact hbuilt.isWordCharacter_blank hc

theorem chained_views_repeated :
    SameEntries ["ice cream".toList, "LEFT".toList, "x-ray".toList, "left".toList]
      (["left".toList, []] ++ [["x-ray".toList, "left".toList], [], ["LEFT".toList, [],
        "ice cream".toList]].flatten) ∧
    (chained ["left".toList, []] [["x-ray".toList, "left".toList], [], ["LEFT".toList, [],
      "ice cream".toList]]).size = 3 ∧
    (chained ["left".toList, []] [["x-ray".toList, "left".toList], [], ["LEFT".toList, [],
      "ice cream".toList]]).isWordCharacter ' ' = false := by
  have hsame : SameEntries ["ice cream".toList, "LEFT".toList, "x-ray".toList, "left".toList]
      (["left".toList, []] ++ [["x-ray".toList, "left".toList], [], ["LEFT".toList, [],
        "ice cream".toList]].flatten) := by
    intro entry hne
    simp only [List.flatten_cons, List.flatten_nil, List.cons_append, List.nil_append,
      List.append_nil, List.mem_cons, List.not_mem_nil, hne, or_false, false_or]
    grind only
  have hviews := chained_views hsame
  refine ⟨hsame, ?_, hviews.2.2.2.2.2.2.2.2.1 ' ' (by decide)⟩
  rw [hviews.2.2.2.2.2.1]
  decide +kernel

end Dictionary
end CamelSpell
