import CamelSpell.Proofs.AllowedWords
import CamelSpell.Proofs.FirstSubWord

/-!
# Allowed entries as texts

A dictionary keeps an allowed entry as a whole, but a text that consists of the entry is cut into
sub-words where its letter case shows several words.  An entry that is not cut accepts itself.  One
that is cut accepts itself only if its sub-words are short or accepted on their own.
-/

namespace CamelSpell

open Unicode

/-!
# Tokens that are not cut

A token is its own only sub-word exactly if nothing is left behind its first one.  This is a
matter of its letter case.
-/

/-- Whether the letter case of a token shows no second sub-word: there is no capital behind the
first character, or the token is an acronym without lower-case letters. -/
def isUncut : List Char -> Bool
  | a :: b :: rest =>
      if isUppercase b then !isLowercase a && rest.all fun c => !isLowercase c
      else rest.all fun c => !isUppercase c
  | _ => true

theorem Begins.isUncut_iff {first rest : List Char} (h : Begins first rest) :
    isUncut (first ++ rest) = true <-> rest = [] := by
  cases h with
  | letter a =>
      simp [isUncut]
  | small ha hu rest =>
      simp [isUncut, ha, hu]
  | plain a hb hmore hrest =>
      cases rest with
      | nil =>
          simpa [isUncut, hb] using hmore
      | cons u rest =>
          simp [isUncut, hb, hrest u rfl]
  | acronym ha hb hmore =>
      simpa [isUncut, ha, hb] using hmore
  | @capital a b x c more first ha hb hmore hrun hc rest =>
      have htoken : first ++ x :: c :: rest = a :: b :: (more ++ c :: rest) := by
        rw [List.append_cons, <- hrun]
        rfl
      simp [htoken, isUncut, hb, hc]

theorem splitToken_eq_singleton_iff {token : List Char} (hne : token ≠ []) :
    splitToken token = [⟨token, 0⟩] <-> isUncut token = true := by
  rcases exists_begins hne with ⟨first, rest, htoken, hbegins⟩
  rw [htoken, hbegins.isUncut_iff, hbegins.splitToken_append]
  constructor
  · intro hsplit
    have hnil : splitToken rest = [] := List.map_eq_nil_iff.mp (List.cons.inj hsplit).2
    rw [<- flatten_splitToken rest, hnil]
    rfl
  · intro hrest
    rw [hrest, List.append_nil]
    rfl

/-!
# Texts of one token

Word characters join the open token, so a text of word characters is one token, which begins in
the first column.
-/

namespace Scanner

theorem push_word {r : Rules} {s : Scanner} (hopen : s.token ≠ []) {word : List Char}
    (hword : forall c, c ∈ word -> c ≠ '\n' ∧ r.dictionary.isWordCharacter c = true) :
    s.push r word =
      { s with token := word.reverse ++ s.token, column := s.column + word.length } := by
  induction word generalizing s with
  | nil =>
      rfl
  | cons c rest ih =>
      rw [List.forall_mem_cons] at hword
      have hstep : s.push r (c :: rest) = (s.step r c).push r rest := rfl
      have hjoin := step_word s hword.1.1 hword.1.2
      rw [if_neg hopen] at hjoin
      rw [hstep, hjoin, ih (List.cons_ne_nil c s.token) hword.2]
      simp [Nat.add_comm, Nat.add_left_comm]

end Scanner

theorem checkText_of_word {r : Rules} {word : List Char}
    (hword : forall c, c ∈ word -> c ≠ '\n' ∧ r.dictionary.isWordCharacter c = true) :
    checkText r word = r.misspellings word 1 1 := by
  cases word with
  | nil =>
      rfl
  | cons c rest =>
      rw [List.forall_mem_cons] at hword
      have hstep : Scanner.start.push r (c :: rest) = (Scanner.start.step r c).push r rest := rfl
      have hopen : Scanner.start.step r c = ⟨[c], 1, 1, 1, []⟩ :=
        Scanner.step_word Scanner.start hword.1.1 hword.1.2
      unfold checkText Scanner.report
      rw [hstep, hopen, Scanner.push_word (List.cons_ne_nil c []) hword.2, Scanner.closeToken_eq]
      simp

/-!
# Allowed entries

The characters of an entry are word characters of the extended dictionary.  Its sub-words are
another matter: only their lower-case forms are looked up.
-/

section Entry

variable {d : Dictionary} {entries : List (List Char)} {word : List Char}

theorem isWordCharacter_of_mem_entry (hword : word ∈ entries) {c : Char} (hc : c ∈ word)
    (hblank : isBlank c = false) : (d.extend entries).isWordCharacter c = true := by
  unfold Dictionary.isWordCharacter
  rw [Bool.or_eq_true, List.contains_iff_mem, Dictionary.mem_extend_characters]
  exact Or.inl (Or.inr ⟨word, hword, c, hc, hblank, Or.inl rfl⟩)

theorem checkText_of_mem_entry (hword : word ∈ entries)
    (hblank : forall c, c ∈ word -> isBlank c = false) (n : Nat) :
    checkText ⟨d.extend entries, n⟩ word =
      ((Rules.mistakes ⟨d, n⟩ word).filter fun part => StillReported entries n part.text).map
        fun part => ⟨part.text, 1, 1 + part.offset⟩ := by
  have hcharacters : forall c, c ∈ word ->
      c ≠ '\n' ∧ (d.extend entries).isWordCharacter c = true := by
    intro c hc
    refine ⟨?_, isWordCharacter_of_mem_entry hword hc (hblank c hc)⟩
    intro hnewline
    have hnot := hblank c hc
    rw [hnewline, isBlank_newline] at hnot
    cases hnot
  rw [checkText_of_word hcharacters]
  unfold Rules.misspellings Rules.mistakes
  rw [List.filter_filter]
  congr 1
  apply List.filter_congr
  intro part hpart
  rw [isIncorrect_extend (Nat.le_refl n) (text_ne_nil_of_mem_splitToken hpart), Bool.and_comm]

theorem checkText_eq_nil_iff_of_mem_entry (hword : word ∈ entries)
    (hblank : forall c, c ∈ word -> isBlank c = false) (n : Nat) :
    checkText ⟨d.extend entries, n⟩ word = [] <->
      forall part, part ∈ splitToken word -> n ≤ part.text.length ->
        d.has (lower part.text) = true ∨
          exists entry, entry ∈ entries ∧ lower entry = lower part.text := by
  rw [checkText_of_mem_entry hword hblank, List.map_eq_nil_iff, List.filter_eq_nil_iff]
  unfold Rules.mistakes Rules.isIncorrect
  simp only [List.mem_filter, Bool.and_eq_true, decide_eq_true_eq, Bool.not_eq_true']
  constructor
  · intro h part hpart hlength
    cases hhas : d.has (lower part.text) with
    | true =>
        exact Or.inl rfl
    | false =>
        right
        by_contra hnone
        apply h part ⟨hpart, hlength, hhas⟩
        refine ⟨hlength, ?_⟩
        intro entry hentry hlower
        exact hnone ⟨entry, hentry, hlower⟩
  · intro h part hpart hreported
    rcases h part hpart.1 hpart.2.1 with hhas | ⟨entry, hentry, hlower⟩
    · rw [hhas] at hpart
      cases hpart.2.2
    · exact hreported.2 entry hentry hlower

end Entry

/-- Of a text that consists of an allowed entry, exactly those sub-words are reported that are long
enough, not in the dictionary, and without the lower-case form of an entry.  Nothing is reported if
there are none, and so of every entry that its letter case does not cut. -/
theorem checkText_allowedEntry (d : Dictionary) {entries : List (List Char)} {word : List Char}
    (hword : word ∈ entries) (hblank : forall c, c ∈ word -> isBlank c = false) (n : Nat) :
    checkText ⟨d.extend entries, n⟩ word =
      ((Rules.mistakes ⟨d, n⟩ word).filter fun part => StillReported entries n part.text).map
        (fun part => ⟨part.text, 1, 1 + part.offset⟩) ∧
    (checkText ⟨d.extend entries, n⟩ word = [] <->
      forall part, part ∈ splitToken word -> n ≤ part.text.length ->
        d.has (lower part.text) = true ∨
          exists entry, entry ∈ entries ∧ lower entry = lower part.text) ∧
    (isUncut word = true -> checkText ⟨d.extend entries, n⟩ word = []) := by
  have hempty := checkText_eq_nil_iff_of_mem_entry (d := d) hword hblank n
  refine ⟨checkText_of_mem_entry hword hblank n, hempty, ?_⟩
  intro huncut
  by_cases hne : word = []
  · rw [hne]
    rfl
  · rw [hempty, (splitToken_eq_singleton_iff hne).mpr huncut]
    intro part hpart _
    rw [List.mem_singleton.mp hpart]
    exact Or.inr ⟨word, hword, rfl⟩

def mixedEntries : List (List Char) :=
  ["X-ray's".toList, "McDonald".toList, "leftWidgetz".toList, "left".toList]

theorem checkText_allowedEntry_hyphen :
    checkText ⟨(Dictionary.ofEntries ["donald".toList]).extend mixedEntries, 3⟩
        "X-ray's".toList = [] ∧
    checkText ⟨(Dictionary.ofEntries ["donald".toList]).extend mixedEntries, 3⟩
        "McDonald".toList = [] ∧
    checkText ⟨(Dictionary.ofEntries ["donald".toList]).extend mixedEntries, 3⟩
        "leftWidgetz".toList = [⟨"Widgetz".toList, 1, 5⟩] := by
  have hall : mixedEntries.all (fun word => word.all fun c => !isBlank c) = true := by
    decide +kernel
  have hblank : forall word, word ∈ mixedEntries -> forall c, c ∈ word -> isBlank c = false := by
    intro word hword c hc
    simpa using List.all_eq_true.mp (List.all_eq_true.mp hall word hword) c hc
  refine ⟨?_, ?_, ?_⟩
  · have hentry : "X-ray's".toList ∈ mixedEntries := by
      simp [mixedEntries]
    apply (checkText_allowedEntry _ hentry (hblank _ hentry) 3).2.2
    decide +kernel
  · have hentry : "McDonald".toList ∈ mixedEntries := by
      simp [mixedEntries]
    have hsplit : splitToken "McDonald".toList = [⟨"Mc".toList, 0⟩, ⟨"Donald".toList, 2⟩] := by
      decide +kernel
    have hdonald : (Dictionary.ofEntries ["donald".toList]).has (lower "Donald".toList) = true := by
      decide +kernel
    rw [(checkText_allowedEntry _ hentry (hblank _ hentry) 3).2.1, hsplit]
    intro part hpart hlength
    rcases List.mem_cons.mp hpart with hfirst | hrest
    · rw [hfirst] at hlength
      exact absurd hlength (by decide)
    · rw [List.mem_singleton.mp hrest]
      exact Or.inl hdonald
  · have hentry : "leftWidgetz".toList ∈ mixedEntries := by
      simp [mixedEntries]
    rw [(checkText_allowedEntry _ hentry (hblank _ hentry) 3).1]
    decide +kernel

/-- An entry that its letter case cuts may be reported in spite of being allowed. -/
theorem checkText_allowedEntry_compound :
    ¬ forall (d : Dictionary) (entries : List (List Char)) (word : List Char) (n : Nat),
      word ∈ entries -> (forall c, c ∈ word -> isBlank c = false) ->
        checkText ⟨d.extend entries, n⟩ word = [] := by
  intro haccepted
  have hall : "PostgreSQL".toList.all (fun c => !isBlank c) = true := by
    decide +kernel
  have hnone := haccepted Dictionary.empty ["PostgreSQL".toList] "PostgreSQL".toList 4
    List.mem_cons_self fun c hc => by simpa using List.all_eq_true.mp hall c hc
  have hfound : checkText ⟨Dictionary.empty.extend ["PostgreSQL".toList], 4⟩ "PostgreSQL".toList =
      [⟨"Postgre".toList, 1, 1⟩] := by
    decide +kernel
  rw [hfound] at hnone
  cases hnone

end CamelSpell
