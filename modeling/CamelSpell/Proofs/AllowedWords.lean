import CamelSpell.Proofs.DictionaryEntries
import CamelSpell.Proofs.ScannerPosition

/-!
# Allowed words

Words that are added to a dictionary and bring no new word characters do not move the tokens of any
text.  They remove the findings of these words, in whatever case, and nothing else.
-/

namespace CamelSpell

open Unicode

/-!
# Stricter and more lenient rules

Rules that agree on the word characters cut a text into the same sub-words.  If one of them accepts
more words, its scanner goes through the same states with fewer words flagged.
-/

namespace Scanner

def keeping (keep : List Char -> Bool) (s : Scanner) : Scanner :=
  { s with flagged := s.flagged.filter fun m => keep m.word }

end Scanner

section Lenient

variable {r lenient : Rules} {keep : List Char -> Bool}

theorem Rules.misspellings_filter
    (hwords : forall word, word ≠ [] ->
      lenient.isIncorrect word = (r.isIncorrect word && keep word))
    (token : List Char) (line column : Nat) :
    lenient.misspellings token line column =
      (r.misspellings token line column).filter fun m => keep m.word := by
  unfold misspellings mistakes
  rw [List.filter_map, List.filter_filter]
  congr 1
  apply List.filter_congr
  intro part hpart
  rw [hwords part.text (text_ne_nil_of_mem_splitToken hpart), Bool.and_comm]
  rfl

namespace Scanner

theorem closeToken_keeping
    (hwords : forall word, word ≠ [] ->
      lenient.isIncorrect word = (r.isIncorrect word && keep word)) (s : Scanner) :
    (s.keeping keep).closeToken lenient = (s.closeToken r).keeping keep := by
  rw [closeToken_eq, closeToken_eq]
  unfold keeping
  rw [Rules.misspellings_filter hwords, List.filter_append, List.filter_reverse]

variable
  (hcharacters : forall c, lenient.dictionary.isWordCharacter c = r.dictionary.isWordCharacter c)
  (hwords : forall word, word ≠ [] ->
    lenient.isIncorrect word = (r.isIncorrect word && keep word))
include hcharacters hwords

theorem step_keeping (s : Scanner) (c : Char) :
    (s.keeping keep).step lenient c = (s.step r c).keeping keep := by
  have hnext : { s.keeping keep with column := (s.keeping keep).column + 1 } =
      { s with column := s.column + 1 }.keeping keep := rfl
  unfold step
  simp only [hnext, hcharacters c, closeToken_keeping hwords]
  cases r.dictionary.isWordCharacter c <;> by_cases hc : c = '\n' <;> simp only [hc] <;> rfl

theorem push_keeping (s : Scanner) (text : List Char) :
    (s.keeping keep).push lenient text = (s.push r text).keeping keep := by
  induction text generalizing s with
  | nil =>
      rfl
  | cons c rest ih =>
      have hstep : (s.keeping keep).push lenient (c :: rest) =
          ((s.keeping keep).step lenient c).push lenient rest := rfl
      rw [hstep, step_keeping hcharacters hwords, ih]
      rfl

end Scanner

/-- More lenient rules find what the others find, without the words that they accept. -/
theorem checkText_eq_filter
    (hcharacters : forall c,
      lenient.dictionary.isWordCharacter c = r.dictionary.isWordCharacter c)
    (hwords : forall word, word ≠ [] ->
      lenient.isIncorrect word = (r.isIncorrect word && keep word)) (text : List Char) :
    checkText lenient text = (checkText r text).filter fun m => keep m.word := by
  have hstart : Scanner.start = Scanner.start.keeping keep := rfl
  unfold checkText Scanner.report
  rw [hstart, Scanner.push_keeping hcharacters hwords, Scanner.closeToken_keeping hwords,
    <- hstart, List.filter_reverse]
  rfl

end Lenient

/-!
# Words that are allowed

More entries and a greater length accept exactly the words that are not reported any more.
-/

/-- A word is still reported with more entries and a greater length: it is as long, and no entry has
its lower-case form. -/
def StillReported (entries : List (List Char)) (minLength : Nat) (word : List Char) : Prop :=
  minLength ≤ word.length ∧ forall entry, entry ∈ entries -> lower entry ≠ lower word

instance (entries : List (List Char)) (minLength : Nat) (word : List Char) :
    Decidable (StillReported entries minLength word) :=
  inferInstanceAs (Decidable (_ ∧ _))

theorem isIncorrect_extend {d : Dictionary} {entries : List (List Char)} {m n : Nat} (h : m ≤ n)
    {word : List Char} (hword : word ≠ []) :
    Rules.isIncorrect ⟨d.extend entries, n⟩ word =
      (Rules.isIncorrect ⟨d, m⟩ word && decide (StillReported entries n word)) := by
  have hentries : (d.extend entries).has (lower word) = false <->
      d.has (lower word) = false ∧ forall entry, entry ∈ entries -> lower entry ≠ lower word := by
    rw [<- Bool.not_eq_true, <- Bool.not_eq_true, Dictionary.has_extend, not_or]
    apply and_congr_right
    intro _
    constructor
    · intro hnone entry hentry hlower
      refine hnone ⟨entry, hentry, ?_, hlower⟩
      rintro rfl
      exact lower_ne_nil hword hlower.symm
    · rintro hnone ⟨entry, hentry, _, hlower⟩
      exact hnone entry hentry hlower
  rw [Bool.eq_iff_iff, Bool.and_eq_true, decide_eq_true_iff]
  unfold Rules.isIncorrect StillReported
  simp only [Bool.and_eq_true, decide_eq_true_eq, Bool.not_eq_true', hentries]
  constructor
  · rintro ⟨hlength, hold, hnew⟩
    exact ⟨⟨Nat.le_trans h hlength, hold⟩, hlength, hnew⟩
  · rintro ⟨⟨_, hold⟩, hlength, hnew⟩
    exact ⟨hlength, hold, hnew⟩

theorem checkText_extend_of_spells {d : Dictionary} {entries : List (List Char)} {m n : Nat}
    (h : m ≤ n) (hentries : forall entry, entry ∈ entries -> d.Spells entry) (text : List Char) :
    checkText ⟨d.extend entries, n⟩ text =
      (checkText ⟨d, m⟩ text).filter fun found => StillReported entries n found.word :=
  checkText_eq_filter (r := ⟨d, m⟩) (Dictionary.isWordCharacter_extend hentries)
    (fun _ => isIncorrect_extend h) text

/-- Entries whose characters are word characters already, and with those their capitals, remove the
findings that have the lower-case form of an entry; a greater length removes the shorter ones; all
others stay where they are.  A word that has been reported is such an entry. -/
theorem checkText_extend (d : Dictionary) :
    (forall (text : List Char) (entries : List (List Char)) (m n : Nat), m ≤ n ->
      (forall entry, entry ∈ entries -> d.Spells entry) ->
      checkText ⟨d.extend entries, n⟩ text =
        (checkText ⟨d, m⟩ text).filter fun found => StillReported entries n found.word) ∧
    (forall (other : List Char) (k : Nat) (reported : Misspelling),
      reported ∈ checkText ⟨d, k⟩ other ->
      forall (text : List Char) (m : Nat),
        checkText ⟨d.extend [reported.word], m⟩ text =
          (checkText ⟨d, m⟩ text).filter fun found => lower found.word ≠ lower reported.word) := by
  refine ⟨fun text _ _ _ h hentries => checkText_extend_of_spells h hentries text, ?_⟩
  intro other k reported hreported text m
  have hentry : forall entry, entry ∈ [reported.word] -> d.Spells entry := by
    intro entry hentry c hc _
    rw [List.mem_singleton.mp hentry] at hc
    exact (lettered_of_mem_checkText hreported).2 c hc
  have hwords : forall word, word ≠ [] ->
      Rules.isIncorrect ⟨d.extend [reported.word], m⟩ word =
        (Rules.isIncorrect ⟨d, m⟩ word && decide (lower word ≠ lower reported.word)) := by
    intro word hword
    rw [isIncorrect_extend (Nat.le_refl m) hword]
    cases hincorrect : Rules.isIncorrect ⟨d, m⟩ word with
    | false =>
        rfl
    | true =>
        have hlength : m ≤ word.length := by
          unfold Rules.isIncorrect at hincorrect
          exact of_decide_eq_true (Bool.and_eq_true_iff.mp hincorrect).1
        rw [Bool.true_and, Bool.true_and, decide_eq_decide]
        unfold StillReported
        simp [hlength, eq_comm]
  exact checkText_eq_filter (r := ⟨d, m⟩) (Dictionary.isWordCharacter_extend hentry) hwords text

theorem checkText_extend_apostrophe :
    (forall entry, entry ∈ ["DON'X".toList, []] ->
      (Dictionary.ofEntries ["can't".toList]).Spells entry) ∧
    checkText ⟨(Dictionary.ofEntries ["can't".toList]).extend ["DON'X".toList, []], 4⟩
        "don'x abc\ncan't wrdx".toList =
      [⟨"wrdx".toList, 2, 7⟩] ∧
    checkText ⟨(Dictionary.ofEntries ["can't".toList]).extend ["wrdx".toList], 3⟩
        "don'x abc\ncan't wrdx".toList =
      [⟨"don'x".toList, 1, 1⟩, ⟨"abc".toList, 1, 7⟩] := by
  have hfound : checkText ⟨Dictionary.ofEntries ["can't".toList], 3⟩
      "don'x abc\ncan't wrdx".toList =
        [⟨"don'x".toList, 1, 1⟩, ⟨"abc".toList, 1, 7⟩, ⟨"wrdx".toList, 2, 7⟩] := by
    decide +kernel
  have hcharacters : forall entry, entry ∈ ["DON'X".toList, []] ->
      (Dictionary.ofEntries ["can't".toList]).Spells entry := by
    have hall : ["DON'X".toList, []].all (fun entry =>
        entry.all (Dictionary.ofEntries ["can't".toList]).isWordCharacter) = true := by
      decide +kernel
    intro entry hentry c hc _
    exact List.all_eq_true.mp (List.all_eq_true.mp hall entry hentry) c hc
  have hextend := checkText_extend (Dictionary.ofEntries ["can't".toList])
  have hreported : Misspelling.mk "wrdx".toList 2 7 ∈
      checkText ⟨Dictionary.ofEntries ["can't".toList], 3⟩ "don'x abc\ncan't wrdx".toList := by
    rw [hfound]
    decide +kernel
  refine ⟨hcharacters, ?_, ?_⟩
  · rw [hextend.1 _ _ 3 4 (by decide) hcharacters, hfound]
    decide +kernel
  · have hallowed := hextend.2 _ 3 _ hreported "don'x abc\ncan't wrdx".toList 3
    refine hallowed.trans ?_
    rw [hfound]
    decide +kernel

end CamelSpell
