import CamelSpell.Proofs.RaisedCharacter
import CamelSpell.Scanner

/-!
# The casings of a word

A word is accepted if its lower-case form is, so its capitals decide nothing as long as lowering
undoes raising.  That fails for letters that become several, such as `ß`, for letters that share
their capital with another one, such as `ſ`, and for a sigma that does not have the form of its
place.  Of all other words every casing is accepted together with the word.
-/

namespace CamelSpell

namespace Unicode

/-!
# Lowering twice

Lowering leaves a lowered word alone, since it changes none of its characters and no neighbour of
a sigma.
-/

theorem lowerOnto_cons (before : List Char) (c : Char) (rest : List Char) :
    lowerOnto [] before (c :: rest) =
      lowerBetween before c rest ++ lowerOnto [] (c :: before) rest := by
  rw [lowerOnto, lowerOnto_eq]
  simp

/-- A word of which lowering leaves every character alone. -/
def IsLowered (word : List Char) : Prop :=
  forall c, c ∈ word -> lowerChar c = [c]

theorem lowerChar_of_mem_lowerBetween {before after : List Char} {a c : Char}
    (h : c ∈ lowerBetween before a after) : lowerChar c = [c] := by
  unfold lowerBetween at h
  split at h
  · split at h <;> rw [List.mem_singleton.mp h]
    · exact sigma_forms.2.2.2.2
    · exact sigma_forms.2.2.2.1
  · exact lowerChar_of_mem_lowerChar h

theorem isLowered_lowerOnto (before word : List Char) : IsLowered (lowerOnto [] before word) := by
  induction word generalizing before with
  | nil =>
      intro c hc
      cases hc
  | cons a rest ih =>
      intro c hc
      rw [lowerOnto_cons, List.mem_append] at hc
      rcases hc with hfirst | hrest
      · exact lowerChar_of_mem_lowerBetween hfirst
      · exact ih (a :: before) c hrest

theorem isLowered_lower (word : List Char) : IsLowered (lower word) :=
  isLowered_lowerOnto [] word

theorem lowerBetween_eq_self {c : Char} (h : lowerChar c = [c]) (before after : List Char) :
    lowerBetween before c after = [c] := by
  have hsigma : c ≠ 'Σ' := by
    rintro rfl
    rw [sigma_forms.2.2.1] at h
    exact absurd h (by decide)
  unfold lowerBetween
  rw [if_neg hsigma, h]

theorem IsLowered.lowerOnto_eq_self {word : List Char} (h : IsLowered word)
    (before : List Char) : lowerOnto [] before word = word := by
  induction word generalizing before with
  | nil =>
      rfl
  | cons c rest ih =>
      have hall := List.forall_mem_cons.mp h
      rw [lowerOnto_cons, lowerBetween_eq_self hall.1, ih hall.2]
      rfl

theorem lower_lower (word : List Char) : lower (lower word) = lower word :=
  (isLowered_lower word).lowerOnto_eq_self []

/-!
# Lowering what was raised

No character vanishes, so a word comes back only if each of its characters is raised to a single one
that is lowered to it again.
-/

theorem length_le_lowerOnto (before word : List Char) :
    word.length ≤ (lowerOnto [] before word).length := by
  induction word generalizing before with
  | nil =>
      exact Nat.zero_le _
  | cons c rest ih =>
      have hfirst := List.length_pos_of_ne_nil (lowerBetween_ne_nil before c rest)
      have hrest := ih (c :: before)
      rw [lowerOnto_cons, List.length_append, List.length_cons]
      omega

theorem length_le_upper (word : List Char) : word.length ≤ (upper word).length := by
  induction word with
  | nil =>
      exact Nat.zero_le _
  | cons c rest ih =>
      have hfirst := List.length_pos_of_ne_nil (upperChar_ne_nil c)
      have hupper : upper (c :: rest) = upperChar c ++ upper rest := rfl
      rw [hupper, List.length_append, List.length_cons]
      omega

/-- Whether lowering gives a character back that was raised between others: a sigma if it has the
form of its place, and any other letter if it is the lower-case form of its upper-case form. -/
def isRestoredBetween (before : List Char) (c : Char) (after : List Char) : Bool :=
  if c = 'σ' then !isFinalPosition before after
  else if c = 'ς' then isFinalPosition before after
  else decide ((upperChar c).flatMap lowerChar = [c])

theorem lowerBetween_eq_singleton_iff {c u : Char} (hcapital : upperChar c = [u])
    (before after : List Char) :
    lowerBetween before u after = [c] <-> isRestoredBetween before c after = true := by
  rcases sigma_forms with ⟨hsigma, hfinal, hlower, _, _⟩
  unfold isRestoredBetween lowerBetween
  by_cases hc : c = 'σ'
  · have hu : u = 'Σ' := by
      rw [hc, hsigma] at hcapital
      exact (List.singleton_inj.mp hcapital).symm
    subst hc hu
    cases isFinalPosition before after <;> simp
  · by_cases hc' : c = 'ς'
    · have hu : u = 'Σ' := by
        rw [hc', hfinal] at hcapital
        exact (List.singleton_inj.mp hcapital).symm
      subst hc' hu
      cases isFinalPosition before after <;> simp
    · rw [if_neg hc, if_neg hc', hcapital, List.flatMap_singleton, decide_eq_true_eq]
      by_cases hu : u = 'Σ'
      · subst hu
        rw [if_pos rfl, hlower]
        have hne : ['σ'] ≠ [c] := fun h => hc (List.singleton_inj.mp h).symm
        have hne' : ['ς'] ≠ [c] := fun h => hc' (List.singleton_inj.mp h).symm
        cases isFinalPosition before after <;> simp [hne, hne']
      · rw [if_neg hu]

/-- A raised character in front of a text that is no shorter than the rest of a word: lowering gives
the word back if the character is raised to a single one that is lowered to it again, and the text
is lowered to the rest. -/
theorem lowerOnto_upperChar_append_iff {before rest text : List Char} {c : Char}
    (hlength : rest.length ≤ text.length) :
    lowerOnto [] before (upperChar c ++ text) = c :: rest <->
      exists u, upperChar c = [u] ∧ lowerBetween before u text = [c] ∧
        lowerOnto [] (u :: before) text = rest := by
  constructor
  · intro h
    have hwhole := length_le_lowerOnto before (upperChar c ++ text)
    rw [h, List.length_append, List.length_cons] at hwhole
    have hpos := List.length_pos_of_ne_nil (upperChar_ne_nil c)
    rcases List.length_eq_one_iff.mp (by omega : (upperChar c).length = 1) with ⟨u, hu⟩
    rw [hu, List.singleton_append, lowerOnto_cons] at h
    have hrest := length_le_lowerOnto (u :: before) text
    have hfirst := List.length_pos_of_ne_nil (lowerBetween_ne_nil before u text)
    have hsum := congrArg List.length h
    rw [List.length_append, List.length_cons] at hsum
    have hone : (lowerBetween before u text).length = [c].length := by
      rw [List.length_singleton]
      omega
    have hsplit := List.append_inj (h.trans (List.singleton_append).symm) hone
    exact ⟨u, hu, hsplit.1, hsplit.2⟩
  · rintro ⟨u, hu, hfirst, hrest⟩
    rw [hu, List.singleton_append, lowerOnto_cons, hfirst, hrest]
    rfl

/-!
# Restored words

A word is restored if lowering gives back every character that was raised.  Such a character is
raised to a single one, which counts like it beside a sigma; so the capitals of a restored word
look like the word from in front of it.
-/

/-- Whether lowering gives all characters of a word back that were raised; `before` holds the
characters in front of them, nearest first. -/
def isRestoredFrom (before : List Char) : List Char -> Bool
  | [] => true
  | c :: rest => isRestoredBetween before c rest && isRestoredFrom (c :: before) rest

def isRestored (word : List Char) : Bool :=
  isRestoredFrom [] word

theorem class_of_isRestoredBetween {before after : List Char} {c u : Char}
    (hcapital : upperChar c = [u]) (h : isRestoredBetween before c after = true) :
    isCased u = isCased c ∧ isCaseIgnorable u = isCaseIgnorable c := by
  apply class_of_restored hcapital
  have hlower := (lowerBetween_eq_singleton_iff hcapital before after).mpr h
  by_cases hu : u = 'Σ'
  · exact Or.inr hu
  · unfold lowerBetween at hlower
    rw [if_neg hu] at hlower
    exact Or.inl hlower

theorem meetsCased_cons_congr {c u : Char} {left right : List Char}
    (hclass : isCased u = isCased c ∧ isCaseIgnorable u = isCaseIgnorable c)
    (h : meetsCased left = meetsCased right) :
    meetsCased (u :: left) = meetsCased (c :: right) := by
  unfold meetsCased
  rw [hclass.1, hclass.2, h]

theorem exists_capital_of_isRestoredBetween {before after : List Char} {c : Char}
    (h : isRestoredBetween before c after = true) : exists u, upperChar c = [u] := by
  unfold isRestoredBetween at h
  split at h
  · rename_i hc
    exact ⟨'Σ', hc ▸ sigma_forms.1⟩
  · split at h
    · rename_i hc
      exact ⟨'Σ', hc ▸ sigma_forms.2.1⟩
    · cases hupper : upperChar c with
      | nil =>
          exact absurd hupper (upperChar_ne_nil c)
      | cons u more =>
          rw [hupper, List.flatMap_cons, decide_eq_true_eq] at h
          have hfirst := List.length_pos_of_ne_nil (lowerChar_ne_nil u)
          have hsum := congrArg List.length h
          rw [List.length_append, List.length_singleton] at hsum
          cases more with
          | nil =>
              exact ⟨u, rfl⟩
          | cons v more =>
              have hsecond := List.length_pos_of_ne_nil (lowerChar_ne_nil v)
              rw [List.flatMap_cons, List.length_append] at hsum
              omega

theorem meetsCased_upper {before word : List Char} (h : isRestoredFrom before word = true) :
    meetsCased (upper word) = meetsCased word := by
  induction word generalizing before with
  | nil =>
      rfl
  | cons c rest ih =>
      unfold isRestoredFrom at h
      rw [Bool.and_eq_true] at h
      rcases exists_capital_of_isRestoredBetween h.1 with ⟨u, hu⟩
      have hupper : upper (c :: rest) = u :: upper rest := by
        unfold upper
        rw [List.flatMap_cons, hu]
        rfl
      rw [hupper]
      exact meetsCased_cons_congr (class_of_isRestoredBetween hu h.1) (ih h.2)

theorem isRestoredBetween_congr {left right after other : List Char} (c : Char)
    (hbefore : meetsCased left = meetsCased right) (hafter : meetsCased after = meetsCased other) :
    isRestoredBetween left c after = isRestoredBetween right c other := by
  unfold isRestoredBetween isFinalPosition
  rw [hbefore, hafter]

theorem lowerOnto_upper_eq_iff (word : List Char) {raised before : List Char}
    (hbefore : meetsCased raised = meetsCased before) :
    lowerOnto [] raised (upper word) = word <-> isRestoredFrom before word = true := by
  -- a character that is given back counts like its capital, so `hbefore` goes on to the next one
  induction word generalizing raised before with
  | nil =>
      exact iff_of_true rfl rfl
  | cons c rest ih =>
      have hupper : upper (c :: rest) = upperChar c ++ upper rest := rfl
      unfold isRestoredFrom
      rw [hupper, lowerOnto_upperChar_append_iff (length_le_upper rest), Bool.and_eq_true]
      constructor
      · rintro ⟨u, hu, hfirst, hrest⟩
        rw [lowerBetween_eq_singleton_iff hu] at hfirst
        have hclass := class_of_isRestoredBetween hu hfirst
        have hrest' := (ih (meetsCased_cons_congr hclass hbefore)).mp hrest
        rw [isRestoredBetween_congr c hbefore (meetsCased_upper hrest')] at hfirst
        exact ⟨hfirst, hrest'⟩
      · rintro ⟨hfirst, hrest⟩
        rcases exists_capital_of_isRestoredBetween hfirst with ⟨u, hu⟩
        have hclass := class_of_isRestoredBetween hu hfirst
        rw [<- isRestoredBetween_congr c hbefore (meetsCased_upper hrest),
          <- lowerBetween_eq_singleton_iff hu] at hfirst
        exact ⟨u, hu, hfirst, (ih (meetsCased_cons_congr hclass hbefore)).mpr hrest⟩

theorem lower_upper_eq_iff (word : List Char) :
    lower (upper word) = word <-> isRestored word = true :=
  lowerOnto_upper_eq_iff word rfl

/-!
# Words with a capital in front

Of a lower-case word with a capital in front only the first character has to be given back.
-/

def capitalized : List Char -> List Char
  | [] => []
  | c :: rest => upperChar c ++ rest

/-- Whether lowering gives the first character of a word back. -/
def isRestoredInFront : List Char -> Bool
  | [] => true
  | c :: rest => isRestoredBetween [] c rest

theorem lower_capitalized_eq_iff {word : List Char} (h : IsLowered word) :
    lower (capitalized word) = word <-> isRestoredInFront word = true := by
  cases word with
  | nil =>
      exact iff_of_true rfl rfl
  | cons c rest =>
      have hrest := (List.forall_mem_cons.mp h).2
      unfold lower capitalized isRestoredInFront
      rw [lowerOnto_upperChar_append_iff (Nat.le_refl rest.length)]
      constructor
      · rintro ⟨u, hu, hfirst, _⟩
        exact (lowerBetween_eq_singleton_iff hu [] rest).mp hfirst
      · intro hfirst
        rcases exists_capital_of_isRestoredBetween hfirst with ⟨u, hu⟩
        exact ⟨u, hu, (lowerBetween_eq_singleton_iff hu [] rest).mpr hfirst,
          IsLowered.lowerOnto_eq_self hrest [u]⟩

end Unicode

/-!
# Acceptance

A casing is accepted by every dictionary that has the word exactly if it is lowered to the word:
otherwise the dictionary of that word alone reports it, unless it is too short.
-/

open Unicode

namespace Dictionary

theorem Built.exists_entry {d : Dictionary} (h : d.Built) {word : List Char}
    (hword : d.has word = true) : exists entry, entry ≠ [] ∧ lower entry = word := by
  induction h with
  | ofEntries entries =>
      rcases has_extend.mp hword with hempty | ⟨entry, _, hentry, hlower⟩
      · cases hempty
      · exact ⟨entry, hentry, hlower⟩
  | extend _ entries ih =>
      rcases has_extend.mp hword with hold | ⟨entry, _, hentry, hlower⟩
      · exact ih hold
      · exact ⟨entry, hentry, hlower⟩

theorem has_ofEntries_singleton {entry word : List Char} (hne : entry ≠ [])
    (hlowered : IsLowered entry) : (ofEntries [entry]).has word = true <-> word = entry := by
  have hlower : lower entry = entry := hlowered.lowerOnto_eq_self []
  have hofEntries : ofEntries [entry] = empty.extend [entry] := rfl
  rw [hofEntries, has_extend]
  simp only [List.mem_singleton, exists_eq_left, hlower]
  constructor
  · rintro (hempty | ⟨_, heq⟩)
    · cases hempty
    · exact heq.symm
  · rintro rfl
    exact Or.inr ⟨hne, rfl⟩

end Dictionary

namespace Rules

theorem isIncorrect_of_lower_eq {d : Dictionary} {casing word : List Char}
    (hword : d.has word = true) (hlower : lower casing = word) (n : Nat) :
    isIncorrect ⟨d, n⟩ casing = false := by
  unfold isIncorrect
  rw [hlower, hword, Bool.not_true, Bool.and_false]

theorem isIncorrect_of_lower_ne {casing word : List Char} {n : Nat} (hne : word ≠ [])
    (hlowered : IsLowered word) (hlower : lower casing ≠ word) (hlength : n ≤ casing.length) :
    isIncorrect ⟨Dictionary.ofEntries [word], n⟩ casing = true := by
  unfold isIncorrect
  rw [Bool.and_eq_true, Bool.not_eq_true', <- Bool.not_eq_true,
    Dictionary.has_ofEntries_singleton hne hlowered]
  exact ⟨decide_eq_true hlength, hlower⟩

end Rules

/-- No word of a dictionary is reported.  Raised as a whole it is accepted by every dictionary that
has it exactly if lowering gives each of its characters back, and with its first character raised
exactly if lowering gives that one back; a casing that is not given back is reported, if it is long
enough, by the dictionary whose only word it comes from. -/
theorem isIncorrect_casings {d : Dictionary} (hbuilt : d.Built) {word : List Char}
    (hword : d.has word = true) (n : Nat) :
    Rules.isIncorrect ⟨d, n⟩ word = false ∧
    (isRestored word = true -> Rules.isIncorrect ⟨d, n⟩ (upper word) = false) ∧
    (isRestoredInFront word = true -> Rules.isIncorrect ⟨d, n⟩ (capitalized word) = false) ∧
    (isRestored word = false -> n ≤ (upper word).length ->
      Rules.isIncorrect ⟨Dictionary.ofEntries [word], n⟩ (upper word) = true) ∧
    (isRestoredInFront word = false -> n ≤ (capitalized word).length ->
      Rules.isIncorrect ⟨Dictionary.ofEntries [word], n⟩ (capitalized word) = true) := by
  have hform : IsLowered word ∧ word ≠ [] := by
    rcases hbuilt.exists_entry hword with ⟨entry, hentry, rfl⟩
    exact ⟨isLowered_lower entry, lower_ne_nil hentry⟩
  rcases hform with ⟨hlowered, hne⟩
  have hraised := lower_upper_eq_iff word
  have hfront := lower_capitalized_eq_iff hlowered
  refine ⟨?_, ?_, ?_, ?_, ?_⟩
  · exact Rules.isIncorrect_of_lower_eq hword (hlowered.lowerOnto_eq_self []) n
  · intro hrestored
    exact Rules.isIncorrect_of_lower_eq hword (hraised.mpr hrestored) n
  · intro hrestored
    exact Rules.isIncorrect_of_lower_eq hword (hfront.mpr hrestored) n
  · intro hlost hlength
    refine Rules.isIncorrect_of_lower_ne hne hlowered ?_ hlength
    rw [ne_eq, hraised, hlost]
    exact Bool.false_ne_true
  · intro hlost hlength
    refine Rules.isIncorrect_of_lower_ne hne hlowered ?_ hlength
    rw [ne_eq, hfront, hlost]
    exact Bool.false_ne_true

def foreignEntries : List (List Char) :=
  ["Straße".toList, "σεισμός".toList]

theorem isIncorrect_casings_foreign :
    (Dictionary.ofEntries foreignEntries).has "σεισμός".toList = true ∧
    Rules.isIncorrect ⟨Dictionary.ofEntries foreignEntries, 4⟩ (upper "σεισμός".toList) = false ∧
    (Dictionary.ofEntries foreignEntries).has "straße".toList = true ∧
    Rules.isIncorrect ⟨Dictionary.ofEntries foreignEntries, 4⟩
      (capitalized "straße".toList) = false ∧
    Rules.isIncorrect ⟨Dictionary.ofEntries ["straße".toList], 4⟩
      (upper "straße".toList) = true := by
  have hbuilt := Dictionary.Built.ofEntries foreignEntries
  have hsigma : (Dictionary.ofEntries foreignEntries).has "σεισμός".toList = true := by
    decide +kernel
  have hsharp : (Dictionary.ofEntries foreignEntries).has "straße".toList = true := by
    decide +kernel
  have hsigma' := isIncorrect_casings hbuilt hsigma 4
  have hsharp' := isIncorrect_casings hbuilt hsharp 4
  exact ⟨hsigma, hsigma'.2.1 (by decide +kernel), hsharp, hsharp'.2.2.1 (by decide +kernel),
    hsharp'.2.2.2.1 (by decide +kernel) (by decide +kernel)⟩

/-- Not every casing of a word is accepted with it. -/
theorem isIncorrect_casings_sharp :
    ¬ forall (d : Dictionary) (word : List Char) (n : Nat), d.Built -> d.has word = true ->
      Rules.isIncorrect ⟨d, n⟩ word = false ∧ Rules.isIncorrect ⟨d, n⟩ (upper word) = false ∧
        Rules.isIncorrect ⟨d, n⟩ (capitalized word) = false := by
  intro haccepted
  have hbuilt := Dictionary.Built.ofEntries ["straße".toList]
  have hword : (Dictionary.ofEntries ["straße".toList]).has "straße".toList = true := by
    decide +kernel
  have hcapitals := (haccepted _ _ 4 hbuilt hword).2.1
  have hreported : Rules.isIncorrect ⟨Dictionary.ofEntries ["straße".toList], 4⟩
      (upper "straße".toList) = true := by
    decide +kernel
  rw [hreported] at hcapitals
  cases hcapitals

end CamelSpell
