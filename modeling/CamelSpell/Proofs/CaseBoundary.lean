import CamelSpell.Proofs.FirstSubWord
import CamelSpell.Proofs.MaximalRun

/-!
# Boundaries between sub-words

In a token of capitals and lower-case letters only, a look at the neighbours of a character tells
whether a sub-word begins there.  The splitter, which never looks ahead, cuts exactly at these
places.
-/

namespace CamelSpell

open Unicode

/-!
# The rule

The rule looks at the character at a place and at its neighbours, so it sees the same in a part of
the token as long as the neighbours belong to the part.
-/

/-- Whether a capital begins a sub-word: the character before it is a lower-case letter, or it is
the last capital in a row and a lower-case letter follows. -/
def isBoundary (token : List Char) (i : Nat) : Bool :=
  hasAt isUppercase token i &&
    (hasAt isLowercase token (i - 1) ||
      hasAt isUppercase token (i - 1) && hasAt isLowercase token (i + 1))

/-- The parts of a token that begin at given places, each up to the next place. -/
def partsFrom (token : List Char) : List Nat -> List SubWord
  | [] => []
  | [i] => [⟨token.drop i, i⟩]
  | i :: j :: rest => ⟨(token.drop i).take (j - i), i⟩ :: partsFrom token (j :: rest)

section HasAt

variable {p : Char -> Bool}

theorem hasAt_append_right (p : Char -> Bool) (before cs : List Char) (i : Nat) :
    hasAt p (before ++ cs) (before.length + i) = hasAt p cs i := by
  unfold hasAt
  rw [List.getElem?_append_right (Nat.le_add_right _ _), Nat.add_sub_cancel_left]

theorem hasAt_append_left {cs : List Char} {i : Nat} (p : Char -> Bool) (hi : i < cs.length)
    (after : List Char) : hasAt p (cs ++ after) i = hasAt p cs i := by
  unfold hasAt
  rw [List.getElem?_append_left hi]

theorem hasAt_eq_false {cs : List Char} (h : forall c, c ∈ cs -> p c = false) (i : Nat) :
    hasAt p cs i = false := by
  rw [<- Bool.not_eq_true, hasAt_iff]
  intro hat
  rcases hat with ⟨c, hc, hpc⟩
  rw [h c (List.mem_of_getElem? hc)] at hpc
  cases hpc

theorem hasAt_eq_true {cs : List Char} {i : Nat} (h : forall c, c ∈ cs -> p c = true)
    (hi : i < cs.length) : hasAt p cs i = true :=
  hasAt_iff.mpr ⟨cs[i], List.getElem?_eq_getElem hi, h _ (List.getElem_mem hi)⟩

end HasAt

/-!
# Boundaries around the first sub-word

Inside of the first sub-word there is no boundary, its end is one unless it is the end of the
token, and behind it the rule sees nothing of it.
-/

section Boundary

variable {first rest : List Char}

theorem isBoundary_behind {i : Nat} (hi : 0 < i) :
    isBoundary (first ++ rest) (first.length + i) = isBoundary rest i := by
  have hprevious : first.length + i - 1 = first.length + (i - 1) := by omega
  unfold isBoundary
  rw [hprevious, Nat.add_assoc, hasAt_append_right, hasAt_append_right, hasAt_append_right,
    hasAt_append_right]

theorem hasAt_tail {p : Char -> Bool} {a : Char} {cs : List Char} {i : Nat} (hi : 0 < i) :
    hasAt p (a :: cs) i = hasAt p cs (i - 1) := by
  have hplace : i = [a].length + (i - 1) := by
    rw [List.length_singleton]
    omega
  have hskip := hasAt_append_right p [a] cs (i - 1)
  rw [<- hplace] at hskip
  exact hskip

theorem isBoundary_eq_false {token : List Char} {i : Nat}
    (hbefore : hasAt isLowercase token (i - 1) = false)
    (hafter : hasAt isLowercase token (i + 1) = false) : isBoundary token i = false := by
  unfold isBoundary
  rw [hbefore, hafter, Bool.and_false, Bool.or_false, Bool.and_false]

theorem Begins.not_isBoundary (h : Begins first rest) {i : Nat} (hi : 0 < i)
    (hlt : i < first.length) : isBoundary (first ++ rest) i = false := by
  cases h with
  | letter a =>
      rw [List.length_singleton] at hlt
      omega
  | small ha hu rest =>
      rw [List.length_singleton] at hlt
      omega
  | @plain a b more rest hb hmore hrest =>
      have hplain : forall c, c ∈ b :: more -> isUppercase c = false :=
        List.forall_mem_cons.mpr ⟨hb, hmore⟩
      unfold isBoundary
      rw [hasAt_append_left isUppercase hlt, hasAt_tail hi, hasAt_eq_false hplain, Bool.false_and]
  | @acronym a b more ha hb hmore =>
      have hnone := forall_not_isLowercase ha hb hmore
      rw [List.append_nil]
      exact isBoundary_eq_false (hasAt_eq_false hnone _) (hasAt_eq_false hnone _)
  | @capital a b x c more first ha hb hmore hrun hc rest =>
      have hnone := forall_not_isLowercase ha hb hmore
      rw [hrun] at hnone
      have hlength : (first ++ [x]).length = first.length + 1 := List.length_append
      rw [List.append_cons]
      apply isBoundary_eq_false
      · rw [hasAt_append_left isLowercase (by omega), hasAt_eq_false hnone]
      · rw [hasAt_append_left isLowercase (by omega), hasAt_eq_false hnone]

theorem Begins.isBoundary_length (h : Begins first rest)
    (hcased : forall c, c ∈ first ++ rest -> isUppercase c = true ∨ isLowercase c = true)
    (hne : rest ≠ []) : isBoundary (first ++ rest) first.length = true := by
  have hpositive := List.length_pos_iff.mpr h.ne_nil
  have hlast : first.length - 1 < first.length := by omega
  have hend := fun p => hasAt_append_right p first rest 0
  have hnext := fun p => hasAt_append_right p first rest 1
  unfold isBoundary
  rw [hasAt_append_left isLowercase hlast, hasAt_append_left isUppercase hlast, hnext]
  rw [Nat.add_zero] at hend
  rw [hend]
  cases h with
  | letter a =>
      exact absurd rfl hne
  | small ha hu rest =>
      simp [hasAt, ha, hu]
  | @plain a b more rest hb hmore hrest =>
      cases rest with
      | nil =>
          exact absurd rfl hne
      | cons u rest =>
          have hplain : forall c, c ∈ b :: more -> isUppercase c = false :=
            List.forall_mem_cons.mpr ⟨hb, hmore⟩
          have hlower : forall c, c ∈ b :: more -> isLowercase c = true := by
            intro c hc
            have hmem : c ∈ a :: b :: more ++ u :: rest :=
              List.mem_append_left _ (List.mem_cons_of_mem a hc)
            rcases hcased c hmem with hupper | hlower
            · rw [hplain c hc] at hupper
              cases hupper
            · exact hlower
          have hu : hasAt isUppercase (u :: rest) 0 = true := hrest u rfl
          rw [hu, hasAt_tail (by simp), hasAt_eq_true hlower (by simp)]
          rfl
  | acronym ha hb hmore =>
      exact absurd rfl hne
  | @capital a b x c more first ha hb hmore hrun hc rest =>
      have hupper : forall d, d ∈ first ++ [x] -> isUppercase d = true := by
        intro d hd
        have hmem : d ∈ first ++ x :: c :: rest := by
          rw [List.append_cons]
          exact List.mem_append_left _ hd
        rcases hcased d hmem with hupper | hlower
        · exact hupper
        · rw [<- hrun] at hd
          rw [forall_not_isLowercase ha hb hmore d hd] at hlower
          cases hlower
      have hfirst : forall d, d ∈ first -> isUppercase d = true :=
        fun d hd => hupper d (List.mem_append_left [x] hd)
      have hx : hasAt isUppercase (x :: c :: rest) 0 = true :=
        hupper x (List.mem_append_right first List.mem_cons_self)
      have hfollows : hasAt isLowercase (x :: c :: rest) 1 = true := hc
      rw [hx, hfollows, hasAt_eq_true hfirst hlast, Bool.true_and, Bool.and_self, Bool.or_true]

theorem Begins.filter_inside (h : Begins first rest) :
    ((List.range first.length).filter fun i => i == 0 || isBoundary (first ++ rest) i) = [0] := by
  have hpositive := List.length_pos_iff.mpr h.ne_nil
  have hlength : first.length = first.length - 1 + 1 := by omega
  rw [hlength, List.range_succ_eq_map, List.filter_cons_of_pos (by simp), List.cons_eq_cons,
    List.filter_eq_nil_iff]
  refine ⟨rfl, ?_⟩
  intro i hi
  rcases List.mem_map.mp hi with ⟨k, hk, hki⟩
  rw [List.mem_range] at hk
  rw [<- hki, h.not_isBoundary (by omega) (by omega)]
  simp

theorem Begins.isBoundary_add (h : Begins first rest)
    (hcased : forall c, c ∈ first ++ rest -> isUppercase c = true ∨ isLowercase c = true)
    {i : Nat} (hi : i < rest.length) :
    (first.length + i == 0 || isBoundary (first ++ rest) (first.length + i)) =
      (i == 0 || isBoundary rest i) := by
  have hpositive := List.length_pos_iff.mpr h.ne_nil
  have hfar : (first.length + i == 0) = false := by
    rw [beq_eq_false_iff_ne]
    omega
  rw [hfar, Bool.false_or]
  cases i with
  | zero =>
      exact h.isBoundary_length hcased (List.length_pos_iff.mp hi)
  | succ k =>
      rw [isBoundary_behind (Nat.succ_pos k)]
      rfl

end Boundary

/-!
# Splitting at boundaries

Sub-words are texts in a row, so their offsets say everything about them.
-/

theorem offsets_splitToken {token : List Char}
    (hcased : forall c, c ∈ token -> isUppercase c = true ∨ isLowercase c = true) :
    (splitToken token).map SubWord.offset =
      (List.range token.length).filter fun i => i == 0 || isBoundary token i := by
  induction token using tokenInduction with
  | nil =>
      rfl
  | cut first rest hbegins ih =>
      have hrest := ih fun c hc => hcased c (List.mem_append_right first hc)
      have hbehind : forall i, i ∈ List.range rest.length ->
          (first.length + i == 0 || isBoundary (first ++ rest) (first.length + i)) =
            (i == 0 || isBoundary rest i) :=
        fun i hi => hbegins.isBoundary_add hcased (List.mem_range.mp hi)
      have hfilter := List.filter_congr hbehind
      rw [hbegins.splitToken_append, List.length_append, List.range_add, List.filter_append,
        hbegins.filter_inside, List.filter_map]
      simp only [Function.comp_def, hfilter, <- hrest, List.map_cons, List.map_map]
      rfl

theorem placed_eq_partsFrom (before : List Char) (texts : List (List Char)) :
    placed before.length texts =
      partsFrom (before ++ texts.flatten) ((placed before.length texts).map SubWord.offset) := by
  induction texts generalizing before with
  | nil =>
      rfl
  | cons text rest ih =>
      have hrest := ih (before ++ text)
      rw [List.length_append, List.append_assoc] at hrest
      cases rest with
      | nil =>
          simp [placed, partsFrom]
      | cons next others =>
          simp only [placed, List.map_cons, partsFrom, List.flatten_cons] at hrest ⊢
          rw [<- hrest]
          simp

theorem splitToken_eq_partsFrom (token : List Char) :
    splitToken token = partsFrom token ((splitToken token).map SubWord.offset) := by
  rcases exists_placed_eq_splitToken token with ⟨texts, hsplit, hflatten, _⟩
  have hparts := placed_eq_partsFrom [] texts
  rw [List.nil_append, hflatten] at hparts
  rw [hsplit]
  exact hparts

/-- In a token of capitals and lower-case letters a sub-word begins exactly at the boundaries, and
so the token is split into the parts between them. -/
theorem splitToken_boundaries {token : List Char}
    (hcased : forall c, c ∈ token -> isUppercase c = true ∨ isLowercase c = true) :
    (forall i, 0 < i -> i < token.length ->
      ((exists part, part ∈ splitToken token ∧ part.offset = i) <-> isBoundary token i = true)) ∧
    splitToken token =
      partsFrom token ((List.range token.length).filter fun i => i == 0 || isBoundary token i) := by
  have hoffsets := offsets_splitToken hcased
  constructor
  · intro i hi hlt
    have hmem : (exists part, part ∈ splitToken token ∧ part.offset = i) <->
        i ∈ (splitToken token).map SubWord.offset := List.mem_map.symm
    have hne : (i == 0) = false := beq_false_of_ne (Nat.ne_of_gt hi)
    rw [hmem, hoffsets, List.mem_filter, List.mem_range, hne, Bool.false_or]
    exact ⟨fun h => h.2, fun h => ⟨hlt, h⟩⟩
  · rw [<- hoffsets]
    exact splitToken_eq_partsFrom token

theorem splitToken_boundaries_acronyms :
    (forall c, c ∈ "leftXMLHttpÉCOLE".toList -> isUppercase c = true ∨ isLowercase c = true) ∧
      (exists part, part ∈ splitToken "leftXMLHttpÉCOLE".toList ∧ part.offset = 7) ∧
      splitToken "leftXMLHttpÉCOLE".toList =
        [⟨"left".toList, 0⟩, ⟨"XML".toList, 4⟩, ⟨"Http".toList, 7⟩, ⟨"ÉCOLE".toList, 11⟩] := by
  have hcased : forall c, c ∈ "leftXMLHttpÉCOLE".toList ->
      isUppercase c = true ∨ isLowercase c = true := by
    have hall : "leftXMLHttpÉCOLE".toList.all (fun c => isUppercase c || isLowercase c) = true := by
      decide +kernel
    intro c hc
    simpa only [Bool.or_eq_true] using List.all_eq_true.mp hall c hc
  have hplace : 7 < "leftXMLHttpÉCOLE".toList.length := by decide
  have hboundary : isBoundary "leftXMLHttpÉCOLE".toList 7 = true := by decide +kernel
  have hsplit := splitToken_boundaries hcased
  refine ⟨hcased, (hsplit.1 7 (by decide) hplace).mpr hboundary, ?_⟩
  rw [hsplit.2]
  decide +kernel

end CamelSpell
