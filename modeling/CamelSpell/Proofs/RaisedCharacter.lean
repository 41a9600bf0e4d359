import CamelSpell.Proofs.DictionaryEntries
import CamelSpell.Proofs.LetterCase

/-!
# Raised and lowered characters

What lowering makes of a character it leaves alone when it sees it again.  Raising is not undone by
lowering for every letter, but where it is, a letter and its capital count alike when the neighbours
of a sigma are examined.
-/

namespace CamelSpell

namespace Unicode

theorem sigma_forms :
    upperChar 'σ' = ['Σ'] ∧ upperChar 'ς' = ['Σ'] ∧ lowerChar 'Σ' = ['σ'] ∧
      lowerChar 'σ' = ['σ'] ∧ lowerChar 'ς' = ['ς'] := by
  decide +kernel

/-!
# Lowered characters

No run of capitals leads to a code point that another one holds, so nothing is lowered twice.
-/

namespace CaseRun

def image (run : CaseRun) (n : Nat) : Nat :=
  ((n : Int) + run.shift).toNat

def Valid (run : CaseRun) : Prop :=
  0 ≤ (run.first : Int) + run.shift ∧
    ((run.last : Int) + run.shift < 0xD800 ∨
      0xDFFF < (run.first : Int) + run.shift ∧ (run.last : Int) + run.shift < 0x110000)

instance (run : CaseRun) : Decidable run.Valid :=
  inferInstanceAs (Decidable (_ ∧ _))

/-- Whether no image of a run is held by one of the others: each of these ends before the images, or
begins after them, or steps over them. -/
def passes (run : CaseRun) : List CaseRun -> Bool
  | [] => true
  | other :: rest =>
      bif other.last.blt (run.image run.first) then run.passes rest
      else
        (run.image run.last).blt other.first ||
          other.step == 2 && (run.image run.first + other.first) % 2 == 1 &&
            (run.step == 2 || run.first == run.last) && run.passes rest

def LeadsOut (run : CaseRun) : Prop :=
  run.Valid ∧ run.passes lowerRuns = true ∧
    forall row, row ∈ lowerExpansions -> run.image run.last < row.1 ∨ row.1 < run.image run.first

instance (run : CaseRun) : Decidable run.LeadsOut :=
  inferInstanceAs (Decidable (_ ∧ _))

theorem move_image_of_passes {run : CaseRun} {runs : List CaseRun} {n : Nat}
    (hpasses : run.passes runs = true) (hvalid : run.Valid) (hfirst : run.first ≤ n)
    (hlast : n ≤ run.last) (hstep : (n - run.first) % run.step = 0) :
    move runs (run.image n) = run.image n := by
  have hpos := hvalid.1
  induction runs with
  | nil =>
      rfl
  | cons other rest ih =>
      unfold passes image at hpasses
      simp only [Bool.cond_eq_ite, Nat.blt_eq] at hpasses
      unfold move
      by_cases hbefore : run.image n < other.first
      · rw [if_pos hbefore]
      · unfold image at hbefore ⊢
        rw [if_neg hbefore]
        split at hpasses
        · rw [if_neg (by omega)]
          exact ih hpasses
        · simp only [Bool.and_eq_true, Bool.or_eq_true, beq_iff_eq, Nat.blt_eq] at hpasses
          rcases hpasses with hend | ⟨⟨⟨htwo, hodd⟩, hsteps⟩, hrest⟩
          · omega
          · have hover : ¬ (((n : Int) + run.shift).toNat ≤ other.last ∧
                (((n : Int) + run.shift).toNat - other.first) % other.step = 0) := by
              rintro ⟨_, hheld⟩
              rw [htwo] at hheld
              rcases hsteps with htwo' | hone
              · rw [htwo'] at hstep
                omega
              · omega
            rw [if_neg hover]
            exact ih hrest

end CaseRun

theorem lowerRuns_leadsOut : forall run, run ∈ lowerRuns -> run.LeadsOut := by
  decide +kernel

theorem move_move_lowerRuns (n : Nat) :
    CaseRun.move lowerRuns (CaseRun.move lowerRuns n) = CaseRun.move lowerRuns n := by
  rcases move_eq_self_or lowerRuns n with hself | ⟨run, hrun, hfirst, hlast, hstep, hshift⟩
  · rw [hself, hself]
  · rw [hshift]
    have hout := lowerRuns_leadsOut run hrun
    exact CaseRun.move_image_of_passes hout.2.1 hout.1 hfirst hlast hstep

theorem lookup_lowerExpansions_move {n : Nat} (h : lowerExpansions.lookup n = none) :
    lowerExpansions.lookup (CaseRun.move lowerRuns n) = none := by
  rcases move_eq_self_or lowerRuns n with hself | ⟨run, hrun, hfirst, hlast, _, hshift⟩
  · rw [hself, h]
  · rw [List.lookup_eq_none_iff]
    intro row hrow
    have hapart := (lowerRuns_leadsOut run hrun).2.2 row hrow
    have hpos := (lowerRuns_leadsOut run hrun).1.1
    unfold CaseRun.image at hapart
    rw [bne_iff_ne]
    omega

theorem toNat_ofNat_move_lowerRuns (c : Char) :
    (Char.ofNat (CaseRun.move lowerRuns c.toNat)).toNat = CaseRun.move lowerRuns c.toNat := by
  rcases move_eq_self_or lowerRuns c.toNat with hself | ⟨run, hrun, hfirst, hlast, _, hshift⟩
  · rw [hself, Char.ofNat_toNat]
  · have hvalid : (CaseRun.move lowerRuns c.toNat).isValidChar := by
      rw [hshift]
      have hrange := (lowerRuns_leadsOut run hrun).1
      unfold CaseRun.Valid at hrange
      unfold Nat.isValidChar
      omega
    rw [Char.toNat_ofNat, if_pos hvalid]

theorem lowerExpansions_lowered :
    forall row, row ∈ lowerExpansions -> forall n, n ∈ row.2 ->
      n.isValidChar ∧ lowerExpansions.lookup n = none ∧ CaseRun.move lowerRuns n = n := by
  decide +kernel

theorem lowerChar_eq_self {c : Char} (hlookup : lowerExpansions.lookup c.toNat = none)
    (hmove : CaseRun.move lowerRuns c.toNat = c.toNat) : lowerChar c = [c] := by
  unfold lowerChar
  rw [hlookup, hmove, Char.ofNat_toNat]

theorem lowerChar_of_mem_lowerChar {a c : Char} (h : c ∈ lowerChar a) : lowerChar c = [c] := by
  unfold lowerChar at h
  cases hrow : lowerExpansions.lookup a.toNat with
  | some points =>
      rw [hrow] at h
      rcases List.mem_map.mp h with ⟨n, hn, rfl⟩
      rcases lowerExpansions_lowered _ (mem_of_lookup_eq_some hrow) n hn with
        ⟨hvalid, hnone, hfixed⟩
      have hnat : (Char.ofNat n).toNat = n := by
        rw [Char.toNat_ofNat, if_pos hvalid]
      apply lowerChar_eq_self <;> rw [hnat]
      · exact hnone
      · exact hfixed
  | none =>
      rw [hrow] at h
      have hnat : c.toNat = CaseRun.move lowerRuns a.toNat := by
        rw [List.mem_singleton.mp h, toNat_ofNat_move_lowerRuns]
      apply lowerChar_eq_self <;> rw [hnat]
      · exact lookup_lowerExpansions_move hrow
      · exact move_move_lowerRuns a.toNat

/-!
# Characters that are moved

A letter that is given back is moved by raising, and its capital by lowering.  The characters that
are moved are cased, and none is stepped over but the combining iota, which is not given back.
-/

def CaseRun.ends (run : CaseRun) : Nat × Nat :=
  (run.first, run.last)

theorem covers_of_move_ne {runs : List CaseRun} {n : Nat} (h : CaseRun.move runs n ≠ n) :
    RangeTable.covers (runs.map CaseRun.ends) n = true := by
  induction runs with
  | nil =>
      exact absurd rfl h
  | cons run rest ih =>
      unfold CaseRun.move at h
      rw [List.map_cons, CaseRun.ends]
      unfold RangeTable.covers
      split at h
      · exact absurd rfl h
      · rename_i hfirst
        rw [if_neg hfirst]
        split at h
        · rename_i hheld
          rw [if_pos hheld.1]
        · split
          · rfl
          · exact ih h

theorem covers_filter_of_ne {table : RangeTable} {n k : Nat} (hne : n ≠ k)
    (hsingle : forall range, range ∈ table -> range.1 = k -> range.2 = k)
    (h : table.covers n = true) :
    RangeTable.covers (table.filter fun range => range.1 != k) n = true := by
  induction table with
  | nil =>
      cases h
  | cons range rest ih =>
      rcases range with ⟨first, last⟩
      rw [List.forall_mem_cons] at hsingle
      have hrest := ih hsingle.2
      unfold RangeTable.covers at h
      by_cases hk : first = k
      · have hlast : last = k := hsingle.1 hk
        rw [List.filter_cons_of_neg (by simpa using hk)]
        split at h
        · cases h
        · split at h
          · omega
          · exact hrest h
      · rw [List.filter_cons_of_pos (by simpa using hk)]
        unfold RangeTable.covers
        split at h
        · cases h
        · rename_i hfirst
          rw [if_neg hfirst]
          split at h
          · rename_i hlast
            rw [if_pos hlast]
          · rename_i hlast
            rw [if_neg hlast]
            exact hrest h

theorem casedRanges_ne_empty : forall range, range ∈ casedRanges -> range.1 ≤ range.2 := by
  decide +kernel

theorem lowerRuns_cased :
    (forall run, run ∈ lowerRuns ->
      casedRanges.spans run.first run.last = true ∨
        forall n, n ∈ List.range' run.first (run.last + 1 - run.first) ->
          (n - run.first) % run.step = 0 -> casedRanges.covers n = true) ∧
      RangeTable.apart (lowerRuns.map CaseRun.ends) caseIgnorableRanges = true := by
  decide +kernel

theorem upperRuns_cased :
    (forall run, run ∈ upperRuns ->
      casedRanges.spans run.first run.last = true ∧ (run.first = 0x345 -> run.last = 0x345)) ∧
      RangeTable.apart ((upperRuns.map CaseRun.ends).filter fun range => range.1 != 0x345)
        caseIgnorableRanges = true := by
  decide +kernel

theorem class_of_move_lowerRuns {n : Nat} (h : CaseRun.move lowerRuns n ≠ n) :
    casedRanges.covers n = true ∧ caseIgnorableRanges.covers n = false := by
  refine ⟨?_, RangeTable.covers_of_apart lowerRuns_cased.2 (covers_of_move_ne h)⟩
  rcases move_eq_self_or lowerRuns n with hself | ⟨run, hrun, hfirst, hlast, hstep, _⟩
  · exact absurd hself h
  · rcases lowerRuns_cased.1 run hrun with hspans | hpoints
    · exact RangeTable.covers_of_spans casedRanges_ne_empty hspans hfirst hlast
    · refine hpoints n ?_ hstep
      rw [List.mem_range'_1]
      omega

theorem class_of_move_upperRuns {n : Nat} (h : CaseRun.move upperRuns n ≠ n) (hn : n ≠ 0x345) :
    casedRanges.covers n = true ∧ caseIgnorableRanges.covers n = false := by
  constructor
  · rcases move_eq_self_or upperRuns n with hself | ⟨run, hrun, hfirst, hlast, _, _⟩
    · exact absurd hself h
    · exact RangeTable.covers_of_spans casedRanges_ne_empty (upperRuns_cased.1 run hrun).1
        hfirst hlast
  · apply RangeTable.covers_of_apart upperRuns_cased.2
    apply covers_filter_of_ne hn _ (covers_of_move_ne h)
    intro range hrange
    rcases List.mem_map.mp hrange with ⟨run, hrun, rfl⟩
    exact (upperRuns_cased.1 run hrun).2

theorem iota_forms :
    upperChar (Char.ofNat 0x345) = ['Ι'] ∧ lowerChar 'Ι' ≠ [Char.ofNat 0x345] ∧ 'Ι' ≠ 'Σ' := by
  decide +kernel

theorem class_of_restored {c u : Char} (hcapital : upperChar c = [u])
    (hrestored : lowerChar u = [c] ∨ u = 'Σ') :
    isCased u = isCased c ∧ isCaseIgnorable u = isCaseIgnorable c := by
  by_cases hsame : u = c
  · rw [hsame]
    exact ⟨rfl, rfl⟩
  · have hraised : CaseRun.move upperRuns c.toNat ≠ c.toNat := by
      intro hself
      have hmove := ofNat_move_of_upperChar hcapital
      rw [hself, Char.ofNat_toNat] at hmove
      exact hsame hmove.symm
    have hlowered : exists l, lowerChar u = [l] ∧ u ≠ l := by
      rcases hrestored with hlower | rfl
      · exact ⟨c, hlower, hsame⟩
      · exact ⟨'σ', sigma_forms.2.2.1, by decide⟩
    have hmoved : CaseRun.move lowerRuns u.toNat ≠ u.toNat := by
      rcases hlowered with ⟨l, hl, hne⟩
      intro hself
      have hmove := ofNat_move_of_lowerChar hl
      rw [hself, Char.ofNat_toNat] at hmove
      exact hne hmove
    have hiota : c.toNat ≠ 0x345 := by
      intro hnat
      have hc : c = Char.ofNat 0x345 := by
        rw [<- hnat, Char.ofNat_toNat]
      rw [hc, iota_forms.1] at hcapital
      rw [hc, <- List.singleton_inj.mp hcapital] at hrestored
      exact hrestored.elim iota_forms.2.1 iota_forms.2.2
    have hc := class_of_move_upperRuns hraised hiota
    have hu := class_of_move_lowerRuns hmoved
    exact ⟨hu.1.trans hc.1.symm, hu.2.trans hc.2.symm⟩

end Unicode

end CamelSpell
