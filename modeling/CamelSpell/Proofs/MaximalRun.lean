import Mathlib.Data.List.TakeWhile

/-!
# Maximal runs

The maximal runs of a line are its longest stretches of characters that have a property.  They are
given twice: by the positions where they begin, which says what they are, and by a walk along the
line, which is the form that a reader of the line goes through.
-/

namespace CamelSpell

def hasAt (p : Char -> Bool) (cs : List Char) (i : Nat) : Bool :=
  cs[i]?.any p

def beginsRun (p : Char -> Bool) (cs : List Char) (i : Nat) : Bool :=
  hasAt p cs i && (i == 0 || !hasAt p cs (i - 1))

/-- The maximal runs of a line from left to right, each with the number of characters before it. -/
def maximalRuns (p : Char -> Bool) (cs : List Char) : List (Nat × List Char) :=
  ((List.range cs.length).filter (beginsRun p cs)).map fun i =>
    (i, (cs.drop i).takeWhile p)

/-!
# What a maximal run is

A maximal run is not empty, has the property throughout, and cannot be made longer at either end.
Every such stretch of a line is listed.
-/

theorem hasAt_iff {p : Char -> Bool} {cs : List Char} {i : Nat} :
    hasAt p cs i = true <-> exists c, cs[i]? = some c ∧ p c = true := by
  unfold hasAt
  rw [Option.any_eq_true]

theorem beginsRun_lt {p : Char -> Bool} {cs : List Char} {i : Nat}
    (h : beginsRun p cs i = true) : i < cs.length := by
  unfold beginsRun at h
  rw [Bool.and_eq_true] at h
  rcases hasAt_iff.mp h.left with ⟨c, hc, _⟩
  exact (List.getElem?_eq_some_iff.mp hc).choose

theorem mem_maximalRuns {p : Char -> Bool} {cs run : List Char} {i : Nat} :
    (i, run) ∈ maximalRuns p cs <->
      beginsRun p cs i = true ∧ run = (cs.drop i).takeWhile p := by
  unfold maximalRuns
  simp only [List.mem_map, List.mem_filter, List.mem_range, Prod.mk.injEq]
  constructor
  · intro h
    rcases h with ⟨j, ⟨_, hbegins⟩, hij, hrun⟩
    subst hij
    exact ⟨hbegins, hrun.symm⟩
  · intro h
    exact ⟨i, ⟨beginsRun_lt h.left, h.left⟩, rfl, h.right.symm⟩

theorem mem_maximalRuns_iff {p : Char -> Bool} {cs run : List Char} {i : Nat} :
    (i, run) ∈ maximalRuns p cs <->
      exists before after, cs = before ++ run ++ after ∧ before.length = i ∧ run ≠ [] ∧
        (forall c, c ∈ run -> p c = true) ∧
        (forall c, before.getLast? = some c -> p c = false) ∧
        (forall c, after.head? = some c -> p c = false) := by
  rw [mem_maximalRuns]
  constructor
  · intro h
    rcases h with ⟨hbegins, hrun⟩
    have hlt := beginsRun_lt hbegins
    unfold beginsRun at hbegins
    rw [Bool.and_eq_true] at hbegins
    rcases hasAt_iff.mp hbegins.left with ⟨c, hc, hpc⟩
    have hdrop : cs.drop i = c :: cs.drop (i + 1) := by
      rw [List.drop_eq_getElem_cons hlt]
      rw [List.getElem?_eq_getElem hlt, Option.some.injEq] at hc
      rw [hc]
    refine ⟨cs.take i, (cs.drop i).dropWhile p, ?_, ?_, ?_, ?_, ?_, ?_⟩
    · rw [hrun, List.append_assoc, List.takeWhile_append_dropWhile, List.take_append_drop]
    · exact List.length_take_of_le (Nat.le_of_lt hlt)
    · rw [hrun, hdrop, List.takeWhile_cons_of_pos hpc]
      exact List.cons_ne_nil _ _
    · intro a ha
      rw [hrun] at ha
      exact List.mem_takeWhile_imp ha
    · intro a ha
      have hi : i ≠ 0 := by
        intro hi
        rw [hi, List.take_zero] at ha
        cases ha
      have hbefore : hasAt p cs (i - 1) = false := by
        simpa [hi] using hbegins.right
      rw [List.getLast?_eq_getElem?, List.length_take_of_le (Nat.le_of_lt hlt),
        List.getElem?_take_of_lt (by omega)] at ha
      simpa [hasAt, ha] using hbefore
    · intro a ha
      have hnot := List.head?_dropWhile_not p (cs.drop i)
      rw [ha] at hnot
      exact hnot
  · intro h
    rcases h with ⟨before, after, hcs, hi, hne, hall, hleft, hright⟩
    subst hi
    have hdrop : cs.drop before.length = run ++ after := by
      rw [hcs, List.append_assoc, List.drop_left]
    have hstop : after.takeWhile p = [] := by
      cases after with
      | nil =>
          rfl
      | cons c rest =>
          exact List.takeWhile_cons_of_neg (by simp [hright c rfl])
    constructor
    · cases run with
      | nil =>
          exact absurd rfl hne
      | cons c rest =>
          have hhere : hasAt p cs before.length = true := by
            apply hasAt_iff.mpr
            exact ⟨c, by rw [hcs]; simp, hall c List.mem_cons_self⟩
          unfold beginsRun
          rw [hhere, Bool.true_and]
          cases hlast : before.getLast? with
          | none =>
              rw [List.getLast?_eq_none_iff] at hlast
              simp [hlast]
          | some a =>
              have hpos : before.length - 1 < before.length := by
                rcases List.getLast?_eq_some_iff.mp hlast with ⟨front, hfront⟩
                simp [hfront]
              have ha : cs[before.length - 1]? = some a := by
                rw [hcs, List.append_assoc, List.getElem?_append_left hpos,
                  <- List.getLast?_eq_getElem?, hlast]
              simp [hasAt, ha, hleft a hlast]
    · rw [hdrop, List.takeWhile_append_of_pos hall, hstop, List.append_nil]

/-!
# Walking along a line

The maximal runs are met one after another along the line; all that is kept from one character to
the next is whether it belongs to a run.
-/

/-- The maximal runs that begin in the rest of a line.  `inside` tells whether the character before
belongs to a run, and `i` is the number of characters before. -/
def runsAlong (p : Char -> Bool) (inside : Bool) (i : Nat) : List Char -> List (Nat × List Char)
  | [] => []
  | c :: rest =>
      if p c && !inside then (i, (c :: rest).takeWhile p) :: runsAlong p (p c) (i + 1) rest
      else runsAlong p (p c) (i + 1) rest

theorem runsAlong_eq (p : Char -> Bool) (inside : Bool) (i : Nat) (cs : List Char) :
    runsAlong p inside i cs =
      ((List.range cs.length).filter fun k =>
        hasAt p cs k && !(if k = 0 then inside else hasAt p cs (k - 1))).map fun k =>
          (i + k, (cs.drop k).takeWhile p) := by
  induction cs generalizing inside i with
  | nil =>
      rfl
  | cons c rest ih =>
      have hhead : hasAt p (c :: rest) 0 = p c := by
        simp [hasAt]
      have htail : forall k, hasAt p (c :: rest) (k + 1) = hasAt p rest k := by
        intro k
        simp [hasAt]
      -- the positions of the rest of the line, seen from the line
      have hrest :
          ((List.range rest.length).filter fun k =>
            hasAt p rest k && !(if k = 0 then p c else hasAt p rest (k - 1))) =
          (List.range rest.length).filter
            ((fun k => hasAt p (c :: rest) k &&
              !(if k = 0 then inside else hasAt p (c :: rest) (k - 1))) ∘ Nat.succ) := by
        apply List.filter_congr
        intro k _hk
        cases k with
        | zero =>
            simp [htail, hhead]
        | succ k =>
            simp [htail]
      unfold runsAlong
      rw [List.length_cons, List.range_succ_eq_map, List.filter_cons, List.filter_map, ih, hrest]
      rw [hhead, if_pos rfl]
      by_cases hbegins : (p c && !inside) = true
      · rw [if_pos hbegins, if_pos hbegins]
        simp [Function.comp_def, Nat.add_assoc, Nat.add_comm 1]
      · rw [if_neg hbegins, if_neg hbegins]
        simp [Function.comp_def, Nat.add_assoc, Nat.add_comm 1]

theorem maximalRuns_eq_runsAlong (p : Char -> Bool) (cs : List Char) :
    maximalRuns p cs = runsAlong p false 0 cs := by
  rw [runsAlong_eq]
  unfold maximalRuns
  have hbegins : beginsRun p cs =
      fun k => hasAt p cs k && !(if k = 0 then false else hasAt p cs (k - 1)) := by
    funext k
    unfold beginsRun
    cases k with
    | zero =>
        simp
    | succ k =>
        simp
  rw [hbegins]
  simp

end CamelSpell
