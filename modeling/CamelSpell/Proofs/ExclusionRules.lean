import CamelSpell.Exclusion
import Mathlib

/-!
# Lists of exclusion rules

What a list of rules excludes is a matter of which rules are in it, whatever a rule is: where they
stand does not count, more of them exclude more, and a rule that cannot be read excludes nothing.
The notation of the rules is therefore left open here; globs are one of them.
-/

namespace CamelSpell

open CamelSpell.Path

/-- How rules are written: what is read from the text of one, or why not, and which texts a rule
accepts. -/
structure RuleNotation (ε ρ : Type) where
  read : String -> Except ε ρ
  accepts : ρ -> Path -> Bool

namespace RuleNotation

variable {ε ρ : Type} (n : RuleNotation ε ρ)

def accepted (rules : List String) : List ρ :=
  rules.filterMap fun rule => (n.read rule).toOption

def rejected (rules : List String) : List (String × ε) :=
  rules.filterMap fun rule =>
    match n.read rule with
    | .ok _ => none
    | .error e => some (rule, e)

def rejects (rule : String) : Bool :=
  match n.read rule with
  | .ok _ => false
  | .error _ => true

/-- A rule excludes an entry by its full path or by its name alone. -/
def excludes (rules : List String) : Exclusion := fun p =>
  (n.accepted rules).any fun r => n.accepts r p || n.accepts r (Path.baseName p)

/-!
# What is excluded

An entry is excluded if a rule that can be read accepts its path or its name.  Rules that cannot
be read add nothing.
-/

def Covers (rule : String) (p : Path) : Prop :=
  exists r, n.read rule = .ok r ∧ (n.accepts r p || n.accepts r (Path.baseName p)) = true

theorem excludes_iff {rules : List String} {p : Path} :
    n.excludes rules p = true <-> exists rule, rule ∈ rules ∧ n.Covers rule p := by
  have haccepted : forall r, r ∈ n.accepted rules <-> exists rule, rule ∈ rules ∧
      n.read rule = .ok r := by
    intro r
    unfold accepted
    rw [List.mem_filterMap]
    apply exists_congr
    intro rule
    apply and_congr_right
    intro _
    cases n.read rule with
    | error e => simp [Except.toOption]
    | ok r' => simp [Except.toOption]
  unfold excludes
  rw [List.any_eq_true]
  constructor
  · rintro ⟨r, hr, haccepts⟩
    rcases (haccepted r).mp hr with ⟨rule, hrule, hread⟩
    exact ⟨rule, hrule, r, hread, haccepts⟩
  · rintro ⟨rule, hrule, r, hread, haccepts⟩
    exact ⟨r, (haccepted r).mpr ⟨rule, hrule, hread⟩, haccepts⟩

theorem Covers.not_rejects {n : RuleNotation ε ρ} {rule : String} {p : Path}
    (h : n.Covers rule p) : n.rejects rule = false := by
  rcases h with ⟨r, hread, _⟩
  unfold rejects
  rw [hread]

section Added

variable {rules more combined : List String} (hcombined : combined.Perm (rules ++ more))
include hcombined

theorem mem_combined {rule : String} : rule ∈ combined <-> rule ∈ rules ∨ rule ∈ more := by
  rw [hcombined.mem_iff, List.mem_append]

theorem excludes_combined {p : Path} :
    n.excludes combined p = true <-> n.excludes rules p = true ∨ n.excludes more p = true := by
  simp only [excludes_iff, mem_combined hcombined, or_and_right, exists_or]

theorem excludes_of_rejects (h : forall rule, rule ∈ more -> n.rejects rule = true) :
    n.excludes combined = n.excludes rules := by
  have hmore : forall p, ¬ n.excludes more p = true := by
    intro p hp
    rcases n.excludes_iff.mp hp with ⟨rule, hrule, hcovers⟩
    have hrejects := h rule hrule
    rw [hcovers.not_rejects] at hrejects
    cases hrejects
  funext p
  rw [Bool.eq_iff_iff, n.excludes_combined hcombined, or_iff_left (hmore p)]

end Added

theorem excludes_filter (rules : List String) :
    n.excludes (rules.filter fun rule => !n.rejects rule) = n.excludes rules := by
  have hperm : rules.Perm ((rules.filter fun rule => !n.rejects rule) ++ rules.filter n.rejects) :=
    ((List.perm_append_comm.trans (List.filter_append_perm n.rejects rules))).symm
  symm
  apply n.excludes_of_rejects hperm
  intro rule hrule
  exact (List.mem_filter.mp hrule).2

/-!
# What is rejected

Every rule that cannot be read is named once for each time it is listed, in the order of the list.
-/

theorem mem_rejected {rules : List String} {rule : String} {e : ε} :
    (rule, e) ∈ n.rejected rules <-> rule ∈ rules ∧ n.read rule = .error e := by
  unfold rejected
  rw [List.mem_filterMap]
  constructor
  · rintro ⟨rule', hmem, hread⟩
    cases h : n.read rule' with
    | ok r =>
        rw [h] at hread
        cases hread
    | error e' =>
        rw [h] at hread
        cases hread
        exact ⟨hmem, h⟩
  · rintro ⟨hmem, hread⟩
    refine ⟨rule, hmem, ?_⟩
    rw [hread]

theorem rejected_map_fst (rules : List String) :
    (n.rejected rules).map Prod.fst = rules.filter n.rejects := by
  induction rules with
  | nil =>
      rfl
  | cons rule rest ih =>
      unfold rejected at ih ⊢
      rw [List.filterMap_cons, List.filter_cons]
      unfold rejects at ih ⊢
      cases n.read rule with
      | ok r =>
          exact ih
      | error e =>
          exact congrArg (rule :: ·) ih

/-!
# Globs

The rules of a configuration are globs, which is one of the ways in which rules may be written.
-/

def glob : RuleNotation Glob.PatternError Glob.Pattern where
  read := Glob.Pattern.read
  accepts pattern p := pattern.accepts (Unicode.units p)

theorem read_accepted (rules : List String) :
    (ExclusionRules.read rules).accepted = glob.accepted rules := by
  unfold ExclusionRules.read accepted ExclusionRules.readRule glob
  simp only [List.filterMap_map]
  congr 1
  funext rule
  simp only [Function.comp_apply]
  cases Glob.Pattern.read rule with
  | ok pattern => rfl
  | error e => rfl

theorem read_excludes (rules : List String) :
    (ExclusionRules.read rules).excludes = glob.excludes rules := by
  unfold ExclusionRules.excludes excludes
  rw [read_accepted]
  rfl

theorem read_rejected (rules : List String) :
    (ExclusionRules.read rules).rejected.map (fun r => (r.rule, r.error)) =
      glob.rejected rules := by
  unfold ExclusionRules.read rejected ExclusionRules.readRule glob
  simp only [List.filterMap_map, List.map_filterMap]
  congr 1
  funext rule
  simp only [Function.comp_apply]
  cases Glob.Pattern.read rule with
  | ok pattern => rfl
  | error e => rfl

end RuleNotation
end CamelSpell
