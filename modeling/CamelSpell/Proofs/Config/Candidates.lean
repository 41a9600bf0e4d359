import CamelSpell.Config.Search
import CamelSpell.Proofs.Path.Normalize
import Mathlib

/-!
# Where settings are looked for

The directories of a search go from the start up to the top, each within the next.  What is looked
for in them is spelled in full, so a candidate is where its spelling says.
-/

namespace CamelSpell

open CamelSpell.Path

namespace Path

/-!
# Outwards

From a place the way goes outwards by leaving off the last name, until none is left.  The paths
that are spelled on the way resolve to themselves.
-/

theorem outward_nil : outward [] = [[]] :=
  rfl

theorem outward_concat (ns : List Name) (n : Name) :
    outward (ns ++ [n]) = (ns ++ [n]) :: outward ns := by
  unfold outward
  rw [List.length_append, List.length_singleton, List.range_succ, List.reverse_concat,
    List.map_cons, List.take_of_length_le (by simp)]
  congr 1
  apply List.map_congr_left
  intro i hi
  rw [List.mem_reverse, List.mem_range] at hi
  exact List.take_append_of_le_length (Nat.le_of_lt_succ hi)

theorem exists_outward_eq (ns : List Name) : exists rest, outward ns = ns :: rest := by
  cases ns using List.reverseRecOn with
  | nil => exact ⟨[], outward_nil⟩
  | append_singleton before n => exact ⟨outward before, outward_concat before n⟩

theorem prefix_of_mem_outward {ns ms : List Name} (h : ms ∈ outward ns) : ms <+: ns := by
  unfold outward at h
  rcases List.mem_map.mp h with ⟨i, _, hms⟩
  rw [<- hms]
  exact List.take_prefix i ns

theorem isEntryName_of_mem_resolveNames {directory p : Path} {n : Name}
    (hn : n ∈ resolveNames directory p) : IsEntryName n := by
  refine ⟨isName_of_mem_resolveNames hn, ?_⟩
  intro habove
  unfold resolveNames at hn
  split at hn
  · exact above_not_mem_straight (straight_route false _)
      (List.mem_reverse.mpr (habove ▸ hn))
  · exact above_not_mem_straight (straight_route false _)
      (List.mem_reverse.mpr (habove ▸ hn))

section EntryNames

variable {ns : List Name} (h : forall n, n ∈ ns -> IsEntryName n)
include h

theorem names_absolute : names (absolute ns) = ns :=
  names_spell true fun n hn => (h n hn).toIsName

theorem normalNames_absolute : normalNames (absolute ns) = ns := by
  have hstraight : Straight false ns.reverse := by
    rw [<- List.append_nil ns.reverse]
    apply (straight_nil false).append_entryNames
    intro n hn
    exact h n (List.mem_reverse.mp hn)
  have hspelled : normalNames (spell true ns) = ns := normalNames_spell hstraight
  exact hspelled

theorem join_absolute {n : Name} (hn : IsEntryName n) :
    join (absolute ns) n = absolute (ns ++ [n]) := by
  have hne : absolute ns ≠ [] := List.cons_ne_nil slash (joinNames ns)
  rw [join_entryName hne hn, normalNames_absolute h]
  rfl

theorem resolve_absolute (directory : Path) : resolve directory (absolute ns) = absolute ns := by
  unfold resolve
  rw [resolveNames_of_isAbsolute directory rfl, normalNames_absolute h]

end EntryNames

theorem baseName_absolute {ns : List Name} {n : Name}
    (h : forall m, m ∈ ns ++ [n] -> IsEntryName m) : baseName (absolute (ns ++ [n])) = n := by
  have hpieces : pieces (absolute (ns ++ [n])) = [] :: (ns ++ [n]) := by
    show pieces ([] ++ slash :: joinNames (ns ++ [n])) = _
    rw [pieces_slash, pieces_joinNames (List.concat_ne_nil n ns) fun m hm => (h m hm).no_slash]
    rfl
  have hfilled : (ns ++ [n]).filter (fun m => !m.isEmpty) = ns ++ [n] := by
    rw [List.filter_eq_self]
    intro m hm
    rw [Bool.not_eq_true', List.isEmpty_eq_false_iff]
    exact (h m hm).ne_nil
  unfold baseName
  rw [hpieces, List.filter_cons_of_neg (by simp), hfilled, List.getLast?_concat, Option.getD_some]

end Path

namespace Config

/-!
# Directories

The directories of a search begin with the one that the start stands for.  Each of the others lies
around the one before, the last one is the top, and none comes twice.
-/

def around (directory : Path) : Path :=
  Path.absolute (names directory).dropLast

/-- Directories from the one that a path stands for up to the top, each but the first around the one
before. -/
structure Ascends (fs : FileSystem) (start : Path) (directories : List Path) : Prop where
  first : directories.head? = some (fs.resolve start)
  upward : directories.IsChain fun inner outer => outer = around inner ∧ outer ≠ inner
  last : directories.getLast? = some [slash]
  once : directories.Nodup

def directories (fs : FileSystem) (start : Path) : List Path :=
  (outward (Path.resolveNames fs.workingDirectory start)).map Path.absolute

theorem candidates_eq (fs : FileSystem) (start : Path) :
    candidates fs start = (directories fs start).flatMap candidatesIn := by
  unfold candidates directories
  rw [List.flatMap_map]

section Outward

variable {ns : List Name} (h : forall n, n ∈ ns -> IsEntryName n)
include h

theorem isChain_outward : ((outward ns).map Path.absolute).IsChain fun inner outer =>
    outer = around inner ∧ outer ≠ inner := by
  induction ns using List.reverseRecOn with
  | nil =>
      exact List.isChain_singleton _
  | append_singleton before n ih =>
      have hbefore : forall m, m ∈ before -> IsEntryName m :=
        fun m hm => h m (List.mem_append_left [n] hm)
      have hrest := ih hbefore
      rcases exists_outward_eq before with ⟨rest, hrow⟩
      rw [outward_concat, hrow]
      rw [hrow] at hrest
      refine List.IsChain.cons_cons ⟨?_, ?_⟩ hrest
      · unfold around
        rw [names_absolute h, List.dropLast_concat]
      · intro heq
        have hnames := congrArg names heq
        rw [names_absolute hbefore, names_absolute h] at hnames
        simp at hnames

theorem getLast?_outward : ((outward ns).map Path.absolute).getLast? = some [slash] := by
  induction ns using List.reverseRecOn with
  | nil =>
      rfl
  | append_singleton before n ih =>
      have hrest := ih fun m hm => h m (List.mem_append_left [n] hm)
      rcases exists_outward_eq before with ⟨rest, hrow⟩
      rw [outward_concat, hrow]
      rw [hrow] at hrest
      exact hrest

theorem nodup_outward : ((outward ns).map Path.absolute).Nodup := by
  induction ns using List.reverseRecOn with
  | nil =>
      exact List.nodup_singleton _
  | append_singleton before n ih =>
      have hbefore : forall m, m ∈ before -> IsEntryName m :=
        fun m hm => h m (List.mem_append_left [n] hm)
      rw [outward_concat, List.map_cons, List.nodup_cons]
      refine ⟨?_, ih hbefore⟩
      intro hmem
      rcases List.mem_map.mp hmem with ⟨ms, hms, heq⟩
      -- a directory further up has fewer names
      have hpre := prefix_of_mem_outward hms
      have hnames := congrArg names heq
      rw [names_absolute h, names_absolute fun m hm => hbefore m (hpre.subset hm)] at hnames
      have hlength := hpre.length_le
      rw [hnames, List.length_append, List.length_singleton] at hlength
      omega

end Outward

theorem ascends_directories (fs : FileSystem) (start : Path) :
    Ascends fs start (directories fs start) := by
  have hentry : forall n, n ∈ Path.resolveNames fs.workingDirectory start -> IsEntryName n :=
    fun n hn => isEntryName_of_mem_resolveNames hn
  constructor
  · rcases exists_outward_eq (Path.resolveNames fs.workingDirectory start) with ⟨rest, hrow⟩
    unfold directories
    rw [hrow]
    rfl
  · exact isChain_outward hentry
  · exact getLast?_outward hentry
  · exact nodup_outward hentry

/-!
# Candidates

A candidate is spelled in full and has one of the names that are looked for.
-/

theorem isEntryName_of_mem_looked {n : Name} (hn : n ∈ dedicatedNames ++ manifestNames) :
    IsEntryName n := by
  revert n
  decide

structure IsCandidate (fs : FileSystem) (p : Path) : Prop where
  resolve_eq : fs.resolve p = p
  name : baseName p ∈ dedicatedNames ++ manifestNames

theorem isCandidate_of_mem {fs : FileSystem} {start p : Path} (h : p ∈ candidates fs start) :
    IsCandidate fs p := by
  unfold candidates at h
  rcases List.mem_flatMap.mp h with ⟨ns, hns, hmem⟩
  unfold candidatesIn at hmem
  rcases List.mem_map.mp hmem with ⟨n, hn, hp⟩
  have hname := isEntryName_of_mem_looked hn
  have hpre := prefix_of_mem_outward hns
  have hbefore : forall m, m ∈ ns -> IsEntryName m :=
    fun m hm => isEntryName_of_mem_resolveNames (hpre.subset hm)
  have hall : forall m, m ∈ ns ++ [n] -> IsEntryName m := by
    intro m hm
    rcases List.mem_append.mp hm with hfront | hlast
    · exact hbefore m hfront
    · rw [List.mem_singleton.mp hlast]
      exact hname
  rw [join_absolute hbefore hname] at hp
  rw [<- hp]
  constructor
  · exact resolve_absolute hall fs.workingDirectory
  · rw [baseName_absolute hall]
    exact hn

end Config
end CamelSpell
