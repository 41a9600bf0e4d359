import CamelSpell.Path
import Mathlib.Data.List.Basic

/-!
# Names in paths

A path is cut at its slashes.  The pieces that are neither empty nor a single point are its names,
and names that are put together again with slashes between them are read back as they were.
-/

namespace CamelSpell
namespace Path

/-!
# Cutting and joining

A path is cut at every slash, so two slashes in a row have an empty piece between them.
-/

theorem piecesOnto_eq (done : List Name) (piece : Name) (p : Path) :
    piecesOnto done piece p = done.reverse ++ p.splitOnPPrepend (fun c => c == slash) piece := by
  induction p generalizing done piece with
  | nil =>
      simp [piecesOnto]
  | cons c rest ih =>
      unfold piecesOnto
      by_cases hc : c = slash
      · rw [if_pos hc, ih, List.splitOnPPrepend_cons_pos (by simp [hc])]
        simp
      · rw [if_neg hc, ih, List.splitOnPPrepend_cons_neg (by simp [hc])]

theorem pieces_eq_splitOn (p : Path) : pieces p = p.splitOn slash := by
  unfold pieces
  rw [piecesOnto_eq, List.splitOn_eq_splitOnP]
  simp

theorem pieces_slash (p q : Path) : pieces (p ++ slash :: q) = pieces p ++ pieces q := by
  rw [pieces_eq_splitOn, pieces_eq_splitOn, pieces_eq_splitOn, List.splitOn_append_cons_self]

theorem pieces_of_not_mem {n : Path} (h : slash ∉ n) : pieces n = [n] := by
  rw [pieces_eq_splitOn, List.splitOn_eq_singleton h]

theorem not_mem_of_mem_pieces {p : Path} {n : Name} (h : n ∈ pieces p) : slash ∉ n := by
  induction p generalizing n with
  | nil =>
      have hn : n = [] := by
        simpa [pieces, piecesOnto] using h
      rw [hn]
      exact List.not_mem_nil
  | cons c rest ih =>
      rw [pieces_eq_splitOn, List.splitOn_cons_eq_if_modifyHead] at h
      cases hrest : rest.splitOn slash with
      | nil =>
          exact absurd hrest (List.splitOn_ne_nil _ _)
      | cons first others =>
          have hold : forall m, m ∈ first :: others -> slash ∉ m := by
            intro m hm
            apply ih
            rw [pieces_eq_splitOn, hrest]
            exact hm
          rw [hrest] at h
          by_cases hc : c = slash
          · rw [if_pos (by simp [hc])] at h
            rcases List.mem_cons.mp h with hnil | hmem
            · rw [hnil]
              exact List.not_mem_nil
            · exact hold n hmem
          · rw [if_neg (by simp [hc]), List.modifyHead_cons] at h
            rcases List.mem_cons.mp h with hhead | hmem
            · rw [hhead]
              intro hslash
              rcases List.mem_cons.mp hslash with heq | hfirst
              · exact hc heq.symm
              · exact hold first List.mem_cons_self hfirst
            · exact hold n (List.mem_cons_of_mem _ hmem)

theorem exists_last_piece (p : Path) :
    exists before n, pieces p = before ++ [n] ∧ slash ∉ n ∧
      (p = n ∨ exists q, p = q ++ slash :: n) := by
  induction p with
  | nil =>
      exact ⟨[], [], rfl, List.not_mem_nil, Or.inl rfl⟩
  | cons c rest ih =>
      rcases ih with ⟨before, n, hpieces, hn, hrest | ⟨q, hrest⟩⟩
      · by_cases hc : c = slash
        · refine ⟨[[]], n, ?_, hn, Or.inr ⟨[], ?_⟩⟩
          · rw [hrest, hc]
            exact (pieces_slash [] n).trans (congrArg _ (pieces_of_not_mem hn))
          · rw [hrest, hc, List.nil_append]
        · have hcons : slash ∉ c :: n := by
            intro hmem
            rcases List.mem_cons.mp hmem with heq | htail
            · exact hc heq.symm
            · exact hn htail
          rw [hrest]
          exact ⟨[], c :: n, pieces_of_not_mem hcons, hcons, Or.inl rfl⟩
      · refine ⟨pieces (c :: q), n, ?_, hn, Or.inr ⟨c :: q, ?_⟩⟩
        · rw [hrest, <- List.cons_append, pieces_slash, pieces_of_not_mem hn]
        · rw [hrest, List.cons_append]

/-!
# Names

A piece is a name unless it is empty or stays in place.  A slash in front or behind adds no name,
and names that are joined are the names of the path.
-/

structure IsName (n : Name) : Prop where
  ne_nil : n ≠ []
  no_slash : slash ∉ n
  ne_here : n ≠ here

structure IsEntryName (n : Name) : Prop extends IsName n where
  ne_above : n ≠ above

theorem isEntryName_iff {n : Name} :
    IsEntryName n <-> n ≠ [] ∧ slash ∉ n ∧ n ≠ here ∧ n ≠ above := by
  constructor
  · intro h
    exact ⟨h.ne_nil, h.no_slash, h.ne_here, h.ne_above⟩
  · intro ⟨hne, hslash, hhere, habove⟩
    exact ⟨⟨hne, hslash, hhere⟩, habove⟩

instance : DecidablePred IsEntryName := fun _ => decidable_of_iff _ isEntryName_iff.symm

theorem isName_above : IsName above := by
  constructor <;> decide

theorem mem_names {p : Path} {n : Name} : n ∈ names p <-> n ∈ pieces p ∧ n ≠ [] ∧ n ≠ here := by
  unfold names
  simp [List.mem_filter]

theorem isName_of_mem_names {p : Path} {n : Name} (h : n ∈ names p) : IsName n := by
  rcases mem_names.mp h with ⟨hpiece, hne, hhere⟩
  exact ⟨hne, not_mem_of_mem_pieces hpiece, hhere⟩

theorem names_slash (p q : Path) : names (p ++ slash :: q) = names p ++ names q := by
  unfold names
  rw [pieces_slash, List.filter_append]

theorem names_of_isName {n : Name} (h : IsName n) : names n = [n] := by
  unfold names
  rw [pieces_of_not_mem h.no_slash]
  simp [h.ne_nil, h.ne_here]

theorem names_nil : names [] = [] := rfl

theorem names_here : names here = [] := by
  decide

theorem names_cons_slash (p : Path) : names (slash :: p) = names p := by
  have h := names_slash [] p
  rwa [names_nil, List.nil_append, List.nil_append] at h

theorem names_append_slash (p : Path) : names (p ++ [slash]) = names p := by
  rw [names_slash, names_nil, List.append_nil]

theorem joinNames_cons_cons (n m : Name) (rest : List Name) :
    joinNames (n :: m :: rest) = n ++ slash :: joinNames (m :: rest) :=
  rfl

theorem joinNames_append_singleton {ns : List Name} (h : ns ≠ []) (n : Name) :
    joinNames (ns ++ [n]) = joinNames ns ++ slash :: n := by
  induction ns with
  | nil =>
      exact absurd rfl h
  | cons m rest ih =>
      cases rest with
      | nil =>
          rfl
      | cons k others =>
          rw [List.cons_append, List.cons_append, joinNames_cons_cons, <- List.cons_append,
            ih (List.cons_ne_nil k others), joinNames_cons_cons, List.append_assoc,
            List.cons_append]

theorem names_joinNames {ns : List Name} (h : forall n, n ∈ ns -> IsName n) :
    names (joinNames ns) = ns := by
  induction ns with
  | nil =>
      rfl
  | cons n rest ih =>
      cases rest with
      | nil =>
          exact names_of_isName (h n List.mem_cons_self)
      | cons m others =>
          rw [joinNames_cons_cons, names_slash, names_of_isName (h n List.mem_cons_self),
            ih (fun k hk => h k (List.mem_cons_of_mem n hk)), List.singleton_append]

theorem joinNames_eq_nil {ns : List Name} (h : forall n, n ∈ ns -> IsName n)
    (hnil : joinNames ns = []) : ns = [] := by
  rw [<- names_joinNames h, hnil, names_nil]

theorem joinNames_head {n : Name} {rest : List Name} (h : IsName n) :
    exists c others, joinNames (n :: rest) = c :: others ∧ c ≠ slash := by
  cases n with
  | nil =>
      exact absurd rfl h.ne_nil
  | cons c tail =>
      have hc : c ≠ slash := by
        intro hslash
        exact h.no_slash (hslash ▸ List.mem_cons_self)
      cases rest with
      | nil =>
          exact ⟨c, tail, rfl, hc⟩
      | cons m others =>
          exact ⟨c, tail ++ slash :: joinNames (m :: others), rfl, hc⟩

theorem endsWithSlash_append (p : Path) {n : Name} (h : IsName n) :
    endsWithSlash (p ++ n) = false := by
  unfold endsWithSlash
  rw [List.getLast?_append_of_ne_nil p h.ne_nil]
  cases hlast : n.getLast? with
  | none =>
      rfl
  | some c =>
      have hc : c ≠ slash := by
        intro hslash
        rw [hslash] at hlast
        exact h.no_slash (List.mem_of_getLast? hlast)
      simp [hc]

theorem joinNames_endsWithSlash {ns : List Name} (h : forall n, n ∈ ns -> IsName n) :
    endsWithSlash (joinNames ns) = false := by
  cases hsplit : ns.reverse with
  | nil =>
      rw [List.reverse_eq_nil_iff.mp hsplit]
      rfl
  | cons n before =>
      have hns : ns = before.reverse ++ [n] := by
        rw [<- List.reverse_cons, <- hsplit, List.reverse_reverse]
      have hn : IsName n := h n (by rw [hns]; simp)
      rw [hns]
      by_cases hbefore : before.reverse = []
      · rw [hbefore, List.nil_append]
        exact endsWithSlash_append [] hn
      · rw [joinNames_append_singleton hbefore]
        have happend := endsWithSlash_append (joinNames before.reverse ++ [slash]) hn
        rwa [List.append_assoc] at happend

/-!
# Pieces put together again

Pieces with slashes between them make up the path again.
-/

theorem joinNames_eq_intercalate (ns : List Name) : joinNames ns = [slash].intercalate ns := by
  induction ns with
  | nil =>
      rfl
  | cons n rest ih =>
      cases rest with
      | nil =>
          exact (List.intercalate_singleton).symm
      | cons m others =>
          rw [joinNames_cons_cons, ih, List.intercalate_cons_cons, List.append_assoc,
            List.singleton_append]

theorem joinNames_pieces (p : Path) : joinNames (pieces p) = p := by
  rw [joinNames_eq_intercalate, pieces_eq_splitOn, List.intercalate_splitOn]

theorem pieces_joinNames {ns : List Name} (hne : ns ≠ []) (h : forall n, n ∈ ns -> slash ∉ n) :
    pieces (joinNames ns) = ns := by
  rw [joinNames_eq_intercalate, pieces_eq_splitOn, List.splitOn_intercalate slash h hne]

theorem subset_joinNames {ns : List Name} {n : Name} (hn : n ∈ ns) : n ⊆ joinNames ns := by
  induction ns with
  | nil =>
      cases hn
  | cons m rest ih =>
      intro c hc
      cases rest with
      | nil =>
          rw [List.mem_singleton.mp hn] at hc
          exact hc
      | cons k others =>
          rw [joinNames_cons_cons]
          rcases List.mem_cons.mp hn with heq | hrest
          · rw [heq] at hc
            exact List.mem_append_left _ hc
          · exact List.mem_append_right m (List.mem_cons_of_mem slash (ih hrest hc))

theorem mem_joinNames {ns : List Name} {c : Char} (h : c ∈ joinNames ns) :
    c = slash ∨ exists n, n ∈ ns ∧ c ∈ n := by
  induction ns with
  | nil =>
      cases h
  | cons m rest ih =>
      cases rest with
      | nil =>
          exact Or.inr ⟨m, List.mem_singleton.mpr rfl, h⟩
      | cons k others =>
          rw [joinNames_cons_cons] at h
          rcases List.mem_append.mp h with hfirst | hrest
          · exact Or.inr ⟨m, List.mem_cons_self, hfirst⟩
          · rcases List.mem_cons.mp hrest with hslash | hin
            · exact Or.inl hslash
            · rcases ih hin with hslash | ⟨n, hn, hc⟩
              · exact Or.inl hslash
              · exact Or.inr ⟨n, List.mem_cons_of_mem m hn, hc⟩

theorem subset_of_mem_names {p : Path} {n : Name} (hn : n ∈ names p) : n ⊆ p := by
  intro c hc
  have hjoined := subset_joinNames (mem_names.mp hn).1 hc
  rwa [joinNames_pieces] at hjoined

end Path
end CamelSpell
