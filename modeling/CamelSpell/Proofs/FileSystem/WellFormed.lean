import CamelSpell.FileSystem.Access
import CamelSpell.FileSystem.Snapshot
import CamelSpell.Proofs.Path.Name

/-!
# Well-formed file trees

The names in a directory differ, and none of them holds a slash or stands for the directory itself
or the one above.  Making a file keeps a tree well formed.
-/

namespace CamelSpell

open CamelSpell.Path

/-!
# Rows of names below a tree

Rows of names are followed without regard to links.  A tree is settled once the entries of its
directories are.
-/

namespace Tree

theorem at?_cons (t : Tree) (name : Name) (rest : List Name) :
    t.at? (name :: rest) = (t.child? name).bind fun c => c.at? rest :=
  rfl

theorem at?_append (t : Tree) (ns ms : List Name) :
    t.at? (ns ++ ms) = (t.at? ns).bind fun c => c.at? ms := by
  induction ns generalizing t with
  | nil =>
      rfl
  | cons n rest ih =>
      rw [List.cons_append, at?_cons, at?_cons]
      cases t.child? n with
      | none =>
          rfl
      | some c =>
          exact ih c

theorem at?_concat {t : Tree} {ns : List Name} {entries : List (Name × Tree)}
    (h : t.at? ns = some (directory entries)) (name : Name) :
    t.at? (ns ++ [name]) = entries.lookup name := by
  rw [at?_append, h]
  exact Option.bind_fun_some (entries.lookup name)

theorem mem_of_lookup {entries : List (Name × Tree)} {name : Name} {t : Tree}
    (h : entries.lookup name = some t) : (name, t) ∈ entries := by
  rcases List.lookup_eq_some_iff.mp h with ⟨before, after, hsplit, _⟩
  rw [hsplit]
  simp

theorem eq_directory_of_entries? {t : Tree} {entries : List (Name × Tree)}
    (h : t.entries? = some entries) : t = directory entries := by
  cases t with
  | directory entries' =>
      cases h
      rfl
  | file bytes => cases h
  | link target => cases h
  | device => cases h
  | damaged => cases h

theorem exists_entries_of_child? {t c : Tree} {name : Name} (h : t.child? name = some c) :
    exists entries, t = directory entries ∧ (name, c) ∈ entries := by
  unfold child? at h
  rcases Option.bind_eq_some_iff.mp h with ⟨entries, hentries, hlookup⟩
  exact ⟨entries, eq_directory_of_entries? hentries, mem_of_lookup hlookup⟩

@[elab_as_elim]
theorem inductionOnEntries {motive : Tree -> Prop}
    (leaf : forall t, (forall entries, t ≠ directory entries) -> motive t)
    (directory : forall entries : List (Name × Tree),
      (forall e, e ∈ entries -> motive e.2) -> motive (directory entries))
    (t : Tree) : motive t := by
  cases t with
  | directory entries =>
      apply directory
      intro e he
      exact inductionOnEntries leaf directory e.2
  | file bytes =>
      apply leaf
      intro entries h
      cases h
  | link target =>
      apply leaf
      intro entries h
      cases h
  | device =>
      apply leaf
      intro entries h
      cases h
  | damaged =>
      apply leaf
      intro entries h
      cases h
termination_by sizeOf t
decreasing_by
  have hentries := List.sizeOf_lt_of_mem he
  have hpair : sizeOf e.2 < sizeOf e := by
    rcases e with ⟨name, c⟩
    show sizeOf c < sizeOf (name, c)
    rw [Prod.mk.sizeOf_spec]
    omega
  rw [Tree.directory.sizeOf_spec]
  omega

/-!
# Well-formed trees

What is found in a well-formed tree is well formed, and has a name that an entry can have.
-/

/-- The names in every directory of the tree differ and are names that an entry can have. -/
inductive WellFormed : Tree -> Prop
  | file (bytes : List UInt8) : WellFormed (file bytes)
  | directory (entries : List (Name × Tree)) (distinct : (entries.map Prod.fst).Nodup)
      (isEntry : forall e, e ∈ entries -> IsEntryName e.1)
      (below : forall e, e ∈ entries -> WellFormed e.2) : WellFormed (directory entries)
  | link (target : Path) : WellFormed (link target)
  | device : WellFormed device
  | damaged : WellFormed damaged

theorem wellFormed_empty : WellFormed empty := by
  apply WellFormed.directory
  · exact List.nodup_nil
  · intro e he
    cases he
  · intro e he
    cases he

theorem WellFormed.isEntry_of_mem {entries : List (Name × Tree)}
    (h : WellFormed (Tree.directory entries)) {name : Name} {t : Tree}
    (hmem : (name, t) ∈ entries) : IsEntryName name := by
  cases h with
  | directory entries distinct isEntry below =>
      exact isEntry (name, t) hmem

theorem WellFormed.of_mem {entries : List (Name × Tree)} (h : WellFormed (Tree.directory entries))
    {name : Name} {t : Tree} (hmem : (name, t) ∈ entries) : WellFormed t := by
  cases h with
  | directory entries distinct isEntry below =>
      exact below (name, t) hmem

theorem WellFormed.of_at? {t c : Tree} (h : WellFormed t) {ns : List Name}
    (hc : t.at? ns = some c) : WellFormed c := by
  induction ns generalizing t with
  | nil =>
      cases hc
      exact h
  | cons n rest ih =>
      rw [at?_cons, Option.bind_eq_some_iff] at hc
      rcases hc with ⟨child, hchild, hrest⟩
      rcases exists_entries_of_child? hchild with ⟨entries, heq, hmem⟩
      subst heq
      exact ih (h.of_mem hmem) hrest

theorem WellFormed.isEntry_of_at? {t c : Tree} (h : WellFormed t) {ns : List Name}
    (hc : t.at? ns = some c) {n : Name} (hn : n ∈ ns) : IsEntryName n := by
  induction ns generalizing t with
  | nil =>
      cases hn
  | cons first rest ih =>
      rw [at?_cons, Option.bind_eq_some_iff] at hc
      rcases hc with ⟨child, hchild, hrest⟩
      rcases exists_entries_of_child? hchild with ⟨entries, heq, hmem⟩
      subst heq
      rcases List.mem_cons.mp hn with hfirst | hin
      · rw [hfirst]
        exact h.isEntry_of_mem hmem
      · exact ih (h.of_mem hmem) hrest hin

/-!
# Putting entries

What has been put somewhere is found there, and the tree stays well formed.
-/

theorem mem_setEntry {name : Name} {t : Tree} {entries : List (Name × Tree)} {e : Name × Tree}
    (h : e ∈ setEntry name t entries) : e = (name, t) ∨ e ∈ entries := by
  induction entries with
  | nil =>
      exact Or.inl (List.mem_singleton.mp h)
  | cons first rest ih =>
      unfold setEntry at h
      split at h
      · rename_i hname
        rcases List.mem_cons.mp h with heq | hrest
        · rw [hname] at heq
          exact Or.inl heq
        · exact Or.inr (List.mem_cons_of_mem first hrest)
      · rcases List.mem_cons.mp h with heq | hrest
        · rw [heq]
          exact Or.inr List.mem_cons_self
        · rcases ih hrest with heq | hmem
          · exact Or.inl heq
          · exact Or.inr (List.mem_cons_of_mem first hmem)

theorem lookup_setEntry (name : Name) (t : Tree) (entries : List (Name × Tree)) :
    (setEntry name t entries).lookup name = some t := by
  induction entries with
  | nil =>
      simp [setEntry]
  | cons e rest ih =>
      rcases e with ⟨n, old⟩
      unfold setEntry
      by_cases hn : n = name
      · rw [if_pos hn, hn, List.lookup_cons_self]
      · rw [if_neg hn, List.lookup_cons, beq_false_of_ne fun heq => hn heq.symm]
        exact ih

theorem lookup_setEntry_of_ne {name other : Name} (hne : other ≠ name) (new : Tree)
    (entries : List (Name × Tree)) :
    (setEntry name new entries).lookup other = entries.lookup other := by
  induction entries with
  | nil =>
      show List.lookup other [(name, new)] = none
      rw [List.lookup_cons, beq_false_of_ne hne]
      rfl
  | cons e rest ih =>
      rcases e with ⟨n, old⟩
      unfold setEntry
      by_cases hn : n = name
      · rw [if_pos hn, hn, List.lookup_cons, List.lookup_cons]
        cases hother : other == name with
        | true => exact absurd (eq_of_beq hother) hne
        | false => rfl
      · rw [if_neg hn, List.lookup_cons, List.lookup_cons]
        cases other == n with
        | true => rfl
        | false => exact ih

theorem nodup_setEntry {name : Name} {t : Tree} {entries : List (Name × Tree)}
    (h : (entries.map Prod.fst).Nodup) : ((setEntry name t entries).map Prod.fst).Nodup := by
  induction entries with
  | nil =>
      simp [setEntry]
  | cons first rest ih =>
      rw [List.map_cons, List.nodup_cons] at h
      unfold setEntry
      split
      · rw [List.map_cons, List.nodup_cons]
        exact h
      · rename_i hname
        rw [List.map_cons, List.nodup_cons]
        refine ⟨?_, ih h.2⟩
        intro hmem
        rcases List.mem_map.mp hmem with ⟨e, he, hfst⟩
        rcases mem_setEntry he with heq | hrest
        · rw [heq] at hfst
          exact hname hfst.symm
        · exact h.1 (List.mem_map.mpr ⟨e, hrest, hfst⟩)

theorem WellFormed.setEntry {name : Name} {t : Tree} {entries : List (Name × Tree)}
    (h : WellFormed (Tree.directory entries)) (hname : IsEntryName name) (ht : WellFormed t) :
    WellFormed (Tree.directory (setEntry name t entries)) := by
  cases h with
  | directory entries distinct isEntry below =>
      refine WellFormed.directory _ (nodup_setEntry distinct) ?_ ?_
      · intro e he
        rcases mem_setEntry he with heq | hmem
        · rw [heq]
          exact hname
        · exact isEntry e hmem
      · intro e he
        rcases mem_setEntry he with heq | hmem
        · rw [heq]
          exact ht
        · exact below e hmem

theorem at?_put (t new : Tree) (ns : List Name) : (t.put new ns).at? ns = some new := by
  induction ns generalizing t with
  | nil =>
      rfl
  | cons n rest ih =>
      rw [at?_cons]
      unfold child? put entries?
      rw [Option.bind_some, lookup_setEntry]
      exact ih _

theorem WellFormed.entries_getD {t : Tree} (h : WellFormed t) :
    WellFormed (Tree.directory (t.entries?.getD [])) := by
  cases h with
  | directory entries distinct isEntry below =>
      exact WellFormed.directory entries distinct isEntry below
  | file bytes => exact wellFormed_empty
  | link target => exact wellFormed_empty
  | device => exact wellFormed_empty
  | damaged => exact wellFormed_empty

theorem WellFormed.put {t new : Tree} (h : WellFormed t) (hnew : WellFormed new) {ns : List Name}
    (hns : forall n, n ∈ ns -> IsEntryName n) : WellFormed (t.put new ns) := by
  induction ns generalizing t with
  | nil =>
      exact hnew
  | cons n rest ih =>
      have hentries := h.entries_getD
      apply hentries.setEntry (hns n List.mem_cons_self)
      apply ih
      · cases hlookup : (t.entries?.getD []).lookup n with
        | none =>
            exact wellFormed_empty
        | some c =>
            exact hentries.of_mem (mem_of_lookup hlookup)
      · intro m hm
        exact hns m (List.mem_cons_of_mem n hm)

end Tree

/-!
# Snapshots
-/

theorem Snapshot.wellFormed_surroundings : surroundings.WellFormed := by
  apply Tree.WellFormed.put
  · exact Tree.wellFormed_empty.put Tree.WellFormed.device (by decide)
  · exact Tree.WellFormed.damaged
  · decide

theorem Snapshot.wellFormed_toFileSystem {s : Snapshot}
    (hhome : forall n, n ∈ s.home -> IsEntryName n)
    (hentries : forall e, e ∈ s.entries -> above ∉ names e.1 ∧ e.2.WellFormed) :
    s.toFileSystem.root.WellFormed := by
  have hfold : forall (entries : List (Path × Tree)) (t : Tree),
      (forall e, e ∈ entries -> e ∈ s.entries) -> t.WellFormed ->
        (entries.foldl (fun t e => t.put e.2 (s.home ++ names e.1)) t).WellFormed := by
    intro entries
    induction entries with
    | nil =>
        intro t _ ht
        exact ht
    | cons e rest ih =>
        intro t hin ht
        rcases hentries e (hin e List.mem_cons_self) with ⟨hbelow, htree⟩
        apply ih
        · intro m hm
          exact hin m (List.mem_cons_of_mem e hm)
        · apply ht.put htree
          intro n hn
          rcases List.mem_append.mp hn with hin | hname
          · exact hhome n hin
          · refine ⟨isName_of_mem_names hname, ?_⟩
            intro heq
            exact hbelow (heq ▸ hname)
  apply hfold s.entries _ (fun e he => he)
  exact wellFormed_surroundings.put Tree.wellFormed_empty hhome

end CamelSpell
