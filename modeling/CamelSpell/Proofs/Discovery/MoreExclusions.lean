import CamelSpell.Proofs.Discovery.Walk
import CamelSpell.Proofs.ExclusionRules

/-!
# More exclusions

With more excluded, a discovery succeeds wherever it did before and finds nothing that it did not
find.  A directory that is left out now hides the directories that were left out below it; they
stay covered, since it is itself on the way to each of them.
-/

namespace CamelSpell

open CamelSpell.Path Log

namespace Visit

/-!
# Narrower visits

A visit is narrower than another one if it brings no further file and covers what the other one
leaves out.  To leave out a directory as a whole is narrower than to look into it.
-/

/-- A visit that brings no file that another does not bring, and covers what the other leaves out.
-/
structure Narrows (w v : Visit) : Prop where
  files : w.files ⊆ v.files
  excluded : forall directory, directory ∈ v.excluded ->
    exists outer, outer ∈ w.excluded ∧ outer <+: directory

theorem Narrows.refl (v : Visit) : v.Narrows v where
  files := List.Subset.refl v.files
  excluded directory h := ⟨directory, h, List.prefix_refl directory⟩

theorem Narrows.append {a b c d : Visit} (hac : a.Narrows c) (hbd : b.Narrows d) :
    (a.append b).Narrows (c.append d) := by
  constructor
  · intro f hf
    rcases List.mem_append.mp hf with ha | hb
    · exact List.mem_append_left d.files (hac.files ha)
    · exact List.mem_append_right c.files (hbd.files hb)
  · intro directory hmem
    rcases List.mem_append.mp hmem with hc | hd
    · rcases hac.excluded directory hc with ⟨outer, houter, hpre⟩
      exact ⟨outer, List.mem_append_left b.excluded houter, hpre⟩
    · rcases hbd.excluded directory hd with ⟨outer, houter, hpre⟩
      exact ⟨outer, List.mem_append_right a.excluded houter, hpre⟩

def Narrowed (x' x : Logged Failure Visit) : Prop :=
  forall v, x.result = .ok v -> exists w, x'.result = .ok w ∧ w.Narrows v

theorem narrowed_of_result_eq {x' x : Logged Failure Visit} (h : x'.result = x.result) :
    Narrowed x' x := by
  intro v hv
  exact ⟨v, h.trans hv, Narrows.refl v⟩

theorem narrowed_sequence {ι : Type} {items : List ι} {f' f : ι -> Logged Failure Visit}
    (h : forall i, i ∈ items -> Narrowed (f' i) (f i)) :
    Narrowed (sequence (items.map f')) (sequence (items.map f)) := by
  induction items with
  | nil =>
      exact narrowed_of_result_eq rfl
  | cons i rest ih =>
      have hrest := ih fun j hj => h j (List.mem_cons_of_mem i hj)
      intro v hv
      rw [List.map_cons, sequence_cons_result] at hv
      cases hfirst : (f i).result with
      | error e =>
          rw [hfirst] at hv
          cases hv
      | ok first =>
          cases hothers : (sequence (rest.map f)).result with
          | error e =>
              rw [hfirst, hothers] at hv
              cases hv
          | ok others =>
              rw [hfirst, hothers] at hv
              cases hv
              rcases h i List.mem_cons_self first hfirst with ⟨first', hfirst', hnarrow⟩
              rcases hrest others hothers with ⟨others', hothers', hnarrows⟩
              refine ⟨first'.append others', ?_, hnarrow.append hnarrows⟩
              rw [List.map_cons, sequence_cons_result, hfirst', hothers']
              rfl

def LeavesOutBelow (v : Visit) (top : List Name) : Prop :=
  forall directory, directory ∈ v.excluded -> top <+: directory

end Visit

namespace Discovery

open Visit

theorem narrowed_visitListed {p : Path} {visits' visits : List (Name × Logged Failure Visit)}
    (h : Narrowed (Visit.sequence (inOrder visits')) (Visit.sequence (inOrder visits))) :
    Narrowed (visitListed p visits') (visitListed p visits) := by
  intro v hv
  rcases sequence_of_visitListed hv with ⟨whole, hwhole, heq⟩
  rcases h whole hwhole with ⟨whole', hwhole', hnarrow⟩
  refine ⟨{ whole' with listed := p :: whole'.listed }, ?_, ?_⟩
  · unfold visitListed
    rw [Logged.result_bind, hwhole']
    rfl
  · rw [heq]
    exact ⟨hnarrow.files, hnarrow.excluded⟩

theorem isInside_of_covered {outer directory ns : List Name} (hpre : outer <+: directory)
    (hinside : isInside directory ns = true) : isInside outer ns = true := by
  unfold isInside at hinside ⊢
  rw [Bool.and_eq_true, List.isPrefixOf_iff_prefix, decide_eq_true_eq] at hinside ⊢
  exact ⟨hpre.trans hinside.1, Nat.lt_of_le_of_lt hpre.length_le hinside.2⟩

section LeavesOut

variable {d : Discovery} {p : Path}

theorem leavesOutBelow_walk {t : Tree} (ht : t.WellFormed) (hp : p ≠ []) {v : Visit}
    (h : (walk d p t).result = .ok v) :
    v.LeavesOutBelow (Path.resolveNames d.fileSystem.workingDirectory p) := by
  intro directory hmem
  rcases excludes_of_mem_excluded ht h hmem with ⟨ns, _, hns, _, hdirectory⟩
  rw [hdirectory, resolveNames_below _ hp hns]
  exact List.prefix_append _ _

theorem leavesOutBelow_walkFrom (hfs : d.fileSystem.root.WellFormed) (hp : p ≠ []) {v : Visit}
    (h : (d.walkFrom p).result = .ok v) :
    v.LeavesOutBelow (Path.resolveNames d.fileSystem.workingDirectory p) := by
  rcases walkFrom_ok_iff.mp h with ⟨t, hlocate, hwalk⟩
  exact leavesOutBelow_walk (FileSystem.wellFormed_of_locate hfs hlocate) hp hwalk

theorem leavesOutBelow_walkRoot (hfs : d.fileSystem.root.WellFormed) (hp : p ≠ []) {v : Visit}
    (h : (d.walkRoot p).result = .ok v) :
    v.LeavesOutBelow (Path.resolveNames d.fileSystem.workingDirectory p) := by
  rcases walkRoot_ok h with ⟨entries, hlist, hvisits⟩
  rcases visitListed_ok_iff.mp hvisits with ⟨brought, hbrought, hv⟩
  intro directory hmem
  rw [hv, mem_excluded_listing] at hmem
  rcases hmem with ⟨e, he, hin⟩
  have hname := (FileSystem.wellFormed_of_list hfs hlist).isEntry_of_mem he
  have hbelow : Path.resolveNames d.fileSystem.workingDirectory p <+:
      Path.resolveNames d.fileSystem.workingDirectory (Path.join p e.1) := by
    rw [resolveNames_join _ hp hname]
    exact List.prefix_append _ _
  rcases (mem_excluded_of_visitOf (hbrought e he)).mp hin with
    ⟨_, ⟨_, hdirectory⟩ | ⟨_, _, hwalk, hmem⟩⟩
  · rw [hdirectory]
    exact hbelow
  · exact hbelow.trans
      (leavesOutBelow_walkFrom hfs (join_ne_nil hp hname) hwalk directory hmem)

end LeavesOut

/-!
# Stricter discoveries

A stricter discovery looks at the same files and excludes at least as much.
-/

structure Stricter (s d : Discovery) : Prop where
  fileSystem : s.fileSystem = d.fileSystem
  excludes : forall p, d.excludes p = true -> s.excludes p = true

section Stricter

variable {s d : Discovery} (h : Stricter s d)
include h

theorem Stricter.excludes_eq_false {p : Path} (hp : s.excludes p = false) :
    d.excludes p = false := by
  rw [Bool.eq_false_iff] at hp ⊢
  exact fun hd => hp (h.excludes p hd)

theorem Stricter.isKept {root : Path} (hroot : IsKept s root) : IsKept d root := by
  refine ⟨h.excludes_eq_false hroot.not_excluded, ?_⟩
  have hinside := hroot.not_inside
  unfold hasExcludedAncestor at hinside ⊢
  split
  · rfl
  · rename_i hrelative
    rw [if_neg hrelative, List.any_eq_false] at hinside
    rw [List.any_eq_false]
    intro i hi
    rw [Bool.not_eq_true]
    exact h.excludes_eq_false (Bool.eq_false_iff.mpr (hinside i hi))

theorem Stricter.exclude_eq (p : Path) (kind : EntryKind) :
    (s.exclude p kind).result = (d.exclude p kind).result := by
  unfold exclude
  rw [Logged.result_bind, Logged.result_bind, h.fileSystem]
  rfl

theorem Stricter.narrowed_exclude {p : Path} {kind : EntryKind} {x : Logged Failure Visit}
    (hdirectory : kind = .directory -> forall v, x.result = .ok v ->
      v.LeavesOutBelow (Path.resolveNames d.fileSystem.workingDirectory p))
    (hother : kind ≠ .directory -> forall v, x.result = .ok v -> v.excluded = []) :
    Narrowed (s.exclude p kind) x := by
  intro v hv
  refine ⟨⟨[], if kind = .directory then
    [Path.resolveNames d.fileSystem.workingDirectory p] else [], []⟩, ?_, ?_⟩
  · rw [h.exclude_eq]
    unfold exclude
    rw [Logged.result_bind]
    rfl
  · constructor
    · exact List.nil_subset _
    · intro directory hmem
      by_cases hkind : kind = .directory
      · refine ⟨_, ?_, hdirectory hkind v hv directory hmem⟩
        rw [if_pos hkind]
        exact List.mem_singleton.mpr rfl
      · rw [hother hkind v hv] at hmem
        cases hmem

theorem Stricter.narrowed_visitOf {p : Path} {e : Name × Tree}
    {look' look : Name × Tree -> Logged Failure Visit} (hlook : Narrowed (look' e) (look e))
    (hbelow : forall v, (look e).result = .ok v ->
      v.LeavesOutBelow (Path.resolveNames d.fileSystem.workingDirectory (Path.join p e.1))) :
    Narrowed (visitOf s p look' e) (visitOf d p look e) := by
  unfold visitOf visitEntry
  cases hd : d.excludes (Path.join p e.1) with
  | true =>
      rw [h.excludes _ hd]
      exact narrowed_of_result_eq (h.exclude_eq _ _)
  | false =>
      cases hs : s.excludes (Path.join p e.1) with
      | true =>
          -- all that is left out below the entry is now covered by the entry itself
          apply h.narrowed_exclude
          · intro hkind
            rw [hkind]
            exact hbelow
          · intro hkind v hv
            cases hfile : e.2.kind with
            | directory =>
                exact absurd hfile hkind
            | file =>
                rw [hfile] at hv
                cases hv
                rfl
            | other =>
                rw [hfile] at hv
                cases hv
                rfl
      | false =>
          cases e.2.kind with
          | directory => exact hlook
          | file => exact narrowed_of_result_eq rfl
          | other => exact narrowed_of_result_eq rfl

/-!
# Walks and roots

A stricter discovery makes narrower visits, by induction over the tree.
-/

theorem Stricter.narrowed_listing {p : Path} {entries : List (Name × Tree)}
    {look' look : Name × Tree -> Logged Failure Visit}
    (hlook : forall e, e ∈ entries -> Narrowed (look' e) (look e))
    (hbelow : forall e, e ∈ entries -> forall v, (look e).result = .ok v ->
      v.LeavesOutBelow (Path.resolveNames d.fileSystem.workingDirectory (Path.join p e.1))) :
    Narrowed (visitListed p (visitsOf s p look' entries))
      (visitListed p (visitsOf d p look entries)) := by
  apply narrowed_visitListed
  rw [inOrder_visitsOf, inOrder_visitsOf]
  apply narrowed_sequence
  intro e he
  have hmem := mem_byName.mp he
  exact h.narrowed_visitOf (hlook e hmem) (hbelow e hmem)

theorem Stricter.narrowed_walk {p : Path} {t : Tree} (ht : t.WellFormed) (hp : p ≠ []) :
    Narrowed (walk s p t) (walk d p t) := by
  -- an entry is narrowed where it is walked, and what is left out below it lies below its path
  induction t using Tree.inductionOnEntries generalizing p with
  | leaf t hleaf =>
      intro v hv
      rcases Tree.exists_entries_of_kind (kind_of_walk hv) with ⟨entries, heq⟩
      exact absurd heq (hleaf entries)
  | directory entries ih =>
      have hname : forall e, e ∈ entries -> Path.join p e.1 ≠ [] :=
        fun e he => join_ne_nil hp (ht.isEntry_of_mem he)
      rw [walk, walk]
      split
      · exact narrowed_of_result_eq rfl
      · rw [walkEntries_eq_visitsOf, walkEntries_eq_visitsOf]
        apply h.narrowed_listing
        · intro e he
          exact ih e he (ht.of_mem he) (hname e he)
        · intro e he v hv
          exact leavesOutBelow_walk (ht.of_mem he) (hname e he) hv

theorem Stricter.narrowed_walkFrom {p : Path} (hfs : d.fileSystem.root.WellFormed) (hp : p ≠ []) :
    Narrowed (s.walkFrom p) (d.walkFrom p) := by
  unfold walkFrom
  rw [h.fileSystem]
  cases hlocate : d.fileSystem.locate .list p with
  | error e => exact narrowed_of_result_eq rfl
  | ok t => exact h.narrowed_walk (FileSystem.wellFormed_of_locate hfs hlocate) hp

theorem Stricter.narrowed_walkRoot {root : Path} (hfs : d.fileSystem.root.WellFormed)
    (hroot : root ≠ []) : Narrowed (s.walkRoot root) (d.walkRoot root) := by
  unfold walkRoot
  rw [h.fileSystem]
  cases hlist : d.fileSystem.list root with
  | error e =>
      exact narrowed_of_result_eq rfl
  | ok entries =>
      have hname : forall e, e ∈ entries -> Path.join root e.1 ≠ [] :=
        fun e he => join_ne_nil hroot ((FileSystem.wellFormed_of_list hfs hlist).isEntry_of_mem he)
      apply h.narrowed_listing
      · intro e he
        exact h.narrowed_walkFrom hfs (hname e he)
      · intro e he v hv
        exact leavesOutBelow_walkFrom hfs (hname e he) hv

theorem Stricter.narrowed_visitRoot {root : Path} (hfs : d.fileSystem.root.WellFormed) :
    Narrowed (s.visitRoot root) (d.visitRoot root) := by
  by_cases hroot : root = []
  · rw [hroot]
    exact narrowed_of_result_eq rfl
  unfold visitRoot
  rw [h.fileSystem]
  split
  · exact narrowed_of_result_eq rfl
  cases hkind : d.fileSystem.kind root with
  | error e =>
      exact narrowed_of_result_eq rfl
  | ok kind =>
      cases hs : s.excludes root || s.hasExcludedAncestor root with
      | false =>
          rw [Bool.or_eq_false_iff] at hs
          have hkept := h.isKept ⟨hs.1, hs.2⟩
          simp only [hkept.not_excluded, hkept.not_inside, Bool.or_false, Bool.false_eq_true,
            if_false]
          cases kind with
          | directory => exact h.narrowed_walkRoot hfs hroot
          | file => exact narrowed_of_result_eq rfl
          | other => exact narrowed_of_result_eq rfl
      | true =>
          simp only [if_true]
          -- the root may have been left out before, by its path or by a directory that it names
          split
          · exact narrowed_of_result_eq (h.exclude_eq _ _)
          · apply h.narrowed_exclude
            · intro hdirectory
              rw [hdirectory]
              exact fun v hv => leavesOutBelow_walkRoot hfs hroot hv
            · intro hother v hv
              cases kind with
              | directory =>
                  exact absurd rfl hother
              | file =>
                  cases hv
                  rfl
              | other =>
                  rw [Logged.result_bind] at hv
                  cases hv
                  rfl

/-!
# Runs

What one visit no longer leaves out by itself is covered by what it leaves out, so no file comes
back in the end.
-/

theorem Stricter.fileSet_subset {w v : Visit} (hnarrow : w.Narrows v) :
    s.fileSet w ⊆ d.fileSet v := by
  intro f hf
  rw [mem_fileSet] at hf ⊢
  refine ⟨hnarrow.files hf.1, ?_⟩
  intro directory hmem
  rcases hnarrow.excluded directory hmem with ⟨outer, houter, hpre⟩
  have houtside := hf.2 outer houter
  rw [h.fileSystem] at houtside
  rw [Bool.eq_false_iff] at houtside ⊢
  exact fun hinside => houtside (isInside_of_covered hpre hinside)

/-- A stricter discovery succeeds where the other does and finds some of its files. -/
theorem Stricter.run_subset (hfs : d.fileSystem.root.WellFormed) {roots files : List Path}
    (hrun : (d.run roots).result = .ok files) :
    exists fewer, (s.run roots).result = .ok fewer ∧ fewer ⊆ files := by
  rcases run_ok_iff.mp hrun with ⟨hne, v, hv, hfiles⟩
  have hroots : Narrowed (s.visitRoots roots) (d.visitRoots roots) :=
    narrowed_sequence fun _ _ => h.narrowed_visitRoot hfs
  rcases hroots v hv with ⟨w, hw, hnarrow⟩
  refine ⟨s.fileSet w, run_ok_iff.mpr ⟨hne, w, hw, rfl⟩, ?_⟩
  rw [hfiles]
  exact h.fileSet_subset hnarrow

end Stricter

/-!
# More rules

A longer list of rules makes a stricter discovery, however rules are written.
-/

def under {ε ρ : Type} (n : RuleNotation ε ρ) (fs : FileSystem) (scope : Option String)
    (rules : List String) : Discovery :=
  ⟨fs, n.excludes rules, scope⟩

/-- However rules are written and wherever they are put in: with more rules a discovery still
succeeds, with no further files; rules that cannot be read change nothing, and each is named with
its reason where it stands.  The rules of a run are globs. -/
theorem run_moreRules {ε ρ : Type} (n : RuleNotation ε ρ) {fs : FileSystem}
    (hfs : fs.root.WellFormed) (scope : Option String) (roots : List Path)
    {rules more combined : List String} (hcombined : combined.Perm (rules ++ more)) :
    (forall files, ((under n fs scope rules).run roots).result = .ok files ->
        exists fewer, ((under n fs scope combined).run roots).result = .ok fewer ∧
          fewer ⊆ files) ∧
      ((forall rule, rule ∈ more -> n.rejects rule = true) ->
        (under n fs scope combined).run roots = (under n fs scope rules).run roots) ∧
      ((n.rejected combined).map Prod.fst = combined.filter n.rejects ∧
        forall rule e, (rule, e) ∈ n.rejected combined -> n.read rule = .error e) ∧
      ((ExclusionRules.read combined).excludes = RuleNotation.glob.excludes combined ∧
        (ExclusionRules.read combined).rejected.map (fun r => (r.rule, r.error)) =
          RuleNotation.glob.rejected combined) := by
  have hmore : forall files, ((under n fs scope rules).run roots).result = .ok files ->
      exists fewer, ((under n fs scope combined).run roots).result = .ok fewer ∧
        fewer ⊆ files := by
    have hstricter : Stricter (under n fs scope combined) (under n fs scope rules) := by
      refine ⟨rfl, ?_⟩
      intro p hp
      exact (n.excludes_combined hcombined).mpr (Or.inl hp)
    intro files hrun
    exact hstricter.run_subset hfs hrun
  have hinert : (forall rule, rule ∈ more -> n.rejects rule = true) ->
      (under n fs scope combined).run roots = (under n fs scope rules).run roots := by
    intro hrejects
    unfold under
    rw [n.excludes_of_rejects hcombined hrejects]
  refine ⟨hmore, hinert, ⟨n.rejected_map_fst combined, ?_⟩,
    RuleNotation.read_excludes combined, RuleNotation.read_rejected combined⟩
  intro rule e hmem
  exact (n.mem_rejected.mp hmem).2

def literalRules : RuleNotation Glob.PatternError Path where
  read rule := if rule.toList.all Unicode.isBlank then .error .blank else .ok rule.toList
  accepts r p := r == p

def nestedSources : FileSystem where
  root := ((Tree.empty.put (.file []) ["a".toList, "b".toList, "y".toList]).put
    (.file []) ["a".toList, "x".toList]).put (.file []) ["z".toList]
  workingNames := []

theorem wellFormed_nestedSources : nestedSources.root.WellFormed := by
  have hfile := Tree.WellFormed.file []
  have hy : (Tree.empty.put (.file []) ["a".toList, "b".toList, "y".toList]).WellFormed :=
    Tree.wellFormed_empty.put hfile (by decide)
  have hx : ((Tree.empty.put (.file []) ["a".toList, "b".toList, "y".toList]).put
      (.file []) ["a".toList, "x".toList]).WellFormed :=
    hy.put hfile (by decide)
  exact hx.put hfile (by decide)

theorem run_moreRules_nested :
    ((under literalRules nestedSources none ["b"]).run [".".toList, "/a/b/y".toList]).result =
        .ok ["a/x".toList, "z".toList] ∧
      (exists fewer,
        ((under literalRules nestedSources none ["", "a", "b"]).run
          [".".toList, "/a/b/y".toList]).result = .ok fewer ∧
        fewer ⊆ ["a/x".toList, "z".toList]) ∧
      (literalRules.rejected ["", "a", "b"]).map Prod.fst = [""] ∧
      (under literalRules nestedSources none ["", "b"]).run [".".toList, "/a/b/y".toList] =
        (under literalRules nestedSources none ["b"]).run [".".toList, "/a/b/y".toList] := by
  have hcombined : ["", "a", "b"].Perm (["b"] ++ ["a", ""]) := by decide
  have hrun : ((under literalRules nestedSources none ["b"]).run
      [".".toList, "/a/b/y".toList]).result = .ok ["a/x".toList, "z".toList] := by
    cbv
  rcases run_moreRules literalRules wellFormed_nestedSources none [".".toList, "/a/b/y".toList]
    hcombined with ⟨hmore, _, ⟨hrejected, _⟩, _⟩
  have hblank : ["", "b"].Perm (["b"] ++ [""]) := by decide
  rcases run_moreRules literalRules wellFormed_nestedSources none [".".toList, "/a/b/y".toList]
    hblank with ⟨_, hinert, _, _⟩
  refine ⟨hrun, hmore _ hrun, ?_, hinert ?_⟩
  · rw [hrejected]
    cbv
  · intro rule hrule
    rw [List.mem_singleton.mp hrule]
    rfl

end Discovery
end CamelSpell
