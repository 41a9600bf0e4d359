import CamelSpell.Proofs.Discovery.Containment
import CamelSpell.Proofs.Discovery.EachOnce
import CamelSpell.Proofs.Discovery.Walk
import CamelSpell.Proofs.UnitOrder

/-!
# Roots as a set

The roots are visited one after another, and what one of them finds excluded counts for the files of
all.  What comes out is therefore a matter of which roots there are: the files that some root leads
to, without those inside of a directory that some root leaves out, whichever of the two comes first.
-/

namespace CamelSpell

open CamelSpell.Path Log

/-- A path leads to a place inside of the place that another one leads to. -/
def FileSystem.LiesInside (fs : FileSystem) (p directory : Path) : Prop :=
  exists more, more ≠ [] ∧
    Path.resolveNames fs.workingDirectory p =
      Path.resolveNames fs.workingDirectory directory ++ more

namespace Discovery

/-!
# Directories that are left out

A visit records the excluded directories that it meets by the places to which they lead.
-/

/-- The ways from a directory to the excluded directories below it. -/
inductive Omits (d : Discovery) : Path -> Tree -> Path -> Prop where
  | here {p : Path} {entries : List (Name × Tree)} {name : Name} {t : Tree}
      (mem : (name, t) ∈ entries) (excluded : d.excludes (Path.join p name) = true)
      (isDirectory : t.kind = .directory) : Omits d p (.directory entries) (Path.join p name)
  | deeper {p : Path} {entries : List (Name × Tree)} {name : Name} {t : Tree} {q : Path}
      (mem : (name, t) ∈ entries) (kept : d.excludes (Path.join p name) = false)
      (rest : Omits d (Path.join p name) t q) : Omits d p (.directory entries) q

theorem Omits.kind {d : Discovery} {p q : Path} {t : Tree} (h : Omits d p t q) :
    t.kind = .directory := by
  cases h with
  | here mem excluded isDirectory => rfl
  | deeper mem kept rest => rfl

/-- The ways from a root to the directories that its visit finds excluded: the root itself, or
excluded directories below a root that is not. -/
inductive LeavesOut (d : Discovery) : Path -> Path -> Prop where
  | root {root : Path} (isDirectory : d.fileSystem.kind root = .ok .directory)
      (excluded : ¬ IsKept d root) : LeavesOut d root root
  | entry {root : Path} {entries : List (Name × Tree)} {name : Name} {t : Tree}
      (kept : IsKept d root) (listed : d.fileSystem.list root = .ok entries)
      (mem : (name, t) ∈ entries) (excluded : d.excludes (Path.join root name) = true)
      (isDirectory : t.kind = .directory) : LeavesOut d root (Path.join root name)
  | deeper {root : Path} {entries : List (Name × Tree)} {name : Name} {t below : Tree} {q : Path}
      (kept : IsKept d root) (listed : d.fileSystem.list root = .ok entries)
      (mem : (name, t) ∈ entries) (entryKept : d.excludes (Path.join root name) = false)
      (isDirectory : t.kind = .directory)
      (located : d.fileSystem.locate .list (Path.join root name) = .ok below)
      (rest : Omits d (Path.join root name) below q) : LeavesOut d root q

section Excluded

variable {d : Discovery} {p q root : Path} {look : Name × Tree -> Logged Failure Visit}
  {e : Name × Tree} {entries : List (Name × Tree)} {v w : Visit} {ns : List Name}

theorem mem_excluded_listed (h : (visitListed p (visitsOf d p look entries)).result = .ok v) :
    ns ∈ v.excluded <-> exists e, e ∈ entries ∧ e.2.kind = .directory ∧
      ((d.excludes (Path.join p e.1) = true ∧
          ns = Path.resolveNames d.fileSystem.workingDirectory (Path.join p e.1)) ∨
        (d.excludes (Path.join p e.1) = false ∧
          exists w, (look e).result = .ok w ∧ ns ∈ w.excluded)) := by
  rcases visitListed_ok_iff.mp h with ⟨brought, hbrought, hv⟩
  rw [hv, mem_excluded_listing]
  apply exists_congr
  intro e
  apply and_congr_right
  intro he
  exact mem_excluded_of_visitOf (hbrought e he)

theorem mem_excluded_of_walk {t : Tree} (h : (walk d p t).result = .ok v) :
    ns ∈ v.excluded <-> exists q, Omits d p t q ∧
      ns = Path.resolveNames d.fileSystem.workingDirectory q := by
  induction t using Tree.inductionOnEntries generalizing p v with
  | leaf t hleaf =>
      rcases Tree.exists_entries_of_kind (kind_of_walk h) with ⟨entries, heq⟩
      exact absurd heq (hleaf entries)
  | directory entries ih =>
      rw [walk] at h
      split at h
      · cases h
      rw [walkEntries_eq_visitsOf] at h
      rw [mem_excluded_listed h]
      constructor
      · rintro ⟨e, he, hkind, ⟨hexcluded, hns⟩ | ⟨hkept, w, hw, hin⟩⟩
        · exact ⟨_, Omits.here he hexcluded hkind, hns⟩
        · rcases (ih e he hw).mp hin with ⟨q, hq, hns⟩
          exact ⟨q, Omits.deeper he hkept hq, hns⟩
      · rintro ⟨q, homits, hns⟩
        cases homits with
        | @here _ _ name t mem excluded isDirectory =>
            exact ⟨(name, t), mem, isDirectory, Or.inl ⟨excluded, hns⟩⟩
        | @deeper _ _ name t _ mem kept rest =>
            rcases exists_result_of_visitsOf h mem kept rest.kind with ⟨w, hw⟩
            exact ⟨(name, t), mem, rest.kind,
              Or.inr ⟨kept, w, hw, (ih (name, t) mem hw).mpr ⟨q, rest, hns⟩⟩⟩

theorem mem_excluded_of_walkRoot (hkept : IsKept d root)
    (h : (d.walkRoot root).result = .ok v) :
    ns ∈ v.excluded <-> exists q, LeavesOut d root q ∧
      ns = Path.resolveNames d.fileSystem.workingDirectory q := by
  rcases walkRoot_ok h with ⟨entries, hlist, hvisit⟩
  rw [mem_excluded_listed hvisit]
  constructor
  · rintro ⟨e, he, hkind, ⟨hexcluded, hns⟩ | ⟨hentry, w, hw, hin⟩⟩
    · exact ⟨_, LeavesOut.entry hkept hlist he hexcluded hkind, hns⟩
    · rcases walkFrom_ok_iff.mp hw with ⟨below, hlocate, hwalk⟩
      rcases (mem_excluded_of_walk hwalk).mp hin with ⟨q, hq, hns⟩
      exact ⟨q, LeavesOut.deeper hkept hlist he hentry hkind hlocate hq, hns⟩
  · rintro ⟨q, hleaves, hns⟩
    cases hleaves with
    | root isDirectory excluded =>
        exact absurd hkept excluded
    | @entry entries' name t kept listed mem excluded isDirectory =>
        cases hlist.symm.trans listed
        exact ⟨(name, t), mem, isDirectory, Or.inl ⟨excluded, hns⟩⟩
    | @deeper entries' name t below _ kept listed mem entryKept isDirectory located rest =>
        cases hlist.symm.trans listed
        rcases exists_result_of_visitsOf hvisit mem entryKept isDirectory with ⟨w, hw⟩
        rcases walkFrom_ok_iff.mp hw with ⟨below', hlocate, hwalk⟩
        cases located.symm.trans hlocate
        exact ⟨(name, t), mem, isDirectory,
          Or.inr ⟨entryKept, w, hw, (mem_excluded_of_walk hwalk).mpr ⟨q, rest, hns⟩⟩⟩

theorem LeavesOut.kind (h : LeavesOut d root q) : d.fileSystem.kind root = .ok .directory := by
  cases h with
  | root isDirectory excluded => exact isDirectory
  | entry kept listed mem excluded isDirectory => exact FileSystem.kind_of_list listed
  | deeper kept listed mem entryKept isDirectory located rest =>
      exact FileSystem.kind_of_list listed

theorem excluded_of_visitRoot {kind : EntryKind} (hkind : d.fileSystem.kind root = .ok kind)
    (hkept : ¬ IsKept d root) (h : (d.visitRoot root).result = .ok v) :
    v.excluded = if kind = .directory then
      [Path.resolveNames d.fileSystem.workingDirectory root] else [] := by
  cases hblank : root.all Unicode.isBlank with
  | true =>
      unfold visitRoot at h
      rw [hblank] at h
      cases h
  | false =>
      rw [visitRoot_of_excluded hblank hkind hkept] at h
      unfold exclude at h
      rw [Logged.result_bind] at h
      cases h
      rfl

theorem mem_excluded_of_visitRoot (h : (d.visitRoot root).result = .ok v) :
    ns ∈ v.excluded <-> exists q, LeavesOut d root q ∧
      ns = Path.resolveNames d.fileSystem.workingDirectory q := by
  rcases visitRoot_ok h with ⟨kind, hkind, ⟨hkept, _⟩ | ⟨hkept, hcase⟩⟩
  · have hv := excluded_of_visitRoot hkind hkept h
    rw [hv]
    constructor
    · intro hmem
      split at hmem
      · rename_i hdirectory
        rw [hdirectory] at hkind
        exact ⟨root, LeavesOut.root hkind hkept, List.mem_singleton.mp hmem⟩
      · cases hmem
    · rintro ⟨q, hleaves, hns⟩
      cases hkind.symm.trans hleaves.kind
      cases hleaves with
      | root isDirectory excluded => exact List.mem_singleton.mpr hns
      | entry kept listed mem excluded isDirectory => exact absurd kept hkept
      | deeper kept listed mem entryKept isDirectory located rest => exact absurd kept hkept
  · have hnone : kind ≠ .directory -> v.excluded = [] -> (ns ∈ v.excluded <->
        exists q, LeavesOut d root q ∧
          ns = Path.resolveNames d.fileSystem.workingDirectory q) := by
      intro hother hempty
      rw [hempty]
      constructor
      · intro hmem
        cases hmem
      · rintro ⟨q, hleaves, _⟩
        cases hkind.symm.trans hleaves.kind
        exact absurd rfl hother
    rcases hcase with ⟨hfile, hv⟩ | ⟨hdirectory, hwalk⟩ | ⟨hother, hv⟩
    · subst hfile hv
      exact hnone EntryKind.noConfusion rfl
    · exact mem_excluded_of_walkRoot hkept hwalk
    · subst hother hv
      exact hnone EntryKind.noConfusion rfl

end Excluded

/-!
# Files of a run

The files of a run are those that some root leads to and that lie inside of no directory that some
root leaves out.  A list of files is determined by what is in it.
-/

section Roots

variable {d : Discovery} {roots files : List Path} {v w : Visit}

theorem exists_visitRoots_iff :
    (exists v, (d.visitRoots roots).result = .ok v) <->
      forall root, root ∈ roots -> exists w, (d.visitRoot root).result = .ok w := by
  constructor
  · rintro ⟨v, hv⟩ root hroot
    exact exists_result_of_visitRoots hv hroot
  · intro h
    refine ⟨Visit.concat (roots.map fun root => Visit.ofResult (d.visitRoot root).result), ?_⟩
    refine Visit.sequence_ok_iff.mpr ⟨_, ?_, rfl⟩
    rw [List.map_map, List.map_map]
    apply List.map_congr_left
    intro root hroot
    exact Visit.eq_ofResult (h root hroot)

theorem mem_excluded_of_visitRoots (h : (d.visitRoots roots).result = .ok v) {ns : List Name} :
    ns ∈ v.excluded <-> exists root, root ∈ roots ∧ exists q, LeavesOut d root q ∧
      ns = Path.resolveNames d.fileSystem.workingDirectory q := by
  rcases Visit.sequence_ok_iff.mp h with ⟨visits, hvisits, hv⟩
  rw [hv]
  show ns ∈ visits.flatMap Visit.excluded <-> _
  rw [List.mem_flatMap]
  constructor
  · rintro ⟨w, hw, hns⟩
    rcases (Visit.mem_results_of_sequence hvisits).mp hw with ⟨x, hx, hresult⟩
    rcases List.mem_map.mp hx with ⟨root, hroot, heq⟩
    rw [<- heq] at hresult
    exact ⟨root, hroot, (mem_excluded_of_visitRoot hresult).mp hns⟩
  · rintro ⟨root, hroot, hleaves⟩
    rcases exists_result_of_visitRoots h hroot with ⟨w, hw⟩
    refine ⟨w, (Visit.mem_results_of_sequence hvisits).mpr ?_,
      (mem_excluded_of_visitRoot hw).mpr hleaves⟩
    exact ⟨d.visitRoot root, List.mem_map_of_mem hroot, hw⟩

theorem liesInside_iff {fs : FileSystem} {p q : Path} :
    fs.LiesInside p q <-> isInside (Path.resolveNames fs.workingDirectory q)
      (Path.resolveNames fs.workingDirectory p) = true := by
  unfold FileSystem.LiesInside isInside
  rw [Bool.and_eq_true, List.isPrefixOf_iff_prefix, decide_eq_true_eq]
  constructor
  · rintro ⟨more, hne, heq⟩
    rw [heq, List.length_append]
    exact ⟨List.prefix_append _ _, Nat.lt_add_of_pos_right (List.length_pos_iff.mpr hne)⟩
  · rintro ⟨⟨more, heq⟩, hlength⟩
    refine ⟨more, ?_, heq.symm⟩
    rintro rfl
    rw [<- heq, List.append_nil] at hlength
    exact Nat.lt_irrefl _ hlength

theorem mem_run_iff (h : (d.run roots).result = .ok files) {f : Path} :
    f ∈ files <-> (exists root, root ∈ roots ∧ Finds d root f) ∧
      forall root, root ∈ roots -> forall q, LeavesOut d root q ->
        ¬ d.fileSystem.LiesInside f q := by
  rcases run_ok_iff.mp h with ⟨_, v, hv, hfiles⟩
  rw [hfiles, mem_fileSet, mem_files_of_visitRoots hv]
  apply and_congr_right
  intro _
  constructor
  · intro houtside root hroot q hleaves hinside
    have hmem := (mem_excluded_of_visitRoots hv).mpr ⟨root, hroot, q, hleaves, rfl⟩
    rw [liesInside_iff, houtside _ hmem] at hinside
    cases hinside
  · intro houtside ns hns
    rcases (mem_excluded_of_visitRoots hv).mp hns with ⟨root, hroot, q, hleaves, heq⟩
    rw [heq, Bool.eq_false_iff]
    intro hinside
    exact houtside root hroot q hleaves (liesInside_iff.mpr hinside)

theorem fileSet_eq_of_mem_iff (h : forall f, f ∈ d.fileSet v <-> f ∈ d.fileSet w) :
    d.fileSet v = d.fileSet w := by
  have hsorted : forall v, (d.fileSet v).Pairwise fun a b =>
      List.Lex (· < ·) (Unicode.units a) (Unicode.units b) := fun v =>
    Unicode.pairwise_mergeSort_units ((nodup_eraseDups v.files).filter _)
  have hperm : (d.fileSet v).Perm (d.fileSet w) :=
    (List.perm_ext_iff_of_nodup (nodup_fileSet d v) (nodup_fileSet d w)).mpr h
  refine hperm.eq_of_pairwise ?_ (hsorted v) (hsorted w)
  intro a b _ _ hab hba
  have hself : List.Lex (· < ·) (Unicode.units a) (Unicode.units a) :=
    List.lex_trans Nat.lt_trans hab hba
  exact absurd hself (List.lex_irrefl Nat.lt_irrefl _)

/-- What comes out is a matter of which roots there are, neither of their order nor of how often
each of them is given. -/
theorem run_of_mem_iff {others : List Path} (h : forall root, root ∈ roots <-> root ∈ others)
    (hrun : (d.run roots).result = .ok files) : (d.run others).result = .ok files := by
  rcases run_ok_iff.mp hrun with ⟨hne, v, hv, hfiles⟩
  have hnone : others ≠ [] := by
    rintro rfl
    rcases List.exists_mem_of_ne_nil _ hne with ⟨root, hroot⟩
    exact List.not_mem_nil ((h root).mp hroot)
  have hvisited : exists w, (d.visitRoots others).result = .ok w := by
    rw [exists_visitRoots_iff]
    intro root hroot
    exact exists_visitRoots_iff.mp ⟨v, hv⟩ root ((h root).mpr hroot)
  rcases hvisited with ⟨w, hw⟩
  have hothers : (d.run others).result = .ok (d.fileSet w) := run_ok_iff.mpr ⟨hnone, w, hw, rfl⟩
  rw [hothers, hfiles]
  apply congrArg Except.ok
  apply fileSet_eq_of_mem_iff
  intro f
  rw [hfiles] at hrun
  rw [mem_run_iff hothers, mem_run_iff hrun]
  simp only [h]

/-- Lists of the same roots find the same files: those that some root leads to, without those that
lie inside of a directory that some root leaves out. -/
theorem run_rootSet {others : List Path} (h : forall root, root ∈ roots <-> root ∈ others) :
    (forall files, (d.run roots).result = .ok files <-> (d.run others).result = .ok files) ∧
      forall files, (d.run roots).result = .ok files ->
        forall f, f ∈ files <-> (exists root, root ∈ roots ∧ Finds d root f) ∧
          forall root, root ∈ roots -> forall q, LeavesOut d root q ->
            ¬ d.fileSystem.LiesInside f q := by
  constructor
  · intro files
    exact ⟨run_of_mem_iff h, run_of_mem_iff fun root => (h root).symm⟩
  · intro files hfiles f
    exact mem_run_iff hfiles

def vendoredSources : Discovery where
  fileSystem :=
    { root := (Tree.empty.put (.file []) ["lib".toList, "vendor".toList, "x.ts".toList]).put
        (.file []) ["lib".toList, "a.ts".toList]
      workingNames := [] }
  excludes := excludesOnly "vendor".toList
  scope := none

theorem run_rootSet_vendored :
    (vendoredSources.run ["/lib/vendor/x.ts".toList, "lib".toList]).result =
        .ok ["lib/a.ts".toList] ∧
      (vendoredSources.run ["lib".toList, "/lib/vendor/x.ts".toList, "lib".toList]).result =
        .ok ["lib/a.ts".toList] ∧
      forall f, f ∈ ["lib/a.ts".toList] <->
        (exists root, root ∈ ["/lib/vendor/x.ts".toList, "lib".toList] ∧
            Finds vendoredSources root f) ∧
          forall root, root ∈ ["/lib/vendor/x.ts".toList, "lib".toList] ->
            forall q, LeavesOut vendoredSources root q ->
              ¬ vendoredSources.fileSystem.LiesInside f q := by
  have hfile : IsKept vendoredSources "/lib/vendor/x.ts".toList := by
    constructor <;> decide
  have hkept : IsKept vendoredSources "lib".toList := by
    constructor <;> decide
  have hgiven : (vendoredSources.visitRoot "/lib/vendor/x.ts".toList).result =
      .ok (Visit.file "/lib/vendor/x.ts".toList) := by
    rw [visitRoot_of_file (by decide) (by cbv) hfile]
    rfl
  have hwalked : (vendoredSources.visitRoot "lib".toList).result =
      .ok ⟨["lib/a.ts".toList], [["lib".toList, "vendor".toList]], ["lib".toList]⟩ := by
    rw [visitRoot_of_directory (by decide) (by cbv) hkept]
    cbv
  have hrun : (vendoredSources.run ["/lib/vendor/x.ts".toList, "lib".toList]).result =
      .ok ["lib/a.ts".toList] := by
    have hresults : ["/lib/vendor/x.ts".toList, "lib".toList].map
          (fun root => (vendoredSources.visitRoot root).result) =
        [Visit.file "/lib/vendor/x.ts".toList,
          ⟨["lib/a.ts".toList], [["lib".toList, "vendor".toList]], ["lib".toList]⟩].map
            Except.ok := by
      rw [List.map_cons, List.map_singleton, hgiven, hwalked, List.map_cons, List.map_singleton]
    rw [run_of_results (List.cons_ne_nil _ _) hresults]
    cbv
  have hsame : forall root, root ∈ ["/lib/vendor/x.ts".toList, "lib".toList] <->
      root ∈ ["lib".toList, "/lib/vendor/x.ts".toList, "lib".toList] := by
    intro root
    simp only [List.mem_cons, List.not_mem_nil, or_false]
    tauto
  have hset := run_rootSet (d := vendoredSources) hsame
  exact ⟨hrun, (hset.1 _).mp hrun, hset.2 _ hrun⟩

end Roots

end Discovery
end CamelSpell
