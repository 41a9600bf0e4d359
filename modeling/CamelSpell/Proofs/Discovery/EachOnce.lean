import CamelSpell.Proofs.Discovery.FoundPath

/-!
# Each file once

Files are told apart by their spelling, and files below one root or below roots that count from the
same level are spelled alike.  A file comes out twice if two roots lead to it from different levels,
or if a root that is a file is given in a spelling of its own and found in another one too.
-/

namespace CamelSpell

open CamelSpell.Path

namespace Discovery

theorem nodup_eraseDups (ps : List Path) : ps.eraseDups.Nodup := by
  induction hlength : ps.length using Nat.strongRecOn generalizing ps with
  | ind n ih =>
      cases ps with
      | nil =>
          exact List.nodup_nil
      | cons p rest =>
          rw [List.eraseDups_cons, List.nodup_cons]
          constructor
          · simp
          · refine ih _ ?_ _ rfl
            rw [<- hlength]
            exact Nat.lt_succ_of_le (List.length_filter_le _ rest)

theorem nodup_fileSet (d : Discovery) (v : Visit) : (d.fileSet v).Nodup := by
  unfold fileSet
  apply (List.mergeSort_perm _ _).nodup_iff.mpr
  exact (nodup_eraseDups v.files).filter _

/-!
# Doubled files

A found file is a root as it was given, or it is in normal form.  So one place comes out in two
spellings only if roots count from different levels, or if a root is not given in normal form.
-/

/-- Two roots lead to one place, counting from different levels. -/
def CrossesLevels (d : Discovery) (roots files : List Path) : Prop :=
  exists r s f g, r ∈ roots ∧ s ∈ roots ∧ anchor r ≠ anchor s ∧
    f ∈ files ∧ g ∈ files ∧ Finds d r f ∧ Finds d s g ∧
      d.fileSystem.resolve f = d.fileSystem.resolve g

/-- A root comes out as it was given, and in another spelling of the same normal form. -/
def RespellsRoot (roots files : List Path) : Prop :=
  exists r f, r ∈ roots ∧ r ∈ files ∧ f ∈ files ∧ f ≠ r ∧ Path.normalize f = Path.normalize r

section Run

variable {d : Discovery} {roots files : List Path}

theorem normalize_eq_of_resolve {f g : Path} (hf : IsFilePath f) (hg : IsFilePath g)
    (hanchor : anchor f = anchor g)
    (h : d.fileSystem.resolve f = d.fileSystem.resolve g) :
    Path.normalize f = Path.normalize g := by
  have habs : Path.isAbsolute f = Path.isAbsolute g := congrArg Prod.fst hanchor
  rw [hf.normalize_eq, hg.normalize_eq, habs, normalNames_eq_of_resolve hanchor h]

theorem normalize_of_mem_run (hfs : d.fileSystem.root.WellFormed)
    (hrun : (d.run roots).result = .ok files) {f : Path} (hf : f ∈ files) :
    (f ∈ roots ∧ d.fileSystem.kind f = .ok .file) ∨ Path.normalize f = f := by
  rcases exists_root_of_run hrun hf with ⟨root, hroot, hne, hfinds⟩
  rcases hfinds.eq_root_or_normalize hfs hne with ⟨hkind, heq⟩ | hnormal
  · rw [heq]
    exact Or.inl ⟨hroot, hkind⟩
  · exact Or.inr hnormal

theorem crossesLevels_or_respellsRoot (hfs : d.fileSystem.root.WellFormed)
    (hrun : (d.run roots).result = .ok files) {f g : Path} (hf : f ∈ files) (hg : g ∈ files)
    (hne : f ≠ g) (hplace : d.fileSystem.resolve f = d.fileSystem.resolve g) :
    CrossesLevels d roots files ∨ RespellsRoot roots files := by
  rcases exists_root_of_run hrun hf with ⟨r, hr, hrne, hrf⟩
  rcases exists_root_of_run hrun hg with ⟨s, hs, hsne, hsg⟩
  by_cases hlevel : anchor r = anchor s
  · have hanchor : anchor f = anchor g := by
      rw [hrf.anchor_eq hfs hrne, hsg.anchor_eq hfs hsne, hlevel]
    have hnormal := normalize_eq_of_resolve (hrf.isFilePath hfs hrne) (hsg.isFilePath hfs hsne)
      hanchor hplace
    -- if neither was a root as it was given, both would be their normal forms
    rcases normalize_of_mem_run hfs hrun hf with ⟨hroot, _⟩ | hfnormal
    · exact Or.inr ⟨f, g, hroot, hf, hg, hne.symm, hnormal.symm⟩
    · rcases normalize_of_mem_run hfs hrun hg with ⟨hroot, _⟩ | hgnormal
      · exact Or.inr ⟨g, f, hroot, hg, hf, hne, hnormal⟩
      · rw [hfnormal, hgnormal] at hnormal
        exact absurd hnormal hne
  · exact Or.inl ⟨r, s, f, g, hr, hs, hlevel, hf, hg, hrf, hsg, hplace⟩

theorem CrossesLevels.exists_doubled (hfs : d.fileSystem.root.WellFormed)
    (hrun : (d.run roots).result = .ok files) (h : CrossesLevels d roots files) :
    exists f g, f ∈ files ∧ g ∈ files ∧ f ≠ g ∧
      d.fileSystem.resolve f = d.fileSystem.resolve g := by
  rcases h with ⟨r, s, f, g, hr, hs, hlevel, hf, hg, hrf, hsg, hplace⟩
  refine ⟨f, g, hf, hg, ?_, hplace⟩
  intro heq
  subst heq
  apply hlevel
  rw [<- hrf.anchor_eq hfs (ne_nil_of_run hrun hr), hsg.anchor_eq hfs (ne_nil_of_run hrun hs)]

theorem RespellsRoot.exists_doubled (h : RespellsRoot roots files) :
    exists f g, f ∈ files ∧ g ∈ files ∧ f ≠ g ∧
      d.fileSystem.resolve f = d.fileSystem.resolve g := by
  rcases h with ⟨r, f, _, hr, hf, hne, hnormal⟩
  refine ⟨f, r, hf, hr, hne, ?_⟩
  unfold FileSystem.resolve
  rw [<- resolve_normalize, hnormal, resolve_normalize]

/-- No path comes out twice, and two paths of one place come out exactly if roots cross levels or a
root is respelled; neither happens if the roots count from one level and those that are files are
given in normal form. -/
theorem run_doubled_iff (hfs : d.fileSystem.root.WellFormed)
    (hrun : (d.run roots).result = .ok files) :
    files.Nodup ∧
      ((exists f g, f ∈ files ∧ g ∈ files ∧ f ≠ g ∧
          d.fileSystem.resolve f = d.fileSystem.resolve g) <->
        CrossesLevels d roots files ∨ RespellsRoot roots files) ∧
      ((forall r s, r ∈ roots -> s ∈ roots -> anchor r = anchor s) ->
        (forall r, r ∈ roots -> d.fileSystem.kind r = .ok .file -> Path.normalize r = r) ->
          forall f g, f ∈ files -> g ∈ files ->
            d.fileSystem.resolve f = d.fileSystem.resolve g -> f = g) := by
  refine ⟨?_, ?_, ?_⟩
  · rcases run_ok_iff.mp hrun with ⟨_, v, _, hfiles⟩
    rw [hfiles]
    exact nodup_fileSet d v
  · constructor
    · rintro ⟨f, g, hf, hg, hne, hplace⟩
      exact crossesLevels_or_respellsRoot hfs hrun hf hg hne hplace
    · rintro (hcrosses | hrespells)
      · exact hcrosses.exists_doubled hfs hrun
      · exact hrespells.exists_doubled
  · intro hlevels hnormal f g hf hg hplace
    have hfile : forall p, p ∈ files -> Path.normalize p = p := by
      intro p hp
      rcases normalize_of_mem_run hfs hrun hp with ⟨hroot, hkind⟩ | hp
      · exact hnormal p hroot hkind
      · exact hp
    by_contra hne
    rcases crossesLevels_or_respellsRoot hfs hrun hf hg hne hplace with hcrosses | hrespells
    · rcases hcrosses with ⟨r, s, _, _, hr, hs, hlevel, _⟩
      exact hlevel (hlevels r s hr hs)
    · rcases hrespells with ⟨r, p, _, hr, hp, hpr, hsame⟩
      rw [hfile p hp, hfile r hr] at hsame
      exact hpr hsame

end Run

def singleFile : Discovery where
  fileSystem :=
    { root := Tree.empty.put (.file []) ["a.txt".toList]
      workingNames := [] }
  excludes := fun _ => false
  scope := none

theorem run_doubled_iff_respelled :
    (singleFile.run [".".toList, "./a.txt".toList]).result =
        .ok ["./a.txt".toList, "a.txt".toList] ∧
      exists f g, f ∈ ["./a.txt".toList, "a.txt".toList] ∧
        g ∈ ["./a.txt".toList, "a.txt".toList] ∧ f ≠ g ∧
          singleFile.fileSystem.resolve f = singleFile.fileSystem.resolve g := by
  have hdirectory : (singleFile.visitRoot ".".toList).result =
      .ok ⟨["a.txt".toList], [], [".".toList]⟩ := by
    rw [visitRoot_of_directory (by decide) (by cbv) (by constructor <;> decide)]
    cbv
  have hfile : (singleFile.visitRoot "./a.txt".toList).result = .ok (.file "./a.txt".toList) := by
    rw [visitRoot_of_file (by decide) (by cbv) (by constructor <;> decide)]
    rfl
  have hrun : (singleFile.run [".".toList, "./a.txt".toList]).result =
      .ok ["./a.txt".toList, "a.txt".toList] := by
    have hresults : [".".toList, "./a.txt".toList].map
        (fun root => (singleFile.visitRoot root).result) =
          [⟨["a.txt".toList], [], [".".toList]⟩, .file "./a.txt".toList].map Except.ok := by
      rw [List.map_cons, List.map_singleton, hdirectory, hfile, List.map_cons, List.map_singleton]
    rw [run_of_results (List.cons_ne_nil _ _) hresults]
    cbv
  have hfs : singleFile.fileSystem.root.WellFormed :=
    Tree.wellFormed_empty.put (Tree.WellFormed.file []) (by decide)
  refine ⟨hrun, (run_doubled_iff hfs hrun).2.1.mpr (Or.inr ?_)⟩
  refine ⟨"./a.txt".toList, "a.txt".toList, ?_, ?_, ?_, ?_, ?_⟩ <;> decide

end Discovery
end CamelSpell
