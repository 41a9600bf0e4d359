import CamelSpell.Proofs.Discovery.FoundPath

/-!
# Exclusion containment

Below a root everything is asked for in normal form, and so are the directories on the way to it,
but the root itself is asked for as it was given.  A file that is found is therefore clear of
exclusions unless a root above it is excluded in normal form and not as given.
-/

namespace CamelSpell

open CamelSpell.Path

namespace Discovery

/-- Neither the normal form of a path nor a directory on its way is excluded. -/
structure IsClear (d : Discovery) (f : Path) : Prop where
  itself : d.excludes (Path.normalize f) = false
  around : forall ns, ns <+: names (Path.normalize f) -> ns ≠ [] -> ns ≠ names (Path.normalize f) ->
    d.excludes (joinNames ns) = false

/-- A relative path that does not climb above the working directory. -/
structure StaysInside (root : Path) : Prop where
  relative : Path.isAbsolute root = false
  no_above : above ∉ names (Path.normalize root)

/-!
# Files of one root

The directories on the way to a root are asked for in normal form, and so is everything below it;
only the root itself is asked for as it was given.
-/

theorem isClear_iff_prefixes {d : Discovery} {f : Path} (hf : IsFilePath f)
    (hrelative : Path.isAbsolute f = false) :
    IsClear d f <->
      forall ns, ns <+: normalNames f -> ns ≠ [] -> d.excludes (joinNames ns) = false := by
  have hnormal : Path.normalize f = joinNames (normalNames f) := by
    rw [hf.normalize_eq, hrelative]
    rfl
  constructor
  · intro hclear ns hpre hne
    by_cases hwhole : ns = normalNames f
    · rw [hwhole, <- hnormal]
      exact hclear.itself
    · rw [<- names_normalize] at hpre hwhole
      exact hclear.around ns hpre hne hwhole
  · intro hprefixes
    constructor
    · rw [hnormal]
      exact hprefixes _ (List.prefix_refl _) hf.names_ne_nil
    · intro ns hpre hne _
      rw [names_normalize] at hpre
      exact hprefixes ns hpre hne

theorem excludes_of_hasExcludedAncestor {d : Discovery} {root : Path} (hroot : StaysInside root)
    (h : d.hasExcludedAncestor root = false) {ns : List Name} (hpre : ns <+: normalNames root)
    (hne : ns ≠ []) (hproper : ns ≠ normalNames root) : d.excludes (joinNames ns) = false := by
  have hparts : (names (Path.normalize root)).filter (fun n => n != above) = normalNames root := by
    rw [List.filter_eq_self.mpr, names_normalize]
    intro n hn
    rw [bne_iff_ne]
    intro heq
    exact hroot.no_above (heq ▸ hn)
  unfold hasExcludedAncestor at h
  simp only [hroot.relative, hparts, Bool.false_eq_true, if_false, List.any_eq_false,
    List.mem_range, Bool.not_eq_true] at h
  have hshorter : ns.length < (normalNames root).length := by
    apply Nat.lt_of_le_of_ne hpre.length_le
    intro hlength
    exact hproper (hpre.eq_of_length hlength)
  have hpos : 0 < ns.length := List.length_pos_iff.mpr hne
  have hat := h (ns.length - 1) (by omega)
  rw [Nat.sub_add_cancel hpos, <- List.prefix_iff_eq_take.mp hpre] at hat
  exact hat

/-- A found file is clear exactly if its root is not excluded in normal form. -/
theorem Finds.isClear_iff {d : Discovery} {root f : Path} (h : Finds d root f)
    (hfs : d.fileSystem.root.WellFormed) (hne : root ≠ []) (hroot : StaysInside root) :
    IsClear d f <->
      (normalNames root ≠ [] -> d.excludes (joinNames (normalNames root)) = false) := by
  have hancestors : forall ns, ns <+: normalNames root -> ns ≠ [] -> ns ≠ normalNames root ->
      d.excludes (joinNames ns) = false := by
    intro ns hpre hns hproper
    exact excludes_of_hasExcludedAncestor hroot h.kept.not_inside hpre hns hproper
  have hfile := h.isFilePath hfs hne
  rcases h.eq_root_or_liesBelow hfs hne with ⟨_, heq⟩ | ⟨more, hmore⟩
  · subst heq
    rw [isClear_iff_prefixes hfile hroot.relative]
    constructor
    · intro hprefixes hnames
      exact hprefixes _ (List.prefix_refl _) hnames
    · intro hitself ns hpre hns
      by_cases hwhole : ns = normalNames f
      · rw [hwhole]
        exact hitself hfile.names_ne_nil
      · exact hancestors ns hpre hns hwhole
  · have hrelative : Path.isAbsolute f = false := by
      rw [hmore.isAbsolute_eq, hroot.relative]
    rw [isClear_iff_prefixes hfile hrelative, hmore.normalNames_eq]
    constructor
    · intro hprefixes hnames
      exact hprefixes _ (List.prefix_append _ _) hnames
    · intro hitself ns hpre hns
      -- the directory lies on the way to the root, is the root, or lies below it
      rcases List.prefix_or_prefix_of_prefix hpre (List.prefix_append (normalNames root) more)
        with hbefore | hbehind
      · by_cases hwhole : ns = normalNames root
        · rw [hwhole]
          exact hitself (hwhole ▸ hns)
        · exact hancestors ns hbefore hns hwhole
      · rcases hbehind with ⟨down, hdown⟩
        subst hdown
        by_cases hempty : down = []
        · rw [hempty, List.append_nil] at hns ⊢
          exact hitself hns
        · have hkept := hmore.kept down ((List.prefix_append_right_inj _).mp hpre) hempty
          rw [hroot.relative] at hkept
          exact hkept

theorem Finds.names_of_root {d : Discovery} {root f : Path} (h : Finds d root f)
    (hfs : d.fileSystem.root.WellFormed) (hne : root ≠ []) :
    normalNames root <+: normalNames f := by
  rcases h.eq_root_or_liesBelow hfs hne with ⟨_, heq⟩ | ⟨more, hmore⟩
  · subst heq
    exact List.prefix_refl _
  · rw [hmore.normalNames_eq]
    exact List.prefix_append _ _

/-!
# Files of a run

Whether a file of a run is clear depends on the roots above it, whichever of them it was found
from.
-/

/-- A file of a run is clear exactly if no root above it that was looked at is excluded in normal
form; roots that are given in normal form find clear files only. -/
theorem run_isClear_iff {d : Discovery} {roots files : List Path}
    (hfs : d.fileSystem.root.WellFormed) (hroots : forall root, root ∈ roots -> StaysInside root)
    (hrun : (d.run roots).result = .ok files) :
    (forall f, f ∈ files ->
      (IsClear d f <->
        forall root, root ∈ roots -> d.excludes root = false ->
          names (Path.normalize root) ≠ [] ->
          names (Path.normalize root) <+: names (Path.normalize f) ->
            d.excludes (joinNames (names (Path.normalize root))) = false)) ∧
      ((forall root, root ∈ roots -> names (Path.normalize root) ≠ [] ->
          root = joinNames (names (Path.normalize root))) ->
        forall f, f ∈ files -> IsClear d f) := by
  simp only [names_normalize]
  constructor
  · intro f hf
    rcases exists_root_of_run hrun hf with ⟨root, hroot, hne, hfinds⟩
    have hinside := hroots root hroot
    have hfile := hfinds.isFilePath hfs hne
    have hrelative : Path.isAbsolute f = false := by
      have hanchor := congrArg Prod.fst (hfinds.anchor_eq hfs hne)
      exact hanchor.trans hinside.relative
    constructor
    · intro hclear other _ _ hnames hpre
      exact (isClear_iff_prefixes hfile hrelative).mp hclear _ hpre hnames
    · intro hothers
      rw [hfinds.isClear_iff hfs hne hinside]
      intro hnames
      exact hothers root hroot hfinds.kept.not_excluded hnames (hfinds.names_of_root hfs hne)
  · intro hspelled f hf
    rcases exists_root_of_run hrun hf with ⟨root, hroot, hne, hfinds⟩
    rw [hfinds.isClear_iff hfs hne (hroots root hroot)]
    intro hnames
    rw [<- hspelled root hroot hnames]
    exact hfinds.kept.not_excluded

def excludesOnly (rule : Path) : Exclusion := fun p =>
  p == rule || Path.baseName p == rule

def generatedSources : Discovery where
  fileSystem :=
    { root := Tree.empty.put (.file []) ["src".toList, "gen".toList, "x.ts".toList]
      workingNames := [] }
  excludes := excludesOnly "src/gen".toList
  scope := none

theorem run_isClear_iff_respelled :
    (generatedSources.run ["./src/gen".toList]).result = .ok ["src/gen/x.ts".toList] ∧
      ¬ IsClear generatedSources "src/gen/x.ts".toList := by
  have hkept : IsKept generatedSources "./src/gen".toList := by
    constructor <;> decide
  have hvisit : (generatedSources.visitRoot "./src/gen".toList).result =
      .ok ⟨["src/gen/x.ts".toList], [], ["./src/gen".toList]⟩ := by
    rw [visitRoot_of_directory (by decide) (by cbv) hkept]
    cbv
  have hrun : (generatedSources.run ["./src/gen".toList]).result =
      .ok ["src/gen/x.ts".toList] := by
    have hresults :
        ["./src/gen".toList].map (fun root => (generatedSources.visitRoot root).result) =
          [⟨["src/gen/x.ts".toList], [], ["./src/gen".toList]⟩].map Except.ok := by
      rw [List.map_singleton, hvisit, List.map_singleton]
    rw [run_of_results (List.cons_ne_nil _ _) hresults]
    cbv
  have hfs : generatedSources.fileSystem.root.WellFormed :=
    Tree.wellFormed_empty.put (Tree.WellFormed.file []) (by decide)
  have hroots : forall root, root ∈ ["./src/gen".toList] -> StaysInside root := by
    intro root hroot
    rw [List.mem_singleton.mp hroot]
    constructor <;> decide
  have hclear := (run_isClear_iff hfs hroots hrun).1 _ (List.mem_singleton.mpr rfl)
  refine ⟨hrun, ?_⟩
  rw [hclear]
  intro hothers
  have hgen := hothers "./src/gen".toList (List.mem_singleton.mpr rfl) (by decide) (by decide)
    (by decide)
  revert hgen
  decide

end Discovery
end CamelSpell
