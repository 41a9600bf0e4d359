import CamelSpell.Proofs.Discovery.Visit
import CamelSpell.Proofs.Path.Normalize

/-!
# How found files are spelled

A file below a directory is spelled in normal form, whatever the spelling of the directory.  Only a
root that is itself a file keeps the spelling in which it was given.
-/

namespace CamelSpell

open CamelSpell.Path

namespace Discovery

/-!
# Files below a directory

The path of a file below a directory is spelled by the names of the directory and those on the
way, so it is in normal form and counts from the same level.
-/

/-- A file lies some names below a directory, and nothing on the way to it is excluded. -/
structure LiesBelow (d : Discovery) (p f : Path) (more : List Name) : Prop where
  ne_nil : more ≠ []
  isEntry : forall n, n ∈ more -> IsEntryName n
  spelled : f = spell (Path.isAbsolute p) (normalNames p ++ more)
  kept : forall ns, ns <+: more -> ns ≠ [] ->
    d.excludes (spell (Path.isAbsolute p) (normalNames p ++ ns)) = false

section LiesBelow

variable {d : Discovery} {p f : Path} {more : List Name}

theorem liesBelow_join (hp : p ≠ []) {n : Name} (hn : IsEntryName n)
    (hkept : d.excludes (Path.join p n) = false) : LiesBelow d p (Path.join p n) [n] := by
  have hjoin := join_entryName hp hn
  constructor
  · exact List.cons_ne_nil n []
  · intro m hm
    rw [List.mem_singleton.mp hm]
    exact hn
  · exact hjoin
  · intro ns hpre hne
    rcases List.prefix_cons_iff.mp hpre with hnil | ⟨rest, hns, hrest⟩
    · exact absurd hnil hne
    · rw [hns, List.prefix_nil.mp hrest, <- hjoin]
      exact hkept

theorem LiesBelow.of_join (hp : p ≠ []) {n : Name} (hn : IsEntryName n)
    (hkept : d.excludes (Path.join p n) = false) (h : LiesBelow d (Path.join p n) f more) :
    LiesBelow d p f (n :: more) := by
  have hspell : forall ns, spell (Path.isAbsolute (Path.join p n))
      (normalNames (Path.join p n) ++ ns) =
        spell (Path.isAbsolute p) (normalNames p ++ n :: ns) := by
    intro ns
    rw [isAbsolute_join hp hn, normalNames_join hp hn, List.append_assoc, List.singleton_append]
  constructor
  · exact List.cons_ne_nil n more
  · intro m hm
    rcases List.mem_cons.mp hm with heq | hin
    · rw [heq]
      exact hn
    · exact h.isEntry m hin
  · rw [h.spelled, hspell]
  · intro ns hpre hne
    rcases List.prefix_cons_iff.mp hpre with hnil | ⟨rest, hns, hrest⟩
    · exact absurd hnil hne
    · rw [hns]
      by_cases hempty : rest = []
      · rw [hempty, <- join_entryName hp hn]
        exact hkept
      · rw [<- hspell]
        exact h.kept rest hrest hempty

theorem LiesBelow.straight (h : LiesBelow d p f more) :
    Straight (!Path.isAbsolute p) (normalNames p ++ more).reverse :=
  straight_append_entryNames p h.isEntry

theorem LiesBelow.normalNames_eq (h : LiesBelow d p f more) :
    normalNames f = normalNames p ++ more := by
  rw [h.spelled, normalNames_spell h.straight]

theorem LiesBelow.isName (h : LiesBelow d p f more) {n : Name}
    (hn : n ∈ normalNames p ++ more) : IsName n :=
  isName_of_mem_straight h.straight (List.mem_reverse.mpr hn)

theorem LiesBelow.append_ne_nil (h : LiesBelow d p f more) : normalNames p ++ more ≠ [] :=
  List.append_ne_nil_of_right_ne_nil (normalNames p) h.ne_nil

theorem LiesBelow.isAbsolute_eq (h : LiesBelow d p f more) :
    Path.isAbsolute f = Path.isAbsolute p := by
  rw [h.spelled, isAbsolute_spell _ fun n hn => h.isName hn]

theorem LiesBelow.endsWithSlash (h : LiesBelow d p f more) : Path.endsWithSlash f = false := by
  rw [h.spelled]
  exact endsWithSlash_spell _ (fun n hn => h.isName hn) h.append_ne_nil

theorem LiesBelow.normalize_eq (h : LiesBelow d p f more) : Path.normalize f = f := by
  rw [h.spelled]
  exact normalize_spell h.straight h.append_ne_nil

theorem LiesBelow.anchor_eq (h : LiesBelow d p f more) : anchor f = anchor p := by
  unfold anchor
  rw [h.isAbsolute_eq, h.normalNames_eq,
    climb_append_entryNames (straight_normalNames p) h.isEntry]

end LiesBelow

theorem join_ne_nil {p : Path} (hp : p ≠ []) {n : Name} (hn : IsEntryName n) :
    Path.join p n ≠ [] := by
  intro hnil
  have hnames := normalNames_join hp hn
  rw [hnil] at hnames
  exact absurd hnames.symm (List.append_ne_nil_of_right_ne_nil _ (List.cons_ne_nil n []))

theorem Reaches.exists_liesBelow {d : Discovery} {p f : Path} {t : Tree} (h : Reaches d p t f)
    (ht : t.WellFormed) (hp : p ≠ []) : exists more, LiesBelow d p f more := by
  induction h with
  | file mem kept isFile =>
      exact ⟨_, liesBelow_join hp (ht.isEntry_of_mem mem) kept⟩
  | deeper mem kept rest ih =>
      have hn := ht.isEntry_of_mem mem
      rcases ih (ht.of_mem mem) (join_ne_nil hp hn) with ⟨more, hmore⟩
      exact ⟨_, hmore.of_join hp hn kept⟩

/-!
# Files found from a root

A found file is a root as it was given, or it lies below one and is in normal form.
-/

structure IsFilePath (f : Path) : Prop where
  no_slash : Path.endsWithSlash f = false
  names_ne_nil : normalNames f ≠ []

theorem IsFilePath.normalize_eq {f : Path} (h : IsFilePath f) :
    Path.normalize f = spell (Path.isAbsolute f) (normalNames f) :=
  normalize_eq_spell h.no_slash h.names_ne_nil

theorem isFilePath_of_kind {fs : FileSystem} {p : Path} (h : fs.kind p = .ok .file) :
    IsFilePath p := by
  rcases FileSystem.exists_name_of_kind_file h with ⟨hslash, before, n, hnames, hn⟩
  refine ⟨hslash, ?_⟩
  unfold normalNames route
  rw [hnames, List.foldl_concat, follow_entryName _ _ hn, List.reverse_cons]
  exact List.append_ne_nil_of_right_ne_nil _ (List.cons_ne_nil n [])

section Finds

variable {d : Discovery} {root f : Path}

theorem Finds.eq_root_or_liesBelow (h : Finds d root f) (hfs : d.fileSystem.root.WellFormed)
    (hroot : root ≠ []) :
    (d.fileSystem.kind root = .ok .file ∧ f = root) ∨ exists more, LiesBelow d root f more := by
  cases h with
  | root kept isFile =>
      exact Or.inl ⟨isFile, rfl⟩
  | file kept listed mem entryKept isFile =>
      have hn := (FileSystem.wellFormed_of_list hfs listed).isEntry_of_mem mem
      exact Or.inr ⟨_, liesBelow_join hroot hn entryKept⟩
  | deeper kept listed mem entryKept isDirectory located rest =>
      have hn := (FileSystem.wellFormed_of_list hfs listed).isEntry_of_mem mem
      have hbelow := FileSystem.wellFormed_of_locate hfs located
      rcases rest.exists_liesBelow hbelow (join_ne_nil hroot hn) with ⟨more, hmore⟩
      exact Or.inr ⟨_, hmore.of_join hroot hn entryKept⟩

theorem Finds.isFilePath (h : Finds d root f) (hfs : d.fileSystem.root.WellFormed)
    (hroot : root ≠ []) : IsFilePath f := by
  rcases h.eq_root_or_liesBelow hfs hroot with ⟨hkind, heq⟩ | ⟨more, hmore⟩
  · rw [heq]
    exact isFilePath_of_kind hkind
  · refine ⟨hmore.endsWithSlash, ?_⟩
    rw [hmore.normalNames_eq]
    exact hmore.append_ne_nil

theorem Finds.anchor_eq (h : Finds d root f) (hfs : d.fileSystem.root.WellFormed)
    (hroot : root ≠ []) : anchor f = anchor root := by
  rcases h.eq_root_or_liesBelow hfs hroot with ⟨_, heq⟩ | ⟨more, hmore⟩
  · rw [heq]
  · exact hmore.anchor_eq

theorem Finds.eq_root_or_normalize (h : Finds d root f) (hfs : d.fileSystem.root.WellFormed)
    (hroot : root ≠ []) :
    (d.fileSystem.kind root = .ok .file ∧ f = root) ∨ Path.normalize f = f := by
  rcases h.eq_root_or_liesBelow hfs hroot with hfile | ⟨more, hmore⟩
  · exact Or.inl hfile
  · exact Or.inr hmore.normalize_eq

end Finds

end Discovery
end CamelSpell
