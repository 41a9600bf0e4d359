import CamelSpell.Proofs.Discovery.Containment
import CamelSpell.Proofs.Discovery.EachOnce
import CamelSpell.Proofs.Discovery.Walk
import CamelSpell.Proofs.FileSystem.Child
import CamelSpell.Proofs.UnitOrder

/-!
# Exactness of a walk

A run from a single directory finds the files that real directories lead to without passing anything
excluded, and no others; it lists exactly the directories on these ways.
-/

namespace CamelSpell

open CamelSpell.Path Log

namespace Discovery

/-!
# The root of a walk

An entry of the root is looked into by its own path, which has to lead to it.
-/

section Root

variable {d : Discovery} {root q : Path} {entries : List (Name × Tree)} {v : Visit}

theorem walkFrom_ok_iff_walk (hroot : root ≠ [])
    (hq : FileSystem.SpellsOut d.fileSystem root entries q) {name : Name} {t : Tree}
    (hname : IsEntryName name) (hstorable : FileSystem.IsStorable name)
    (hentry : entries.lookup name = some t) (hkind : t.kind = .directory) :
    (d.walkFrom (Path.join root name)).result = .ok v <->
      (walk d (Path.join root name) t).result = .ok v := by
  have hlink : forall target, t ≠ .link target := by
    rintro target rfl
    cases hkind
  rw [walkFrom_ok_iff]
  by_cases hlength : FileSystem.byteLength (Path.join root name) ≤ FileSystem.pathLimit
  · have hlocate := hq.locate_join hroot hname hstorable hentry hlink hlength .list
    constructor
    · rintro ⟨t', hlocate', hwalk⟩
      rw [hlocate] at hlocate'
      cases hlocate'
      exact hwalk
    · intro hwalk
      exact ⟨t, hlocate, hwalk⟩
  · constructor
    · rintro ⟨t', hlocate', _⟩
      exact absurd (FileSystem.locate_ok_iff.mp hlocate').2.2.1 hlength
    · intro hwalk
      rcases Tree.exists_entries_of_kind hkind with ⟨below, heq⟩
      rw [heq] at hwalk
      exact absurd (walk_directory_ok_iff.mp hwalk).1 hlength

theorem walkRoot_ok_iff_walk (hfs : d.fileSystem.root.WellFormed) (hroot : root ≠ [])
    (hlist : d.fileSystem.list root = .ok entries)
    (hq : FileSystem.SpellsOut d.fileSystem root entries q)
    (hstorable : forall e, e ∈ entries -> FileSystem.IsStorable e.1) :
    (d.walkRoot root).result = .ok v <-> (walk d root (.directory entries)).result = .ok v := by
  have ht := FileSystem.wellFormed_of_list hfs hlist
  have hlength := (FileSystem.locate_ok_iff.mp (FileSystem.list_ok_iff.mp hlist)).2.2.1
  have hvisit : d.walkRoot root =
      visitListed root (visitsOf d root (fun e => d.walkFrom (Path.join root e.1)) entries) := by
    unfold walkRoot
    rw [hlist]
    rfl
  have hentry : forall e, e ∈ entries -> forall w,
      (visitOf d root (fun e => d.walkFrom (Path.join root e.1)) e).result = .ok w <->
        (visitOf d root (fun e => walk d (Path.join root e.1) e.2) e).result = .ok w := by
    intro e he w
    rw [visitOf_ok_iff, visitOf_ok_iff]
    split
    · rfl
    · apply or_congr_right
      apply or_congr_right
      apply and_congr_right
      intro hkind
      exact walkFrom_ok_iff_walk hroot hq (ht.isEntry_of_mem he) (hstorable e he)
        (ht.lookup_of_mem he) hkind
  rw [hvisit, visitListed_ok_iff, walk_directory_ok_iff, and_iff_right hlength]
  constructor
  · rintro ⟨brought, hbrought, hv⟩
    exact ⟨brought, fun e he => (hentry e he _).mp (hbrought e he), hv⟩
  · rintro ⟨brought, hbrought, hv⟩
    exact ⟨brought, fun e he => (hentry e he _).mpr (hbrought e he), hv⟩

end Root

/-!
# Runs from one directory

Open ways lead from the root to an entry by paths none of which is excluded.  The directories that
a walk leaves out hold none of the files at the end of one.
-/

/-- Names lead from the root to an entry, and nothing on the way to it is excluded by its path. -/
structure Opens (d : Discovery) (root : Path) (top : Tree) (ns : List Name) (t : Tree) : Prop where
  ne_nil : ns ≠ []
  found : top.at? ns = some t
  kept : forall ms, ms <+: ns -> ms ≠ [] -> d.excludes (Path.join root (joinNames ms)) = false

section Run

variable {d : Discovery} {root : Path} {top t : Tree} {ns : List Name} {v : Visit}
  {files : List Path}

theorem Leads.below_eq_join (h : Leads d root top ns t) (htop : top.WellFormed) (hroot : root ≠ [])
    (hne : ns ≠ []) : below root ns = Path.join root (joinNames ns) :=
  Discovery.below_eq_join hroot hne fun _ hn => h.isEntry htop hn

theorem opens_iff (htop : top.WellFormed) (hroot : root ≠ []) :
    Opens d root top ns t <-> ns ≠ [] ∧ Leads d root top ns t := by
  have hbelow : top.at? ns = some t -> forall ms, ms <+: ns -> ms ≠ [] ->
      below root ms = Path.join root (joinNames ms) := by
    intro hfound ms hms hne
    apply below_eq_join hroot hne
    intro n hn
    exact htop.isEntry_of_at? hfound (hms.subset hn)
  constructor
  · intro h
    refine ⟨h.ne_nil, h.found, ?_⟩
    intro ms hms hne
    rw [hbelow h.found ms hms hne]
    exact h.kept ms hms hne
  · rintro ⟨hne, h⟩
    refine ⟨hne, h.found, ?_⟩
    intro ms hms hne
    rw [<- hbelow h.found ms hms hne]
    exact h.kept ms hms hne

theorem run_singleton_ok_iff :
    (d.run [root]).result = .ok files <->
      exists v, (d.visitRoot root).result = .ok v ∧ files = d.fileSet v := by
  have hconcat : forall v, Visit.concat [v] = v := by
    intro v
    simp [Visit.concat]
  have hvisits : forall v, (d.visitRoots [root]).result = .ok v <->
      (d.visitRoot root).result = .ok v := by
    intro v
    show (Visit.sequence [d.visitRoot root]).result = .ok v <-> _
    rw [Visit.sequence_ok_iff]
    constructor
    · rintro ⟨visits, hresults, hv⟩
      rw [List.map_singleton] at hresults
      rcases List.map_eq_singleton_iff.mp hresults.symm with ⟨w, hvisits, hw⟩
      rw [hv, hvisits, hconcat, hw]
    · intro h
      exact ⟨[v], by rw [List.map_singleton, List.map_singleton, h], (hconcat v).symm⟩
  rw [run_ok_iff, and_iff_right (List.cons_ne_nil root [])]
  simp only [hvisits]

theorem exists_run_iff :
    (exists files, (d.run [root]).result = .ok files) <->
      exists v, (d.visitRoot root).result = .ok v := by
  constructor
  · rintro ⟨files, hfiles⟩
    rcases run_singleton_ok_iff.mp hfiles with ⟨v, hv, _⟩
    exact ⟨v, hv⟩
  · rintro ⟨v, hv⟩
    exact ⟨d.fileSet v, run_singleton_ok_iff.mpr ⟨v, hv, rfl⟩⟩

theorem mem_fileSet_of_walk (htop : top.WellFormed) (hroot : root ≠ [])
    (h : (walk d root top).result = .ok v) {f : Path} : f ∈ d.fileSet v <-> f ∈ v.files := by
  rw [mem_fileSet]
  apply and_iff_left_of_imp
  intro hf directory hdirectory
  rcases (mem_files_of_walk_iff htop h).mp hf with ⟨ns, c, _, hleads, _, heq⟩
  rcases excludes_of_mem_excluded htop h hdirectory with ⟨ms, hne, hms, hexcluded, hdirectory⟩
  rw [heq, hdirectory, resolveNames_below _ hroot fun n hn => hleads.isEntry htop hn,
    resolveNames_below _ hroot hms, <- Bool.not_eq_true]
  -- a file inside would have the directory on its way
  intro hinside
  unfold isInside at hinside
  rw [Bool.and_eq_true, List.isPrefixOf_iff_prefix, List.prefix_append_right_inj] at hinside
  rw [hleads.kept ms hinside.1 hne] at hexcluded
  cases hexcluded

theorem mem_files_of_opens (htop : top.WellFormed) (hroot : root ≠ [])
    (h : (walk d root top).result = .ok v) {f : Path} :
    f ∈ d.fileSet v <-> exists ns t, Opens d root top ns t ∧ t.kind = .file ∧
      f = Path.join root (joinNames ns) := by
  rw [mem_fileSet_of_walk htop hroot h, mem_files_of_walk_iff htop h]
  constructor
  · rintro ⟨ns, t, hne, hleads, hkind, hf⟩
    refine ⟨ns, t, (opens_iff htop hroot).mpr ⟨hne, hleads⟩, hkind, ?_⟩
    rw [hf, hleads.below_eq_join htop hroot hne]
  · rintro ⟨ns, t, hopens, hkind, hf⟩
    rcases (opens_iff htop hroot).mp hopens with ⟨hne, hleads⟩
    refine ⟨ns, t, hne, hleads, hkind, ?_⟩
    rw [hf, hleads.below_eq_join htop hroot hne]

theorem mem_listed_of_opens (htop : top.WellFormed) (hroot : root ≠ [])
    (h : (walk d root top).result = .ok v) {p : Path} :
    p ∈ v.listed <-> p = root ∨ exists ns t, Opens d root top ns t ∧ t.kind = .directory ∧
      p = Path.join root (joinNames ns) := by
  rw [mem_listed_of_walk htop h]
  constructor
  · rintro ⟨ns, t, hleads, hkind, hp⟩
    by_cases hne : ns = []
    · rw [hne] at hp
      exact Or.inl hp
    · right
      refine ⟨ns, t, (opens_iff htop hroot).mpr ⟨hne, hleads⟩, hkind, ?_⟩
      rw [hp, hleads.below_eq_join htop hroot hne]
  · rintro (hself | ⟨ns, t, hopens, hkind, hp⟩)
    · exact ⟨[], top, leads_nil_iff.mpr rfl, kind_of_walk h, hself⟩
    · rcases (opens_iff htop hroot).mp hopens with ⟨hne, hleads⟩
      refine ⟨ns, t, hleads, hkind, ?_⟩
      rw [hp, hleads.below_eq_join htop hroot hne]

end Run

/-!
# Exactness

A directory that is not excluded and whose spelling does not lead astray is walked.  The spelling
leads astray where it goes back from a link.
-/

section Exact

variable {d : Discovery} {root : Path} {entries : List (Name × Tree)}

theorem visitRoot_ok_iff_walk (hfs : d.fileSystem.root.WellFormed)
    (hlist : d.fileSystem.list root = .ok entries)
    (hstorable : forall e, e ∈ entries -> FileSystem.IsStorable e.1)
    (hspelled : above ∉ names root ∨ d.fileSystem.list (Path.normalize root) = .ok entries)
    (hkept : IsKept d root) {v : Visit} :
    (d.visitRoot root).result = .ok v <->
      root.all Unicode.isBlank = false ∧ (walk d root (.directory entries)).result = .ok v := by
  have hroot := (FileSystem.locate_ok_iff.mp (FileSystem.list_ok_iff.mp hlist)).2.1
  have hwalkRoot : (d.walkRoot root).result = .ok v <->
      (walk d root (.directory entries)).result = .ok v := by
    rcases hspelled with habove | hnormal
    · exact walkRoot_ok_iff_walk hfs hroot hlist (FileSystem.spellsOut_self hlist habove) hstorable
    · exact walkRoot_ok_iff_walk hfs hroot hlist (FileSystem.spellsOut_normalize hnormal) hstorable
  cases hblank : root.all Unicode.isBlank with
  | true =>
      unfold visitRoot
      rw [if_pos hblank]
      simp [Logged.fail]
  | false =>
      rw [visitRoot_of_directory hblank (FileSystem.kind_of_list hlist) hkept, hwalkRoot]
      simp

theorem exists_run_directory_iff (hfs : d.fileSystem.root.WellFormed)
    (hlist : d.fileSystem.list root = .ok entries)
    (hstorable : forall e, e ∈ entries -> FileSystem.IsStorable e.1)
    (hspelled : above ∉ names root ∨ d.fileSystem.list (Path.normalize root) = .ok entries)
    (hkept : IsKept d root) :
    (exists files, (d.run [root]).result = .ok files) <->
      root.all Unicode.isBlank = false ∧
        forall ns t, Opens d root (.directory entries) ns t -> t.kind = .directory ->
          FileSystem.byteLength (Path.join root (joinNames ns)) ≤ FileSystem.pathLimit := by
  have htop := FileSystem.wellFormed_of_list hfs hlist
  rcases FileSystem.locate_ok_iff.mp (FileSystem.list_ok_iff.mp hlist) with
    ⟨_, hroot, hlength, _⟩
  have hrun : (exists files, (d.run [root]).result = .ok files) <->
      root.all Unicode.isBlank = false ∧
        exists v, (walk d root (.directory entries)).result = .ok v := by
    rw [exists_run_iff, <- exists_and_left]
    exact exists_congr fun v => visitRoot_ok_iff_walk hfs hlist hstorable hspelled hkept
  have hkind : (Tree.directory entries).kind = .directory := rfl
  rw [hrun, exists_walk_iff htop, and_iff_right hkind]
  apply and_congr_right
  intro _
  constructor
  · intro h ns t hopens hkind
    rcases (opens_iff htop hroot).mp hopens with ⟨hne, hleads⟩
    rw [<- hleads.below_eq_join htop hroot hne]
    exact h ns t hleads hkind
  · intro h ns t hleads hkind
    by_cases hne : ns = []
    · rw [hne]
      exact hlength
    · rw [hleads.below_eq_join htop hroot hne]
      exact h ns t ((opens_iff htop hroot).mpr ⟨hne, hleads⟩) hkind

/-- A run from one directory that is not excluded, whose spelling does not lead astray, fails only
if the root is blank or the path of a directory on an open way is too long.  Otherwise it finds
exactly the files that open ways lead to, in the order of their code units, and lists the root and
the directories on open ways, each of them once. -/
theorem run_directory (hfs : d.fileSystem.root.WellFormed)
    (hlist : d.fileSystem.list root = .ok entries)
    (hstorable : forall e, e ∈ entries -> FileSystem.IsStorable e.1)
    (hspelled : above ∉ names root ∨ d.fileSystem.list (Path.normalize root) = .ok entries)
    (hkept : IsKept d root) :
    ((exists files, (d.run [root]).result = .ok files) <->
      root.all Unicode.isBlank = false ∧
        forall ns t, Opens d root (.directory entries) ns t -> t.kind = .directory ->
          FileSystem.byteLength (Path.join root (joinNames ns)) ≤ FileSystem.pathLimit) ∧
    forall files, (d.run [root]).result = .ok files ->
      (forall f, f ∈ files <-> exists ns t, Opens d root (.directory entries) ns t ∧
        t.kind = .file ∧ f = Path.join root (joinNames ns)) ∧
      files.Pairwise (fun a b => List.Lex (· < ·) (Unicode.units a) (Unicode.units b)) ∧
      exists v, (d.visitRoot root).result = .ok v ∧ files = d.fileSet v ∧ v.listed.Nodup ∧
        forall p, p ∈ v.listed <-> p = root ∨ exists ns t,
          Opens d root (.directory entries) ns t ∧ t.kind = .directory ∧
            p = Path.join root (joinNames ns) := by
  refine ⟨exists_run_directory_iff hfs hlist hstorable hspelled hkept, ?_⟩
  intro files hfiles
  have htop := FileSystem.wellFormed_of_list hfs hlist
  have hroot := (FileSystem.locate_ok_iff.mp (FileSystem.list_ok_iff.mp hlist)).2.1
  rcases run_singleton_ok_iff.mp hfiles with ⟨v, hv, hset⟩
  have hwalk := ((visitRoot_ok_iff_walk hfs hlist hstorable hspelled hkept).mp hv).2
  refine ⟨?_, ?_, v, hv, hset, nodup_listed_of_walk htop hroot hwalk, ?_⟩
  · intro f
    rw [hset]
    exact mem_files_of_opens htop hroot hwalk
  · rw [hset]
    exact Unicode.pairwise_mergeSort_units ((nodup_eraseDups v.files).filter _)
  · intro p
    exact mem_listed_of_opens htop hroot hwalk

end Exact

def sources : List (Name × Tree) :=
  [("b.ts".toList, .file []), ("gen".toList, Tree.empty.put (.file []) ["x.ts".toList]),
    ("lib".toList, Tree.empty.put (.file []) ["a.ts".toList]), ("again".toList, .link ".".toList)]

theorem wellFormed_sources : Tree.WellFormed (.directory sources) := by
  have hfile := Tree.WellFormed.file []
  apply Tree.WellFormed.directory
  · decide
  · decide
  · intro e he
    simp only [sources, List.mem_cons, List.not_mem_nil, or_false] at he
    rcases he with rfl | rfl | rfl | rfl
    · exact hfile
    · exact Tree.wellFormed_empty.put hfile (by decide)
    · exact Tree.wellFormed_empty.put hfile (by decide)
    · exact Tree.WellFormed.link _

def linkedSources : Discovery where
  fileSystem :=
    { root := (Tree.empty.put (.directory sources) ["src".toList]).put (.link "src".toList)
        ["here".toList]
      workingNames := [] }
  excludes := excludesOnly "gen".toList
  scope := none

theorem run_directory_linked :
    (linkedSources.run ["here".toList]).result =
        .ok ["here/b.ts".toList, "here/lib/a.ts".toList] ∧
      forall f, f ∈ ["here/b.ts".toList, "here/lib/a.ts".toList] <->
        exists ns t, Opens linkedSources "here".toList (.directory sources) ns t ∧
          t.kind = .file ∧ f = Path.join "here".toList (joinNames ns) := by
  have hfs : linkedSources.fileSystem.root.WellFormed :=
    (Tree.wellFormed_empty.put wellFormed_sources (by decide)).put (Tree.WellFormed.link _)
      (by decide)
  have hlist : linkedSources.fileSystem.list "here".toList = .ok sources := by
    cbv
  have hstorable : forall e, e ∈ sources -> FileSystem.IsStorable e.1 := by
    have hnames : forall e, e ∈ sources ->
        '\x00' ∉ e.1 ∧ FileSystem.byteLength e.1 ≤ FileSystem.nameLimit := by
      decide
    intro e he
    exact ⟨(hnames e he).1, (hnames e he).2⟩
  have hkept : IsKept linkedSources "here".toList := by
    constructor <;> decide
  have hvisit : (linkedSources.visitRoot "here".toList).result =
      .ok ⟨["here/b.ts".toList, "here/lib/a.ts".toList], [["here".toList, "gen".toList]],
        ["here".toList, "here/lib".toList]⟩ := by
    rw [visitRoot_of_directory (by decide) (by cbv) hkept]
    cbv
  have hrun : (linkedSources.run ["here".toList]).result =
      .ok ["here/b.ts".toList, "here/lib/a.ts".toList] :=
    run_singleton_ok_iff.mpr ⟨_, hvisit, by cbv⟩
  have hexact := (run_directory hfs hlist hstorable (Or.inl (by decide)) hkept).2 _ hrun
  exact ⟨hrun, hexact.1⟩

def blankDirectory : Discovery where
  fileSystem :=
    { root := Tree.empty.put (.file []) [" ".toList, "a.txt".toList]
      workingNames := [] }
  excludes := fun _ => false
  scope := none

def linkedAway : Discovery where
  fileSystem :=
    { root := ((Tree.empty.put (.file []) ["real".toList, "d".toList, "y.txt".toList]).put
        (.file []) ["d".toList, "z.txt".toList]).put (.link "real/d".toList) ["link".toList]
      workingNames := [] }
  excludes := fun _ => false
  scope := none

def longName : Name := List.replicate 255 'n'

def deepDirectories : Discovery where
  fileSystem :=
    { root := Tree.empty.put Tree.empty (List.replicate 17 longName)
      workingNames := [] }
  excludes := fun _ => false
  scope := none

theorem list_deepDirectories :
    deepDirectories.fileSystem.list ".".toList =
      .ok [(longName, Tree.empty.put Tree.empty (List.replicate 16 longName))] :=
  FileSystem.list_here rfl

theorem isKept_deepDirectories : IsKept deepDirectories ".".toList := by
  constructor <;> decide

theorem run_deepDirectories (files : List Path) :
    (deepDirectories.run [".".toList]).result ≠ .ok files := by
  intro hfiles
  have hopens : Opens deepDirectories ".".toList deepDirectories.fileSystem.root
      (List.replicate 17 longName) Tree.empty := by
    refine ⟨List.cons_ne_nil _ _, Tree.at?_put .., ?_⟩
    intro ms _ _
    rfl
  have hfs : deepDirectories.fileSystem.root.WellFormed :=
    Tree.wellFormed_empty.put Tree.wellFormed_empty (by decide +kernel)
  have hstorable : forall e, e ∈ [(longName,
      Tree.empty.put Tree.empty (List.replicate 16 longName))] -> FileSystem.IsStorable e.1 := by
    intro e he
    rw [List.mem_singleton.mp he]
    constructor <;> decide +kernel
  have hlengths := ((exists_run_directory_iff hfs list_deepDirectories hstorable
    (Or.inl (by decide)) isKept_deepDirectories).mp ⟨files, hfiles⟩).2
  have hshort := hlengths _ _ hopens rfl
  revert hshort
  decide +kernel

/-- A blank root is refused even if it is a directory; a directory that is too deep down ends the
run; and below a root that goes back from a link, files are looked up in another directory than the
one that is listed. -/
theorem run_directory_astray :
    (blankDirectory.fileSystem.list " ".toList = .ok [("a.txt".toList, .file [])] ∧
      IsKept blankDirectory " ".toList ∧
      (blankDirectory.run [" ".toList]).result = .error .blankRoot) ∧
    (exists entries, deepDirectories.fileSystem.list ".".toList = .ok entries ∧
      IsKept deepDirectories ".".toList ∧
      forall files, (deepDirectories.run [".".toList]).result ≠ .ok files) ∧
    exists entries, linkedAway.fileSystem.list "link/..".toList = .ok entries ∧
      IsKept linkedAway "link/..".toList ∧
      Opens linkedAway "link/..".toList (.directory entries) ["d".toList, "y.txt".toList]
        (.file []) ∧
      Path.join "link/..".toList (joinNames ["d".toList, "y.txt".toList]) = "d/y.txt".toList ∧
      (linkedAway.run ["link/..".toList]).result = .ok ["d/z.txt".toList] := by
  have hkept : IsKept linkedAway "link/..".toList := by
    constructor <;> decide
  have hvisit : (linkedAway.visitRoot "link/..".toList).result =
      .ok ⟨["d/z.txt".toList], [], ["link/..".toList, "d".toList]⟩ := by
    rw [visitRoot_of_directory (by decide) (by cbv) hkept]
    cbv
  have hopens : Opens linkedAway "link/..".toList
      (.directory [("d".toList, .directory [("y.txt".toList, .file [])])])
      ["d".toList, "y.txt".toList] (.file []) := by
    refine ⟨by decide, rfl, ?_⟩
    intro ms _ _
    rfl
  refine ⟨⟨by cbv, by constructor <;> decide, by cbv⟩,
    ⟨_, list_deepDirectories, isKept_deepDirectories, run_deepDirectories⟩, ?_⟩
  exact ⟨_, by cbv, hkept, hopens, by cbv, run_singleton_ok_iff.mpr ⟨_, hvisit, by cbv⟩⟩

end Discovery
end CamelSpell
