import CamelSpell.Discovery
import CamelSpell.Proofs.FileSystem.Located
import Mathlib

/-!
# What visits find

A visit that succeeds brings exactly the files that its roots lead to.  The way from a root to a
file is kept as a derivation: which entries it passes, and that none of them is excluded.
-/

namespace CamelSpell

open CamelSpell.Path Log

/-!
# Visits one after another

Visits made one after another succeed when each of them does, and they bring what each of them
brings.
-/

namespace Visit

def concat (visits : List Visit) : Visit :=
  ⟨visits.flatMap files, visits.flatMap excluded, visits.flatMap listed⟩

theorem concat_cons (first : Visit) (others : List Visit) :
    concat (first :: others) = first.append (concat others) :=
  rfl

theorem sequence_cons_result (x : Logged Failure Visit) (rest : List (Logged Failure Visit)) :
    (sequence (x :: rest)).result =
      x.result.bind fun first => (sequence rest).result.bind fun others =>
        .ok (first.append others) := by
  rw [sequence, Logged.result_bind]
  congr 1
  funext first
  rw [Logged.result_bind]
  rfl

theorem sequence_ok_iff {steps : List (Logged Failure Visit)} {v : Visit} :
    (sequence steps).result = .ok v <->
      exists visits, steps.map Logged.result = visits.map Except.ok ∧ v = concat visits := by
  induction steps generalizing v with
  | nil =>
      constructor
      · intro h
        cases h
        exact ⟨[], rfl, rfl⟩
      · rintro ⟨visits, hresults, hv⟩
        rw [List.map_nil] at hresults
        rw [List.map_eq_nil_iff.mp hresults.symm] at hv
        rw [hv]
        rfl
  | cons x rest ih =>
      rw [sequence_cons_result]
      cases hx : x.result with
      | error e =>
          constructor
          · intro h
            cases h
          · rintro ⟨visits, hresults, _⟩
            rw [List.map_cons, hx] at hresults
            cases visits with
            | nil => cases hresults
            | cons first others => cases hresults
      | ok first =>
          constructor
          · intro h
            cases hrest : (sequence rest).result with
            | error e =>
                rw [hrest] at h
                cases h
            | ok others =>
                rw [hrest] at h
                cases h
                rcases ih.mp hrest with ⟨visits, hresults, hothers⟩
                refine ⟨first :: visits, ?_, ?_⟩
                · rw [List.map_cons, List.map_cons, hx, hresults]
                · rw [concat_cons, hothers]
          · rintro ⟨visits, hresults, hv⟩
            rw [List.map_cons, hx] at hresults
            cases visits with
            | nil => cases hresults
            | cons first' others =>
                rw [List.map_cons] at hresults
                injection hresults with hfirst hrest
                injection hfirst with hfirst
                rw [ih.mpr ⟨others, hrest, rfl⟩, hv, concat_cons, hfirst]
                rfl

theorem mem_results_of_sequence {steps : List (Logged Failure Visit)} {visits : List Visit}
    (h : steps.map Logged.result = visits.map Except.ok) {w : Visit} :
    w ∈ visits <-> exists x, x ∈ steps ∧ x.result = .ok w := by
  have hmem : Except.ok w ∈ visits.map (Except.ok (ε := Failure)) <->
      Except.ok w ∈ steps.map Logged.result := by
    rw [h]
  simpa using hmem

theorem mem_files_of_sequence {steps : List (Logged Failure Visit)} {v : Visit}
    (h : (sequence steps).result = .ok v) {f : Path} :
    f ∈ v.files <-> exists x, x ∈ steps ∧ exists w, x.result = .ok w ∧ f ∈ w.files := by
  rcases sequence_ok_iff.mp h with ⟨visits, hresults, hv⟩
  rw [hv]
  show f ∈ visits.flatMap files <-> _
  rw [List.mem_flatMap]
  constructor
  · rintro ⟨w, hw, hf⟩
    rcases (mem_results_of_sequence hresults).mp hw with ⟨x, hx, hresult⟩
    exact ⟨x, hx, w, hresult, hf⟩
  · rintro ⟨x, hx, w, hresult, hf⟩
    exact ⟨w, (mem_results_of_sequence hresults).mpr ⟨x, hx, hresult⟩, hf⟩

theorem exists_result_of_sequence {steps : List (Logged Failure Visit)} {v : Visit}
    (h : (sequence steps).result = .ok v) {x : Logged Failure Visit} (hx : x ∈ steps) :
    exists w, x.result = .ok w := by
  rcases sequence_ok_iff.mp h with ⟨visits, hresults, _⟩
  have hmem : x.result ∈ visits.map (Except.ok (ε := Failure)) := by
    rw [<- hresults]
    exact List.mem_map_of_mem hx
  rcases List.mem_map.mp hmem with ⟨w, _, hw⟩
  exact ⟨w, hw.symm⟩

end Visit

namespace Discovery

/-!
# Entries

The entries of a directory are visited in the order of their names; which files they bring does
not depend on it.
-/

theorem exclude_files {d : Discovery} {p : Path} {kind : EntryKind} {v : Visit}
    (h : (d.exclude p kind).result = .ok v) : v.files = [] := by
  unfold exclude at h
  rw [Logged.result_bind] at h
  cases h
  rfl

theorem mem_files_of_visitEntry {d : Discovery} {p : Path} {kind : EntryKind}
    {below : Unit -> Logged Failure Visit} {v : Visit}
    (h : (d.visitEntry p kind below).result = .ok v) {f : Path} :
    f ∈ v.files <-> d.excludes p = false ∧
      ((kind = .file ∧ f = p) ∨
        (kind = .directory ∧ exists w, (below ()).result = .ok w ∧ f ∈ w.files)) := by
  unfold visitEntry at h
  cases hexcluded : d.excludes p with
  | true =>
      rw [hexcluded, if_pos rfl] at h
      rw [exclude_files h]
      simp
  | false =>
      rw [hexcluded, if_neg Bool.false_ne_true] at h
      cases kind with
      | file =>
          cases h
          simp [Visit.file]
      | directory =>
          simp only at h
          simp [h]
      | other =>
          cases h
          simp [Visit.empty]

theorem mem_inOrder {visits : List (Name × Logged Failure Visit)} {x : Logged Failure Visit} :
    x ∈ inOrder visits <-> exists name, (name, x) ∈ visits := by
  unfold inOrder
  rw [List.mem_map]
  constructor
  · rintro ⟨e, he, heq⟩
    rw [<- heq]
    exact ⟨e.1, List.mem_mergeSort.mp he⟩
  · rintro ⟨name, hmem⟩
    exact ⟨(name, x), List.mem_mergeSort.mpr hmem, rfl⟩

theorem sequence_of_visitListed {p : Path} {visits : List (Name × Logged Failure Visit)}
    {v : Visit} (h : (visitListed p visits).result = .ok v) :
    exists below, (Visit.sequence (inOrder visits)).result = .ok below ∧
      v = { below with listed := p :: below.listed } := by
  unfold visitListed at h
  rw [Logged.result_bind] at h
  cases hbelow : (Visit.sequence (inOrder visits)).result with
  | error e =>
      rw [hbelow] at h
      cases h
  | ok below =>
      rw [hbelow] at h
      cases h
      exact ⟨below, rfl, rfl⟩

def visitsOf (d : Discovery) (p : Path) (below : Name × Tree -> Logged Failure Visit)
    (entries : List (Name × Tree)) : List (Name × Logged Failure Visit) :=
  entries.map fun e => (e.1, d.visitEntry (Path.join p e.1) e.2.kind fun _ => below e)

section Listing

variable {d : Discovery} {p : Path} {below : Name × Tree -> Logged Failure Visit}
  {entries : List (Name × Tree)} {v : Visit}

variable (d p below) in
theorem visitEntry_mem_inOrder {e : Name × Tree} (he : e ∈ entries) :
    (d.visitEntry (Path.join p e.1) e.2.kind fun _ => below e) ∈
      inOrder (visitsOf d p below entries) :=
  mem_inOrder.mpr ⟨e.1, List.mem_map.mpr ⟨e, he, rfl⟩⟩

theorem mem_files_of_visitsOf (h : (visitListed p (visitsOf d p below entries)).result = .ok v)
    {f : Path} :
    f ∈ v.files <-> exists e, e ∈ entries ∧ d.excludes (Path.join p e.1) = false ∧
      ((e.2.kind = .file ∧ f = Path.join p e.1) ∨
        (e.2.kind = .directory ∧ exists w, (below e).result = .ok w ∧ f ∈ w.files)) := by
  rcases sequence_of_visitListed h with ⟨whole, hwhole, hv⟩
  rw [hv]
  show f ∈ whole.files <-> _
  rw [Visit.mem_files_of_sequence hwhole]
  constructor
  · rintro ⟨x, hx, w, hw, hf⟩
    rcases mem_inOrder.mp hx with ⟨name, hmem⟩
    rcases List.mem_map.mp hmem with ⟨e, he, heq⟩
    cases heq
    exact ⟨e, he, (mem_files_of_visitEntry hw).mp hf⟩
  · rintro ⟨e, he, hfound⟩
    have hx := visitEntry_mem_inOrder d p below he
    rcases Visit.exists_result_of_sequence hwhole hx with ⟨w, hw⟩
    exact ⟨_, hx, w, hw, (mem_files_of_visitEntry hw).mpr hfound⟩

theorem exists_result_of_visitsOf (h : (visitListed p (visitsOf d p below entries)).result = .ok v)
    {e : Name × Tree} (he : e ∈ entries) (hkept : d.excludes (Path.join p e.1) = false)
    (hkind : e.2.kind = .directory) : exists w, (below e).result = .ok w := by
  rcases sequence_of_visitListed h with ⟨whole, hwhole, _⟩
  have hx := visitEntry_mem_inOrder d p below he
  rcases Visit.exists_result_of_sequence hwhole hx with ⟨w, hw⟩
  unfold visitEntry at hw
  rw [hkept, if_neg Bool.false_ne_true, hkind] at hw
  exact ⟨w, hw⟩

end Listing

/-!
# Walks

A walk through a directory brings the files to which a way leads that meets no excluded entry and
no link.
-/

/-- The ways from a directory to the files below it. -/
inductive Reaches (d : Discovery) : Path -> Tree -> Path -> Prop where
  | file {p : Path} {entries : List (Name × Tree)} {name : Name} {t : Tree}
      (mem : (name, t) ∈ entries) (kept : d.excludes (Path.join p name) = false)
      (isFile : t.kind = .file) : Reaches d p (.directory entries) (Path.join p name)
  | deeper {p : Path} {entries : List (Name × Tree)} {name : Name} {t : Tree} {f : Path}
      (mem : (name, t) ∈ entries) (kept : d.excludes (Path.join p name) = false)
      (rest : Reaches d (Path.join p name) t f) : Reaches d p (.directory entries) f

theorem Reaches.kind {d : Discovery} {p f : Path} {t : Tree} (h : Reaches d p t f) :
    t.kind = .directory := by
  cases h with
  | file mem kept isFile => rfl
  | deeper mem kept rest => rfl

theorem walkEntries_eq_visitsOf (d : Discovery) (p : Path) (entries : List (Name × Tree)) :
    walkEntries d p entries = visitsOf d p (fun e => walk d (Path.join p e.1) e.2) entries := by
  induction entries with
  | nil =>
      rfl
  | cons e rest ih =>
      rw [walkEntries, ih]
      rfl

theorem mem_files_of_walk {d : Discovery} {p : Path} {t : Tree} {v : Visit}
    (h : (walk d p t).result = .ok v) {f : Path} : f ∈ v.files <-> Reaches d p t f := by
  induction t using Tree.inductionOnEntries generalizing p v f with
  | leaf t hleaf =>
      cases t with
      | directory entries => exact absurd rfl (hleaf entries)
      | file bytes => cases h
      | link target => cases h
      | device => cases h
      | damaged => cases h
  | directory entries ih =>
      rw [walk] at h
      split at h
      · cases h
      rw [walkEntries_eq_visitsOf] at h
      rw [mem_files_of_visitsOf h]
      constructor
      · rintro ⟨e, he, hkept, ⟨hkind, hname⟩ | ⟨_, w, hw, hf⟩⟩
        · rw [hname]
          exact Reaches.file he hkept hkind
        · exact Reaches.deeper he hkept ((ih e he hw).mp hf)
      · intro hreaches
        cases hreaches with
        | @file _ _ name t mem kept isFile =>
            exact ⟨(name, t), mem, kept, Or.inl ⟨isFile, rfl⟩⟩
        | @deeper _ _ name t _ mem kept rest =>
            rcases exists_result_of_visitsOf h mem kept rest.kind with ⟨w, hw⟩
            exact ⟨(name, t), mem, kept,
              Or.inr ⟨rest.kind, w, hw, (ih (name, t) mem hw).mpr rest⟩⟩

/-!
# Roots

A root that is kept leads to itself if it is a file, and to the files below it if it is a
directory.
-/

structure IsKept (d : Discovery) (root : Path) : Prop where
  not_excluded : d.excludes root = false
  not_inside : d.hasExcludedAncestor root = false

theorem isKept_iff {d : Discovery} {root : Path} :
    IsKept d root <-> (d.excludes root || d.hasExcludedAncestor root) = false := by
  rw [Bool.or_eq_false_iff]
  exact ⟨fun h => ⟨h.not_excluded, h.not_inside⟩, fun h => ⟨h.1, h.2⟩⟩

/-- The ways from a root to the files that it leads to. -/
inductive Finds (d : Discovery) : Path -> Path -> Prop where
  | root {root : Path} (kept : IsKept d root) (isFile : d.fileSystem.kind root = .ok .file) :
      Finds d root root
  | file {root : Path} {entries : List (Name × Tree)} {name : Name} {t : Tree}
      (kept : IsKept d root) (listed : d.fileSystem.list root = .ok entries)
      (mem : (name, t) ∈ entries) (entryKept : d.excludes (Path.join root name) = false)
      (isFile : t.kind = .file) : Finds d root (Path.join root name)
  | deeper {root : Path} {entries : List (Name × Tree)} {name : Name} {t below : Tree} {f : Path}
      (kept : IsKept d root) (listed : d.fileSystem.list root = .ok entries)
      (mem : (name, t) ∈ entries) (entryKept : d.excludes (Path.join root name) = false)
      (isDirectory : t.kind = .directory)
      (located : d.fileSystem.locate .list (Path.join root name) = .ok below)
      (rest : Reaches d (Path.join root name) below f) : Finds d root f

theorem Finds.kept {d : Discovery} {root f : Path} (h : Finds d root f) : IsKept d root := by
  cases h with
  | root kept isFile => exact kept
  | file kept listed mem entryKept isFile => exact kept
  | deeper kept listed mem entryKept isDirectory located rest => exact kept

theorem Finds.kind {d : Discovery} {root f : Path} (h : Finds d root f) :
    (d.fileSystem.kind root = .ok .file ∧ f = root) ∨
      d.fileSystem.kind root = .ok .directory := by
  cases h with
  | root kept isFile => exact Or.inl ⟨isFile, rfl⟩
  | file kept listed mem entryKept isFile => exact Or.inr (FileSystem.kind_of_list listed)
  | deeper kept listed mem entryKept isDirectory located rest =>
      exact Or.inr (FileSystem.kind_of_list listed)

theorem walkFrom_ok_iff {d : Discovery} {p : Path} {v : Visit} :
    (d.walkFrom p).result = .ok v <->
      exists t, d.fileSystem.locate .list p = .ok t ∧ (walk d p t).result = .ok v := by
  unfold walkFrom
  cases d.fileSystem.locate .list p with
  | error e =>
      simp [abort, Logged.fail]
  | ok t =>
      simp

theorem walkRoot_ok {d : Discovery} {root : Path} {v : Visit}
    (h : (d.walkRoot root).result = .ok v) :
    exists entries, d.fileSystem.list root = .ok entries ∧
      (visitListed root
        (visitsOf d root (fun e => d.walkFrom (Path.join root e.1)) entries)).result = .ok v := by
  unfold walkRoot at h
  cases hlist : d.fileSystem.list root with
  | error e =>
      rw [hlist] at h
      cases h
  | ok entries =>
      rw [hlist] at h
      exact ⟨entries, rfl, h⟩

theorem mem_files_of_walkRoot {d : Discovery} {root : Path} (hkept : IsKept d root)
    (hkind : d.fileSystem.kind root = .ok .directory) {v : Visit}
    (h : (d.walkRoot root).result = .ok v) {f : Path} : f ∈ v.files <-> Finds d root f := by
  rcases walkRoot_ok h with ⟨entries, hlist, hvisit⟩
  rw [mem_files_of_visitsOf hvisit]
  constructor
  · rintro ⟨e, he, hentry, ⟨hfile, hname⟩ | ⟨hdirectory, w, hw, hf⟩⟩
    · rw [hname]
      exact Finds.file hkept hlist he hentry hfile
    · rcases walkFrom_ok_iff.mp hw with ⟨below, hlocate, hwalk⟩
      exact Finds.deeper hkept hlist he hentry hdirectory hlocate ((mem_files_of_walk hwalk).mp hf)
  · intro hfinds
    cases hfinds with
    | root kept isFile =>
        rw [hkind] at isFile
        cases isFile
    | @file entries' name t kept listed mem entryKept isFile =>
        rw [hlist] at listed
        cases listed
        exact ⟨(name, t), mem, entryKept, Or.inl ⟨isFile, rfl⟩⟩
    | @deeper entries' name t below _ kept listed mem entryKept isDirectory located rest =>
        rw [hlist] at listed
        cases listed
        rcases exists_result_of_visitsOf hvisit mem entryKept isDirectory with ⟨w, hw⟩
        rcases walkFrom_ok_iff.mp hw with ⟨below', hlocate, hwalk⟩
        rw [located] at hlocate
        cases hlocate
        exact ⟨(name, t), mem, entryKept,
          Or.inr ⟨isDirectory, w, hw, (mem_files_of_walk hwalk).mpr rest⟩⟩

theorem visitRoot_ok {d : Discovery} {root : Path} {v : Visit}
    (h : (d.visitRoot root).result = .ok v) :
    exists kind, d.fileSystem.kind root = .ok kind ∧
      ((¬ IsKept d root ∧ v.files = []) ∨
        (IsKept d root ∧ ((kind = .file ∧ v = .file root) ∨
          (kind = .directory ∧ (d.walkRoot root).result = .ok v) ∨
          (kind = .other ∧ v = .empty)))) := by
  unfold visitRoot at h
  split at h
  · cases h
  cases hkind : d.fileSystem.kind root with
  | error e =>
      rw [hkind] at h
      cases h
  | ok kind =>
      rw [hkind] at h
      simp only at h
      refine ⟨kind, rfl, ?_⟩
      split at h
      · rename_i hor
        rw [<- Bool.not_eq_false, <- isKept_iff] at hor
        exact Or.inl ⟨hor, exclude_files h⟩
      · rename_i hor
        rw [Bool.not_eq_true, <- isKept_iff] at hor
        refine Or.inr ⟨hor, ?_⟩
        cases kind with
        | file =>
            cases h
            exact Or.inl ⟨rfl, rfl⟩
        | directory =>
            exact Or.inr (Or.inl ⟨rfl, h⟩)
        | other =>
            rw [Logged.result_bind] at h
            cases h
            exact Or.inr (Or.inr ⟨rfl, rfl⟩)

theorem mem_files_of_visitRoot {d : Discovery} {root : Path} {v : Visit}
    (h : (d.visitRoot root).result = .ok v) {f : Path} : f ∈ v.files <-> Finds d root f := by
  rcases visitRoot_ok h with ⟨kind, hkind, ⟨hkept, hnil⟩ | ⟨hkept, hcase⟩⟩
  · rw [hnil]
    constructor
    · intro hf
      cases hf
    · intro hfinds
      exact absurd hfinds.kept hkept
  · rcases hcase with ⟨hfile, hv⟩ | ⟨hdirectory, hwalk⟩ | ⟨hother, hv⟩
    · subst hfile
      rw [hv]
      constructor
      · intro hf
        rw [List.mem_singleton.mp hf]
        exact Finds.root hkept hkind
      · intro hfinds
        rcases hfinds.kind with ⟨_, heq⟩ | hdirectory
        · rw [heq]
          exact List.mem_singleton.mpr rfl
        · rw [hkind] at hdirectory
          cases hdirectory
    · subst hdirectory
      exact mem_files_of_walkRoot hkept hkind hwalk
    · subst hother
      rw [hv]
      constructor
      · intro hf
        cases hf
      · intro hfinds
        rcases hfinds.kind with ⟨hfile, _⟩ | hdirectory
        · rw [hkind] at hfile
          cases hfile
        · rw [hkind] at hdirectory
          cases hdirectory

theorem visitRoot_of_file {d : Discovery} {root : Path}
    (hblank : root.all Unicode.isBlank = false) (hkind : d.fileSystem.kind root = .ok .file)
    (hkept : IsKept d root) : d.visitRoot root = pure (.file root) := by
  unfold visitRoot
  simp [hblank, hkind, isKept_iff.mp hkept]

theorem visitRoot_of_directory {d : Discovery} {root : Path}
    (hblank : root.all Unicode.isBlank = false) (hkind : d.fileSystem.kind root = .ok .directory)
    (hkept : IsKept d root) : d.visitRoot root = d.walkRoot root := by
  unfold visitRoot
  simp [hblank, hkind, isKept_iff.mp hkept]

theorem visitRoot_of_excluded {d : Discovery} {root : Path}
    (hblank : root.all Unicode.isBlank = false) {kind : EntryKind}
    (hkind : d.fileSystem.kind root = .ok kind) (hkept : ¬ IsKept d root) :
    d.visitRoot root = d.exclude root kind := by
  rw [isKept_iff, Bool.not_eq_false] at hkept
  unfold visitRoot
  simp [hblank, hkind, hkept]

/-!
# Runs

A run succeeds if the visit of every root does.
-/

theorem ne_nil_of_visitRoot {d : Discovery} {root : Path} {v : Visit}
    (h : (d.visitRoot root).result = .ok v) : root ≠ [] := by
  intro hnil
  rw [hnil] at h
  cases h

theorem mem_fileSet {d : Discovery} {v : Visit} {f : Path} :
    f ∈ d.fileSet v <-> f ∈ v.files ∧ forall directory, directory ∈ v.excluded ->
      isInside directory (Path.resolveNames d.fileSystem.workingDirectory f) = false := by
  unfold fileSet
  simp

theorem run_ok_iff {d : Discovery} {roots files : List Path} :
    (d.run roots).result = .ok files <->
      roots ≠ [] ∧ exists v, (d.visitRoots roots).result = .ok v ∧ files = d.fileSet v := by
  unfold run
  cases roots with
  | nil =>
      simp [Logged.fail]
  | cons root others =>
      rw [List.isEmpty_cons, if_neg Bool.false_ne_true, Logged.result_bind]
      cases hvisit : (d.visitRoots (root :: others)).result with
      | error e =>
          simp [Except.bind]
      | ok v =>
          simp [Except.bind, Logged.result_bind, Logged.write, eq_comm]

theorem run_of_results {d : Discovery} {roots : List Path} (hne : roots ≠ []) {visits : List Visit}
    (h : roots.map (fun root => (d.visitRoot root).result) = visits.map Except.ok) :
    (d.run roots).result = .ok (d.fileSet (Visit.concat visits)) := by
  rw [run_ok_iff]
  refine ⟨hne, Visit.concat visits, ?_, rfl⟩
  unfold visitRoots
  rw [Visit.sequence_ok_iff]
  refine ⟨visits, ?_, rfl⟩
  rw [List.map_map]
  exact h

theorem exists_result_of_visitRoots {d : Discovery} {roots : List Path} {v : Visit}
    (h : (d.visitRoots roots).result = .ok v) {root : Path} (hroot : root ∈ roots) :
    exists w, (d.visitRoot root).result = .ok w :=
  Visit.exists_result_of_sequence h (List.mem_map_of_mem hroot)

theorem mem_files_of_visitRoots {d : Discovery} {roots : List Path} {v : Visit}
    (h : (d.visitRoots roots).result = .ok v) {f : Path} :
    f ∈ v.files <-> exists root, root ∈ roots ∧ Finds d root f := by
  unfold visitRoots at h
  rw [Visit.mem_files_of_sequence h]
  constructor
  · rintro ⟨x, hx, w, hw, hf⟩
    rcases List.mem_map.mp hx with ⟨root, hroot, heq⟩
    rw [<- heq] at hw
    exact ⟨root, hroot, (mem_files_of_visitRoot hw).mp hf⟩
  · rintro ⟨root, hroot, hfinds⟩
    rcases exists_result_of_visitRoots h hroot with ⟨w, hw⟩
    exact ⟨d.visitRoot root, List.mem_map_of_mem hroot, w, hw,
      (mem_files_of_visitRoot hw).mpr hfinds⟩

theorem ne_nil_of_run {d : Discovery} {roots files : List Path}
    (h : (d.run roots).result = .ok files) {root : Path} (hroot : root ∈ roots) : root ≠ [] := by
  rcases run_ok_iff.mp h with ⟨_, v, hvisit, _⟩
  rcases exists_result_of_visitRoots hvisit hroot with ⟨w, hw⟩
  exact ne_nil_of_visitRoot hw

theorem exists_root_of_run {d : Discovery} {roots files : List Path}
    (h : (d.run roots).result = .ok files) {f : Path} (hf : f ∈ files) :
    exists root, root ∈ roots ∧ root ≠ [] ∧ Finds d root f := by
  rcases run_ok_iff.mp h with ⟨_, v, hvisit, hfiles⟩
  rw [hfiles] at hf
  rcases (mem_files_of_visitRoots hvisit).mp (mem_fileSet.mp hf).1 with ⟨root, hroot, hfinds⟩
  exact ⟨root, hroot, ne_nil_of_run h hroot, hfinds⟩

end Discovery
end CamelSpell
