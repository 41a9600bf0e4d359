import CamelSpell.Proofs.Discovery.RootSet
import CamelSpell.Proofs.Discovery.WalkExact

/-!
# When discovery fails

Discovery fails for three reasons: a root is blank, there is nothing where a root leads to, or a
directory that is looked into cannot be listed.  Which directories are looked into can be said by
paths and by what the file system lists for them.
-/

namespace CamelSpell

open CamelSpell.Path Log

/-- The names of a file system are such as one can hold, and no two entries of a directory share
one. -/
structure FileSystem.IsProper (fs : FileSystem) : Prop where
  wellFormed : fs.root.WellFormed
  storable : forall ns t, fs.root.at? ns = some t -> forall n, n ∈ ns -> FileSystem.IsStorable n

namespace Discovery

/-- The directories that the visit of a root looks into: the root itself, and every entry of one of
them that is a directory and not excluded. -/
inductive LooksInto (d : Discovery) (root : Path) : Path -> Prop where
  | root (kept : IsKept d root) (isDirectory : d.fileSystem.kind root = .ok .directory) :
      LooksInto d root root
  | entry {p : Path} {entries : List (Name × Tree)} {name : Name} {t : Tree}
      (looked : LooksInto d root p) (listed : d.fileSystem.list p = .ok entries)
      (mem : (name, t) ∈ entries) (entryKept : d.excludes (Path.join p name) = false)
      (isDirectory : t.kind = .directory) : LooksInto d root (Path.join p name)

theorem LooksInto.root_kept {d : Discovery} {root p : Path} (h : LooksInto d root p) :
    IsKept d root ∧ d.fileSystem.kind root = .ok .directory := by
  induction h with
  | root kept isDirectory => exact ⟨kept, isDirectory⟩
  | entry looked listed mem entryKept isDirectory ih => exact ih

section Listed

variable {fs : FileSystem} {p : Path} {entries : List (Name × Tree)} {name : Name} {t : Tree}

theorem ne_nil_of_list (h : fs.list p = .ok entries) : p ≠ [] :=
  (FileSystem.locate_ok_iff.mp (FileSystem.list_ok_iff.mp h)).2.1

theorem isEntryName_of_list (hfs : fs.IsProper) (h : fs.list p = .ok entries)
    (hmem : (name, t) ∈ entries) : IsEntryName name :=
  (FileSystem.wellFormed_of_list hfs.wellFormed h).isEntry_of_mem hmem

theorem isStorable_of_list (hfs : fs.IsProper) (h : fs.list p = .ok entries)
    (hmem : (name, t) ∈ entries) : FileSystem.IsStorable name := by
  rcases FileSystem.follows_of_locate (FileSystem.list_ok_iff.mp h) with ⟨_, reached, hfollows⟩
  have hlookup := (FileSystem.wellFormed_of_list hfs.wellFormed h).lookup_of_mem hmem
  have hfound : fs.root.at? (reached.reverse ++ [name]) = some t := by
    rw [Tree.at?_append, hfollows.at?]
    show (Tree.directory entries).at? [name] = some t
    rw [Tree.at?_cons]
    unfold Tree.child? Tree.entries?
    rw [Option.bind_some, hlookup]
    rfl
  exact hfs.storable _ _ hfound name (List.mem_append_right _ List.mem_cons_self)

theorem spellsOut_join {q : Path} (hq : q ≠ []) (hname : IsEntryName name)
    (h : fs.list (Path.join q name) = .ok entries) :
    FileSystem.SpellsOut fs (Path.join q name) entries (Path.join q name) := by
  refine ⟨h, rfl, ?_⟩
  rw [normalNames_join hq hname, join_entryName hq hname]
  apply names_spell
  intro n hn
  exact isName_of_mem_straight (straight_append_entryName q hname) (List.mem_reverse.mpr hn)

theorem list_join (hfs : fs.IsProper) (h : FileSystem.SpellsOut fs p entries p)
    (hmem : (name, t) ∈ entries) (hkind : t.kind = .directory)
    (hlength : FileSystem.byteLength (Path.join p name) ≤ FileSystem.pathLimit) :
    exists below, t = .directory below ∧ fs.list (Path.join p name) = .ok below := by
  rcases Tree.exists_entries_of_kind hkind with ⟨below, rfl⟩
  refine ⟨below, rfl, FileSystem.list_ok_iff.mpr ?_⟩
  apply h.locate_join (ne_nil_of_list h.list_eq) (isEntryName_of_list hfs h.list_eq hmem)
    (isStorable_of_list hfs h.list_eq hmem)
    ((FileSystem.wellFormed_of_list hfs.wellFormed h.list_eq).lookup_of_mem hmem)
  · rintro target heq
    cases heq
  · exact hlength

end Listed

section Visits

variable {d : Discovery} {p root : Path} {look : Name × Tree -> Logged Failure Visit}
  {entries : List (Name × Tree)}

theorem exists_walkRoot_iff :
    (exists v, (d.walkRoot root).result = .ok v) <->
      exists entries, d.fileSystem.list root = .ok entries ∧
        forall e, e ∈ entries -> d.excludes (Path.join root e.1) = false ->
          e.2.kind = .directory -> exists w, (d.walkFrom (Path.join root e.1)).result = .ok w := by
  unfold walkRoot
  cases d.fileSystem.list root with
  | error e => simp [abort, Logged.fail]
  | ok entries =>
      simp only [Except.ok.injEq, exists_eq_left']
      exact exists_visitListed_iff

/-!
# What a visit that succeeds has listed

Every directory that a successful visit looks into has been listed, and its path spells out where
it leads.
-/

structure Walked (d : Discovery) (p : Path) (entries : List (Name × Tree)) : Prop where
  spelled : FileSystem.SpellsOut d.fileSystem p entries p
  walked : exists v, (walk d p (.directory entries)).result = .ok v

variable (hfs : d.fileSystem.IsProper) {name : Name} {t : Tree}
include hfs

theorem Walked.entry (h : Walked d p entries) (hmem : (name, t) ∈ entries)
    (hkept : d.excludes (Path.join p name) = false) (hkind : t.kind = .directory) :
    exists below, Walked d (Path.join p name) below := by
  have hwalk := (exists_walk_directory_iff.mp h.walked).2 _ hmem hkept hkind
  rcases Tree.exists_entries_of_kind hkind with ⟨below, rfl⟩
  have hlength := (exists_walk_directory_iff.mp hwalk).1
  rcases list_join hfs h.spelled hmem hkind hlength with ⟨_, heq, hlist⟩
  cases heq
  exact ⟨below, spellsOut_join (ne_nil_of_list h.spelled.list_eq)
    (isEntryName_of_list hfs h.spelled.list_eq hmem) hlist, hwalk⟩

theorem walked_of_walkRoot (hroot : exists v, (d.walkRoot root).result = .ok v)
    (hlist : d.fileSystem.list root = .ok entries) (hmem : (name, t) ∈ entries)
    (hkept : d.excludes (Path.join root name) = false) (hkind : t.kind = .directory) :
    exists below, Walked d (Path.join root name) below := by
  rcases exists_walkRoot_iff.mp hroot with ⟨_, hlist', hentries⟩
  cases hlist.symm.trans hlist'
  rcases hentries _ hmem hkept hkind with ⟨w, hw⟩
  rcases walkFrom_ok_iff.mp hw with ⟨t', hlocate, hwalk⟩
  rcases Tree.exists_entries_of_kind (kind_of_walk hwalk) with ⟨below, rfl⟩
  exact ⟨below, spellsOut_join (ne_nil_of_list hlist) (isEntryName_of_list hfs hlist hmem)
    (FileSystem.list_ok_iff.mpr hlocate), w, hwalk⟩

theorem LooksInto.walked (hroot : exists v, (d.walkRoot root).result = .ok v)
    (h : LooksInto d root p) : exists entries, d.fileSystem.list p = .ok entries ∧
      (p = root ∨ Walked d p entries) := by
  induction h with
  | root kept isDirectory =>
      rcases exists_walkRoot_iff.mp hroot with ⟨entries, hlist, _⟩
      exact ⟨entries, hlist, Or.inl rfl⟩
  | @entry p entries name t looked listed mem entryKept isDirectory ih =>
      have hentry : exists below, Walked d (Path.join p name) below := by
        rcases ih with ⟨_, hlist, rfl | hwalked⟩
        · exact walked_of_walkRoot hfs hroot listed mem entryKept isDirectory
        · cases listed.symm.trans hlist
          exact hwalked.entry hfs mem entryKept isDirectory
      rcases hentry with ⟨below, hbelow⟩
      exact ⟨below, hbelow.spelled.list_eq, Or.inr hbelow⟩

/-!
# What a visit needs

Conversely, nothing else can fail: a visit succeeds if every directory that it looks into can be
listed.
-/

variable (hall : forall q, LooksInto d root q -> exists entries, d.fileSystem.list q = .ok entries)
include hall

theorem exists_walk_of_looksInto (ht : t = .directory entries) (hlooks : LooksInto d root p)
    (hspelled : FileSystem.SpellsOut d.fileSystem p entries p) :
    exists v, (walk d p t).result = .ok v := by
  -- a directory whose path spells it out hands this on to its entries, so `hall` applies to them
  induction t using Tree.inductionOnEntries generalizing p entries with
  | leaf t hleaf => exact absurd ht (hleaf entries)
  | directory entries' ih =>
      cases ht
      have hplace := FileSystem.locate_ok_iff.mp (FileSystem.list_ok_iff.mp hspelled.list_eq)
      refine exists_walk_directory_iff.mpr ⟨hplace.2.2.1, ?_⟩
      intro e he hkept hkind
      have hlooks' := LooksInto.entry hlooks hspelled.list_eq he hkept hkind
      rcases hall _ hlooks' with ⟨below, hlist⟩
      have hlength := (FileSystem.locate_ok_iff.mp (FileSystem.list_ok_iff.mp hlist)).2.2.1
      rcases list_join hfs hspelled he hkind hlength with ⟨_, heq, hlist'⟩
      cases hlist.symm.trans hlist'
      exact ih e he heq hlooks' (spellsOut_join (ne_nil_of_list hspelled.list_eq)
        (isEntryName_of_list hfs hspelled.list_eq he) hlist)

theorem exists_walkRoot_of_looksInto (hkept : IsKept d root)
    (hkind : d.fileSystem.kind root = .ok .directory) :
    exists v, (d.walkRoot root).result = .ok v := by
  have hlooks := LooksInto.root hkept hkind
  rcases hall _ hlooks with ⟨entries, hlist⟩
  refine exists_walkRoot_iff.mpr ⟨entries, hlist, ?_⟩
  intro e he hentry hdirectory
  have hlooks' := LooksInto.entry hlooks hlist he hentry hdirectory
  rcases hall _ hlooks' with ⟨below, hbelow⟩
  rcases exists_walk_of_looksInto hfs hall rfl hlooks' (spellsOut_join (ne_nil_of_list hlist)
    (isEntryName_of_list hfs hlist he) hbelow) with ⟨v, hv⟩
  exact ⟨v, walkFrom_ok_iff.mpr ⟨_, FileSystem.list_ok_iff.mp hbelow, hv⟩⟩

end Visits

/-!
# Reasons

A visit breaks off at a root that is blank or leads nowhere, and at a directory that it looks into
but cannot list.
-/

section Reasons

variable {d : Discovery} {root : Path} {roots : List Path}

/-- Why the visit of a root fails. -/
inductive Breaks (d : Discovery) (root : Path) : Prop where
  | blank (h : root.all Unicode.isBlank = true)
  | missing {e : FileError} (h : d.fileSystem.kind root = .error e)
  | unlisted {p : Path} {e : FileError} (looked : LooksInto d root p)
      (h : d.fileSystem.list p = .error e)

theorem exists_visitRoot_iff :
    (exists v, (d.visitRoot root).result = .ok v) <->
      root.all Unicode.isBlank = false ∧ exists kind, d.fileSystem.kind root = .ok kind ∧
        (IsKept d root -> kind = .directory -> exists v, (d.walkRoot root).result = .ok v) := by
  rw [isKept_iff]
  unfold visitRoot
  cases root.all Unicode.isBlank with
  | true => simp [Logged.fail]
  | false =>
      cases d.fileSystem.kind root with
      | error e => simp [Logged.fail]
      | ok kind =>
          cases d.excludes root || d.hasExcludedAncestor root with
          | true => simp [exclude, Logged.result_bind, Logged.debug, Logged.write, Except.bind]
          | false =>
              cases kind with
              | file => simp
              | directory => simp
              | other => simp [Logged.result_bind, Logged.warn, Logged.write, Except.bind]

theorem exists_visitRoot_iff_not_breaks (hfs : d.fileSystem.IsProper) :
    (exists v, (d.visitRoot root).result = .ok v) <-> ¬ Breaks d root := by
  rw [exists_visitRoot_iff]
  constructor
  · rintro ⟨hblank, kind, hkind, hwalk⟩ hbreaks
    cases hbreaks with
    | blank h =>
        rw [hblank] at h
        cases h
    | missing h => cases hkind.symm.trans h
    | @unlisted p e looked h =>
        rcases looked.root_kept with ⟨hkept, hdirectory⟩
        cases hkind.symm.trans hdirectory
        rcases looked.walked hfs (hwalk hkept rfl) with ⟨entries, hlist, _⟩
        cases hlist.symm.trans h
  · intro h
    have hblank : root.all Unicode.isBlank = false := by
      rw [<- Bool.not_eq_true]
      exact fun hblank => h (Breaks.blank hblank)
    cases hkind : d.fileSystem.kind root with
    | error e => exact absurd (Breaks.missing hkind) h
    | ok kind =>
        refine ⟨hblank, kind, rfl, ?_⟩
        rintro hkept rfl
        refine exists_walkRoot_of_looksInto hfs ?_ hkept hkind
        intro q hq
        cases hlist : d.fileSystem.list q with
        | error e => exact absurd (Breaks.unlisted hq hlist) h
        | ok entries => exact ⟨entries, rfl⟩

/-- Discovery fails if it has no root or if the visit of one of its roots breaks off. -/
theorem run_error_iff (hfs : d.fileSystem.IsProper) :
    (exists e, (d.run roots).result = .error e) <->
      roots = [] ∨ exists root, root ∈ roots ∧ Breaks d root := by
  have hok : (exists files, (d.run roots).result = .ok files) <->
      roots ≠ [] ∧ forall root, root ∈ roots -> ¬ Breaks d root := by
    simp only [run_ok_iff, <- exists_visitRoot_iff_not_breaks hfs, <- exists_visitRoots_iff]
    constructor
    · rintro ⟨files, hne, v, hv, _⟩
      exact ⟨hne, v, hv⟩
    · rintro ⟨hne, v, hv⟩
      exact ⟨_, hne, v, hv, rfl⟩
  have hone : (exists e, (d.run roots).result = .error e) <->
      ¬ exists files, (d.run roots).result = .ok files := by
    cases (d.run roots).result with
    | error e => simp
    | ok files => simp
  rw [hone, hok, Classical.not_and_iff_not_or_not, Classical.not_not]
  simp

end Reasons

end Discovery
end CamelSpell
