import CamelSpell.Proofs.Discovery.FoundPath

/-!
# What a walk looks into

A walk lists a directory and the directories below it that are not excluded, each of them once, and
fails only if the path of one of them is too long.  The directories that it leaves out are excluded
by their own paths.
-/

namespace CamelSpell

open CamelSpell.Path Log

namespace Tree

theorem WellFormed.lookup_of_mem {entries : List (Name × Tree)}
    (h : WellFormed (Tree.directory entries)) {name : Name} {t : Tree}
    (hmem : (name, t) ∈ entries) : entries.lookup name = some t := by
  cases h with
  | directory entries distinct isEntry below =>
      rcases List.append_of_mem hmem with ⟨before, after, hsplit⟩
      rw [hsplit, List.map_append, List.map_cons] at distinct
      rw [List.lookup_eq_some_iff]
      refine ⟨before, after, hsplit, ?_⟩
      intro e he
      rw [bne_iff_ne]
      intro heq
      exact (List.nodup_append.mp distinct).2.2 e.1 (List.mem_map_of_mem he) name
        List.mem_cons_self heq.symm

theorem exists_entries_of_kind {t : Tree} (h : t.kind = .directory) :
    exists entries, t = directory entries := by
  cases t with
  | directory entries => exact ⟨entries, rfl⟩
  | file bytes => cases h
  | link target => cases h
  | device => cases h
  | damaged => cases h

end Tree

namespace Visit

def ofResult : Except Failure Visit -> Visit
  | .ok v => v
  | .error _ => empty

theorem eq_ofResult {result : Except Failure Visit} (h : exists v, result = .ok v) :
    result = .ok (ofResult result) := by
  rcases h with ⟨v, hv⟩
  rw [hv]
  rfl

end Visit

namespace Discovery

/-!
# Places below a directory

A place below a directory is given by the names on the way.  Joined name by name or all at once,
its path is the same.
-/

def below (p : Path) (ns : List Name) : Path :=
  ns.foldl Path.join p

section Below

variable {p : Path} {ns : List Name}

theorem below_cons (p : Path) (n : Name) (ns : List Name) :
    below p (n :: ns) = below (Path.join p n) ns :=
  rfl

theorem normalNames_below (hp : p ≠ []) (hns : forall n, n ∈ ns -> IsEntryName n) :
    normalNames (below p ns) = normalNames p ++ ns := by
  induction ns generalizing p with
  | nil =>
      exact (List.append_nil _).symm
  | cons n rest ih =>
      have hn := hns n List.mem_cons_self
      rw [below_cons, ih (join_ne_nil hp hn) fun m hm => hns m (List.mem_cons_of_mem n hm),
        normalNames_join hp hn, List.append_assoc, List.singleton_append]

theorem resolveNames_below (directory : Path) (hp : p ≠ [])
    (hns : forall n, n ∈ ns -> IsEntryName n) :
    Path.resolveNames directory (below p ns) = Path.resolveNames directory p ++ ns := by
  induction ns generalizing p with
  | nil =>
      exact (List.append_nil _).symm
  | cons n rest ih =>
      have hn := hns n List.mem_cons_self
      rw [below_cons, ih (join_ne_nil hp hn) fun m hm => hns m (List.mem_cons_of_mem n hm),
        resolveNames_join directory hp hn, List.append_assoc, List.singleton_append]

theorem below_eq_join (hp : p ≠ []) (hne : ns ≠ []) (hns : forall n, n ∈ ns -> IsEntryName n) :
    below p ns = Path.join p (joinNames ns) := by
  induction ns generalizing p with
  | nil =>
      exact absurd rfl hne
  | cons n rest ih =>
      have hn := hns n List.mem_cons_self
      by_cases hempty : rest = []
      · rw [hempty]
        rfl
      · have hrest : forall m, m ∈ rest -> IsEntryName m :=
          fun m hm => hns m (List.mem_cons_of_mem n hm)
        have hq := join_ne_nil hp hn
        rw [below_cons, ih hq hempty hrest, join_entryNames hq hempty hrest,
          join_entryNames hp hne hns, isAbsolute_join hp hn, normalNames_join hp hn,
          List.append_assoc, List.singleton_append]

end Below

/-- Names lead from a directory to an entry, and nothing on the way to it is excluded. -/
structure Leads (d : Discovery) (p : Path) (t : Tree) (ns : List Name) (c : Tree) : Prop where
  found : t.at? ns = some c
  kept : forall ms, ms <+: ns -> ms ≠ [] -> d.excludes (below p ms) = false

section Leads

variable {d : Discovery} {p : Path} {t c : Tree} {n : Name} {ns : List Name}

theorem leads_nil_iff : Leads d p t [] c <-> t = c := by
  constructor
  · intro h
    exact Option.some.inj h.found
  · rintro rfl
    refine ⟨rfl, ?_⟩
    intro ms hms hne
    exact absurd (List.prefix_nil.mp hms) hne

theorem leads_cons_iff :
    Leads d p t (n :: ns) c <->
      exists entries child, t = .directory entries ∧ entries.lookup n = some child ∧
        d.excludes (Path.join p n) = false ∧ Leads d (Path.join p n) child ns c := by
  constructor
  · intro h
    have hfound := h.found
    rw [Tree.at?_cons, Option.bind_eq_some_iff] at hfound
    rcases hfound with ⟨child, hchild, hrest⟩
    unfold Tree.child? at hchild
    rcases Option.bind_eq_some_iff.mp hchild with ⟨entries, hentries, hlookup⟩
    refine ⟨entries, child, Tree.eq_directory_of_entries? hentries, hlookup, ?_, hrest, ?_⟩
    · exact h.kept [n] (List.prefix_append [n] ns) (List.cons_ne_nil n [])
    · intro ms hms _
      exact h.kept (n :: ms) (List.cons_prefix_cons.mpr ⟨rfl, hms⟩) (List.cons_ne_nil n ms)
  · rintro ⟨entries, child, rfl, hlookup, hkept, hrest⟩
    refine ⟨?_, ?_⟩
    · rw [Tree.at?_cons]
      unfold Tree.child? Tree.entries?
      rw [Option.bind_some, hlookup]
      exact hrest.found
    · intro ms hms hne
      rcases List.prefix_cons_iff.mp hms with hnil | ⟨others, heq, hothers⟩
      · exact absurd hnil hne
      · rw [heq]
        by_cases hempty : others = []
        · rw [hempty]
          exact hkept
        · exact hrest.kept others hothers hempty

theorem Leads.isEntry (h : Leads d p t ns c) (ht : t.WellFormed) {n : Name} (hn : n ∈ ns) :
    IsEntryName n :=
  ht.isEntry_of_at? h.found hn

theorem Leads.kind_of_directory (h : Leads d p t ns c) (hkind : c.kind = .directory) :
    t.kind = .directory := by
  cases ns with
  | nil =>
      rw [leads_nil_iff.mp h]
      exact hkind
  | cons n rest =>
      rcases leads_cons_iff.mp h with ⟨entries, _, heq, _⟩
      rw [heq]
      rfl

theorem reaches_iff (ht : t.WellFormed) {f : Path} :
    Reaches d p t f <->
      exists ns c, ns ≠ [] ∧ Leads d p t ns c ∧ c.kind = .file ∧ f = below p ns := by
  constructor
  · intro h
    induction h with
    | @file p entries name c mem kept isFile =>
        refine ⟨[name], c, List.cons_ne_nil name [], ?_, isFile, rfl⟩
        exact leads_cons_iff.mpr
          ⟨entries, c, rfl, ht.lookup_of_mem mem, kept, leads_nil_iff.mpr rfl⟩
    | @deeper p entries name child f mem kept rest ih =>
        rcases ih (ht.of_mem mem) with ⟨ns, c, _, hleads, hfile, hf⟩
        refine ⟨name :: ns, c, List.cons_ne_nil name ns, ?_, hfile, hf⟩
        exact leads_cons_iff.mpr ⟨entries, child, rfl, ht.lookup_of_mem mem, kept, hleads⟩
  · rintro ⟨ns, c, hne, hleads, hfile, hf⟩
    induction ns generalizing p t with
    | nil =>
        exact absurd rfl hne
    | cons n rest ih =>
        rcases leads_cons_iff.mp hleads with ⟨entries, child, rfl, hlookup, hkept, hrest⟩
        have hmem := Tree.mem_of_lookup hlookup
        by_cases hempty : rest = []
        · subst hempty
          cases leads_nil_iff.mp hrest
          rw [hf]
          exact Reaches.file hmem hkept hfile
        · exact Reaches.deeper hmem hkept (ih (ht.of_mem hmem) hempty hrest hf)

end Leads

/-!
# Listing

A listed directory fails only where one of its entries is looked into and that fails; and it
brings, besides itself, what its entries bring.
-/

def byName (entries : List (Name × Tree)) : List (Name × Tree) :=
  entries.mergeSort fun a b => Unicode.unitsLe (Unicode.units a.1) (Unicode.units b.1)

def visitOf (d : Discovery) (p : Path) (look : Name × Tree -> Logged Failure Visit)
    (e : Name × Tree) : Logged Failure Visit :=
  d.visitEntry (Path.join p e.1) e.2.kind fun _ => look e

def listing (p : Path) (visits : List Visit) : Visit :=
  { Visit.concat visits with listed := p :: (Visit.concat visits).listed }

section Listing

variable {d : Discovery} {p : Path} {look : Name × Tree -> Logged Failure Visit}
  {e : Name × Tree} {entries : List (Name × Tree)} {v w : Visit}

theorem mem_byName : e ∈ byName entries <-> e ∈ entries :=
  List.mem_mergeSort

theorem inOrder_visitsOf :
    inOrder (visitsOf d p look entries) = (byName entries).map (visitOf d p look) := by
  have hsort : (byName entries).map (fun e => (e.1, visitOf d p look e)) =
      (visitsOf d p look entries).mergeSort fun a b =>
        Unicode.unitsLe (Unicode.units a.1) (Unicode.units b.1) :=
    List.map_mergeSort fun _ _ _ _ => rfl
  unfold inOrder
  rw [<- hsort, List.map_map]
  rfl

theorem visitOf_ok_iff :
    (visitOf d p look e).result = .ok w <->
      if d.excludes (Path.join p e.1) then
        w = ⟨[], if e.2.kind = .directory then
          [Path.resolveNames d.fileSystem.workingDirectory (Path.join p e.1)] else [], []⟩
      else
        (e.2.kind = .file ∧ w = .file (Path.join p e.1)) ∨ (e.2.kind = .other ∧ w = .empty) ∨
          (e.2.kind = .directory ∧ (look e).result = .ok w) := by
  unfold visitOf visitEntry
  cases d.excludes (Path.join p e.1) with
  | true =>
      simp only [if_true]
      unfold exclude
      rw [Logged.result_bind]
      constructor
      · intro h
        cases h
        rfl
      · intro h
        rw [h]
        rfl
  | false =>
      cases e.2.kind with
      | file =>
          simp [eq_comm]
      | directory =>
          simp
      | other =>
          simp [eq_comm]

theorem exists_visitOf_iff :
    (exists w, (visitOf d p look e).result = .ok w) <->
      (d.excludes (Path.join p e.1) = false -> e.2.kind = .directory ->
        exists w, (look e).result = .ok w) := by
  simp only [visitOf_ok_iff]
  cases d.excludes (Path.join p e.1) with
  | true =>
      simp
  | false =>
      cases e.2.kind <;> simp

theorem visitListed_ok_iff :
    (visitListed p (visitsOf d p look entries)).result = .ok v <->
      exists brought : Name × Tree -> Visit,
        (forall e, e ∈ entries -> (visitOf d p look e).result = .ok (brought e)) ∧
          v = listing p ((byName entries).map brought) := by
  constructor
  · intro h
    rcases sequence_of_visitListed h with ⟨whole, hwhole, hv⟩
    rw [inOrder_visitsOf] at hwhole
    have hbrought : forall e, e ∈ entries ->
        (visitOf d p look e).result = .ok (Visit.ofResult (visitOf d p look e).result) :=
      fun e he => Visit.eq_ofResult
        (Visit.exists_result_of_sequence hwhole (List.mem_map_of_mem (mem_byName.mpr he)))
    rcases Visit.sequence_ok_iff.mp hwhole with ⟨visits, hvisits, hconcat⟩
    have hall : visits =
        (byName entries).map fun e => Visit.ofResult (visitOf d p look e).result := by
      apply List.map_injective_iff.mpr (fun _ _ => Except.ok.inj)
      rw [<- hvisits, List.map_map, List.map_map]
      apply List.map_congr_left
      intro e he
      exact hbrought e (mem_byName.mp he)
    refine ⟨_, hbrought, ?_⟩
    rw [hv, hconcat, hall]
    rfl
  · rintro ⟨brought, hbrought, hv⟩
    have hwhole : (Visit.sequence (inOrder (visitsOf d p look entries))).result =
        .ok (Visit.concat ((byName entries).map brought)) := by
      rw [inOrder_visitsOf]
      refine Visit.sequence_ok_iff.mpr ⟨_, ?_, rfl⟩
      rw [List.map_map, List.map_map]
      apply List.map_congr_left
      intro e he
      exact hbrought e (mem_byName.mp he)
    unfold visitListed
    rw [Logged.result_bind, hwhole, hv]
    rfl

theorem exists_visitListed_iff :
    (exists v, (visitListed p (visitsOf d p look entries)).result = .ok v) <->
      forall e, e ∈ entries -> d.excludes (Path.join p e.1) = false -> e.2.kind = .directory ->
        exists w, (look e).result = .ok w := by
  constructor
  · rintro ⟨v, hv⟩ e he
    rcases visitListed_ok_iff.mp hv with ⟨brought, hbrought, _⟩
    exact exists_visitOf_iff.mp ⟨_, hbrought e he⟩
  · intro h
    have hvisits : forall e, e ∈ entries -> exists w, (visitOf d p look e).result = .ok w := by
      intro e he
      exact exists_visitOf_iff.mpr (h e he)
    exact ⟨_, visitListed_ok_iff.mpr ⟨_, fun e he => Visit.eq_ofResult (hvisits e he), rfl⟩⟩

theorem mem_listed_listing {brought : Name × Tree -> Visit} {q : Path} :
    q ∈ (listing p ((byName entries).map brought)).listed <->
      q = p ∨ exists e, e ∈ entries ∧ q ∈ (brought e).listed := by
  unfold listing Visit.concat
  rw [List.mem_cons, List.mem_flatMap]
  simp [mem_byName]

theorem mem_excluded_listing {brought : Name × Tree -> Visit} {directory : List Name} :
    directory ∈ (listing p ((byName entries).map brought)).excluded <->
      exists e, e ∈ entries ∧ directory ∈ (brought e).excluded := by
  unfold listing Visit.concat
  rw [List.mem_flatMap]
  simp [mem_byName]

theorem mem_listed_of_visitOf (h : (visitOf d p look e).result = .ok w) {q : Path} :
    q ∈ w.listed <-> d.excludes (Path.join p e.1) = false ∧ e.2.kind = .directory ∧
      (look e).result = .ok w ∧ q ∈ w.listed := by
  rw [visitOf_ok_iff] at h
  cases hexcluded : d.excludes (Path.join p e.1) with
  | true =>
      rw [hexcluded, if_pos rfl] at h
      rw [h]
      simp
  | false =>
      rw [hexcluded, if_neg Bool.false_ne_true] at h
      rcases h with ⟨_, hw⟩ | ⟨_, hw⟩ | ⟨hkind, hlook⟩
      · rw [hw]
        simp [Visit.file]
      · rw [hw]
        simp [Visit.empty]
      · simp [hkind, hlook]

theorem mem_excluded_of_visitOf (h : (visitOf d p look e).result = .ok w) {ns : List Name} :
    ns ∈ w.excluded <-> e.2.kind = .directory ∧
      ((d.excludes (Path.join p e.1) = true ∧
          ns = Path.resolveNames d.fileSystem.workingDirectory (Path.join p e.1)) ∨
        (d.excludes (Path.join p e.1) = false ∧
          exists w, (look e).result = .ok w ∧ ns ∈ w.excluded)) := by
  rw [visitOf_ok_iff] at h
  cases hexcluded : d.excludes (Path.join p e.1) with
  | true =>
      rw [hexcluded, if_pos rfl] at h
      rw [h]
      cases e.2.kind <;> simp
  | false =>
      rw [hexcluded, if_neg Bool.false_ne_true] at h
      rcases h with ⟨hkind, hw⟩ | ⟨hkind, hw⟩ | ⟨hkind, hlook⟩
      · simp [hw, hkind, Visit.file]
      · simp [hw, hkind, Visit.empty]
      · simp [hkind, hlook]

end Listing

/-!
# Walks

A walk fails only at a path that is too long.  It lists the directory and those that it leads to,
each once, and leaves out directories that are excluded by their own paths.
-/

section Walk

variable {d : Discovery} {p : Path} {t : Tree} {entries : List (Name × Tree)} {v : Visit}

theorem kind_of_walk (h : (walk d p t).result = .ok v) : t.kind = .directory := by
  cases t with
  | directory entries => rfl
  | file bytes => cases h
  | link target => cases h
  | device => cases h
  | damaged => cases h

theorem walk_directory_ok_iff :
    (walk d p (.directory entries)).result = .ok v <->
      FileSystem.byteLength p ≤ FileSystem.pathLimit ∧
        exists brought : Name × Tree -> Visit,
          (forall e, e ∈ entries ->
            (visitOf d p (fun e => walk d (Path.join p e.1) e.2) e).result = .ok (brought e)) ∧
          v = listing p ((byName entries).map brought) := by
  rw [walk]
  by_cases hlength : FileSystem.pathLimit < FileSystem.byteLength p
  · rw [if_pos hlength]
    constructor
    · intro h
      cases h
    · rintro ⟨hshort, _⟩
      exact absurd hlength (Nat.not_lt_of_le hshort)
  · rw [if_neg hlength, walkEntries_eq_visitsOf, visitListed_ok_iff,
      and_iff_right (Nat.le_of_not_lt hlength)]

theorem exists_walk_directory_iff :
    (exists v, (walk d p (.directory entries)).result = .ok v) <->
      FileSystem.byteLength p ≤ FileSystem.pathLimit ∧
        forall e, e ∈ entries -> d.excludes (Path.join p e.1) = false -> e.2.kind = .directory ->
          exists w, (walk d (Path.join p e.1) e.2).result = .ok w := by
  rw [walk]
  by_cases hlength : FileSystem.pathLimit < FileSystem.byteLength p
  · rw [if_pos hlength]
    constructor
    · rintro ⟨v, hv⟩
      cases hv
    · rintro ⟨hshort, _⟩
      exact absurd hlength (Nat.not_lt_of_le hshort)
  · rw [if_neg hlength, walkEntries_eq_visitsOf, exists_visitListed_iff,
      and_iff_right (Nat.le_of_not_lt hlength)]

theorem exists_walk_iff (ht : t.WellFormed) :
    (exists v, (walk d p t).result = .ok v) <->
      t.kind = .directory ∧ forall ns c, Leads d p t ns c -> c.kind = .directory ->
        FileSystem.byteLength (below p ns) ≤ FileSystem.pathLimit := by
  induction t using Tree.inductionOnEntries generalizing p with
  | leaf t hleaf =>
      have hkind : t.kind ≠ .directory := by
        intro hkind
        rcases Tree.exists_entries_of_kind hkind with ⟨entries, heq⟩
        exact hleaf entries heq
      constructor
      · rintro ⟨v, h⟩
        exact absurd (kind_of_walk h) hkind
      · rintro ⟨hdirectory, _⟩
        exact absurd hdirectory hkind
  | directory entries ih =>
      rw [exists_walk_directory_iff]
      constructor
      · rintro ⟨hlength, hentries⟩
        refine ⟨rfl, ?_⟩
        intro ns c hleads hkind
        cases ns with
        | nil =>
            exact hlength
        | cons n rest =>
            rcases leads_cons_iff.mp hleads with ⟨_, child, heq, hlookup, hkept, hrest⟩
            cases heq
            have hmem := Tree.mem_of_lookup hlookup
            have hwalk := hentries _ hmem hkept (hrest.kind_of_directory hkind)
            exact ((ih _ hmem (ht.of_mem hmem)).mp hwalk).2 rest c hrest hkind
      · rintro ⟨_, hlengths⟩
        refine ⟨hlengths [] (.directory entries) (leads_nil_iff.mpr rfl) rfl, ?_⟩
        intro e he hkept hkind
        refine (ih e he (ht.of_mem he)).mpr ⟨hkind, ?_⟩
        intro ns c hleads hdirectory
        exact hlengths (e.1 :: ns) c (leads_cons_iff.mpr
          ⟨entries, e.2, rfl, ht.lookup_of_mem he, hkept, hleads⟩) hdirectory

theorem mem_files_of_walk_iff (ht : t.WellFormed) (h : (walk d p t).result = .ok v) {f : Path} :
    f ∈ v.files <-> exists ns c, ns ≠ [] ∧ Leads d p t ns c ∧ c.kind = .file ∧ f = below p ns := by
  rw [mem_files_of_walk h, reaches_iff ht]

theorem mem_listed_of_walk (ht : t.WellFormed) (h : (walk d p t).result = .ok v) {q : Path} :
    q ∈ v.listed <-> exists ns c, Leads d p t ns c ∧ c.kind = .directory ∧ q = below p ns := by
  induction t using Tree.inductionOnEntries generalizing p v with
  | leaf t hleaf =>
      rcases Tree.exists_entries_of_kind (kind_of_walk h) with ⟨entries, heq⟩
      exact absurd heq (hleaf entries)
  | directory entries ih =>
      rcases walk_directory_ok_iff.mp h with ⟨_, brought, hbrought, hv⟩
      rw [hv, mem_listed_listing]
      constructor
      · rintro (hself | ⟨e, he, hq⟩)
        · exact ⟨[], .directory entries, leads_nil_iff.mpr rfl, rfl, hself⟩
        · rcases (mem_listed_of_visitOf (hbrought e he)).mp hq with ⟨hkept, _, hwalk, _⟩
          rcases (ih e he (ht.of_mem he) hwalk).mp hq with ⟨ns, c, hleads, hkind, heq⟩
          exact ⟨e.1 :: ns, c, leads_cons_iff.mpr
            ⟨entries, e.2, rfl, ht.lookup_of_mem he, hkept, hleads⟩, hkind, heq⟩
      · rintro ⟨ns, c, hleads, hkind, hq⟩
        cases ns with
        | nil =>
            exact Or.inl hq
        | cons n rest =>
            rcases leads_cons_iff.mp hleads with ⟨_, child, heq, hlookup, hkept, hrest⟩
            cases heq
            have hmem := Tree.mem_of_lookup hlookup
            have hvisit := hbrought _ hmem
            rw [visitOf_ok_iff, hkept, if_neg Bool.false_ne_true] at hvisit
            have hdirectory := hrest.kind_of_directory hkind
            rcases hvisit with ⟨hfile, _⟩ | ⟨hother, _⟩ | ⟨_, hwalk⟩
            · rw [hdirectory] at hfile
              cases hfile
            · rw [hdirectory] at hother
              cases hother
            · exact Or.inr ⟨(n, child), hmem,
                (ih _ hmem (ht.of_mem hmem) hwalk).mpr ⟨rest, c, hrest, hkind, hq⟩⟩

theorem excludes_of_mem_excluded (ht : t.WellFormed) (h : (walk d p t).result = .ok v)
    {directory : List Name} (hmem : directory ∈ v.excluded) :
    exists ns, ns ≠ [] ∧ (forall n, n ∈ ns -> IsEntryName n) ∧ d.excludes (below p ns) = true ∧
      directory = Path.resolveNames d.fileSystem.workingDirectory (below p ns) := by
  induction t using Tree.inductionOnEntries generalizing p v with
  | leaf t hleaf =>
      rcases Tree.exists_entries_of_kind (kind_of_walk h) with ⟨entries, heq⟩
      exact absurd heq (hleaf entries)
  | directory entries ih =>
      rcases walk_directory_ok_iff.mp h with ⟨_, brought, hbrought, hv⟩
      rw [hv, mem_excluded_listing] at hmem
      rcases hmem with ⟨e, he, hin⟩
      have hname := ht.isEntry_of_mem he
      rcases (mem_excluded_of_visitOf (hbrought e he)).mp hin with
        ⟨_, ⟨hexcluded, hdirectory⟩ | ⟨_, _, hwalk, hbelow⟩⟩
      · refine ⟨[e.1], List.cons_ne_nil e.1 [], ?_, hexcluded, hdirectory⟩
        intro n hn
        rw [List.mem_singleton.mp hn]
        exact hname
      · rcases ih e he (ht.of_mem he) hwalk hbelow with ⟨ns, _, hns, hexcluded, hdirectory⟩
        refine ⟨e.1 :: ns, List.cons_ne_nil e.1 ns, ?_, hexcluded, hdirectory⟩
        intro n hn
        rcases List.mem_cons.mp hn with hfirst | hrest
        · rw [hfirst]
          exact hname
        · exact hns n hrest

theorem normalNames_of_mem_listed (ht : t.WellFormed) (hp : p ≠ [])
    (h : (walk d p t).result = .ok v) {q : Path} (hq : q ∈ v.listed) :
    exists ns, normalNames q = normalNames p ++ ns := by
  rcases (mem_listed_of_walk ht h).mp hq with ⟨ns, c, hleads, _, heq⟩
  refine ⟨ns, ?_⟩
  rw [heq, normalNames_below hp fun n hn => hleads.isEntry ht hn]

theorem nodup_listed_of_walk (ht : t.WellFormed) (hp : p ≠ []) (h : (walk d p t).result = .ok v) :
    v.listed.Nodup := by
  induction t using Tree.inductionOnEntries generalizing p v with
  | leaf t hleaf =>
      rcases Tree.exists_entries_of_kind (kind_of_walk h) with ⟨entries, heq⟩
      exact absurd heq (hleaf entries)
  | directory entries ih =>
      rcases walk_directory_ok_iff.mp h with ⟨_, brought, hbrought, hv⟩
      -- what an entry brings has the name of the entry behind those of the directory
      have hnames : forall e, e ∈ entries -> forall q, q ∈ (brought e).listed ->
          exists ns, normalNames q = normalNames p ++ e.1 :: ns := by
        intro e he q hq
        have hn := ht.isEntry_of_mem he
        rcases (mem_listed_of_visitOf (hbrought e he)).mp hq with ⟨_, _, hwalk, _⟩
        rcases normalNames_of_mem_listed (ht.of_mem he) (join_ne_nil hp hn) hwalk hq with ⟨ns, hns⟩
        refine ⟨ns, ?_⟩
        rw [hns, normalNames_join hp hn, List.append_assoc, List.singleton_append]
      have hdistinct : ((byName entries).map Prod.fst).Nodup := by
        cases ht with
        | directory entries distinct isEntry below =>
            exact ((List.mergeSort_perm entries _).map Prod.fst).nodup_iff.mpr distinct
      rw [hv]
      show (p :: ((byName entries).map brought).flatMap Visit.listed).Nodup
      rw [List.nodup_cons, List.flatMap_map]
      constructor
      · intro hmem
        rcases List.mem_flatMap.mp hmem with ⟨e, he, hq⟩
        rcases hnames e (mem_byName.mp he) p hq with ⟨ns, heq⟩
        have hlength := congrArg List.length heq
        rw [List.length_append, List.length_cons] at hlength
        omega
      · apply List.pairwise_flatMap.mpr
        constructor
        · intro e hmem
          have he := mem_byName.mp hmem
          by_cases hempty : (brought e).listed = []
          · rw [hempty]
            exact List.nodup_nil
          · rcases List.exists_mem_of_ne_nil _ hempty with ⟨q, hq⟩
            rcases (mem_listed_of_visitOf (hbrought e he)).mp hq with ⟨_, _, hwalk, _⟩
            exact ih e he (ht.of_mem he) (join_ne_nil hp (ht.isEntry_of_mem he)) hwalk
        · refine (List.pairwise_map.mp hdistinct).imp_of_mem ?_
          intro a b ha hb hne q hq q' hq' heq
          rcases hnames a (mem_byName.mp ha) q hq with ⟨ns, hns⟩
          rcases hnames b (mem_byName.mp hb) q' hq' with ⟨ms, hms⟩
          rw [<- heq, hns] at hms
          exact hne (List.cons.inj (List.append_cancel_left hms)).1

end Walk

end Discovery
end CamelSpell
