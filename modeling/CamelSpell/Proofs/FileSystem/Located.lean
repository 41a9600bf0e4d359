import CamelSpell.Proofs.FileSystem.WellFormed

/-!
# Where paths lead

Following names ends at an entry of the tree.  If the last step asks for a directory, by `.` or `..`
or by a slash at the end, the entry is one; so the path of a file ends with the name of an entry.
-/

namespace CamelSpell

open CamelSpell.Path

namespace FileSystem

/-!
# Following names

Names are followed in three ways: by an entry, by a link, and by a step that stays or goes back.
An entry that is reached by such a step is a directory.
-/

inductive Follows (root : Tree) : Nat -> List Name -> List Name -> List Name × Tree -> Prop
  | done {links place t} (found : root.at? place.reverse = some t) :
      Follows root links place [] (place, t)
  | here {links place rest entries r} (inside : root.at? place.reverse = some (.directory entries))
      (after : Follows root links place rest r) : Follows root links place (Path.here :: rest) r
  | above {links place rest entries r} (inside : root.at? place.reverse = some (.directory entries))
      (after : Follows root links place.tail rest r) :
      Follows root links place (Path.above :: rest) r
  | link {links place name rest entries target r}
      (inside : root.at? place.reverse = some (.directory entries))
      (ne_here : name ≠ Path.here) (ne_above : name ≠ Path.above)
      (found : entries.lookup name = some (.link target))
      (after : Follows root links (if isAbsolute target then [] else place)
        (steps target ++ rest) r) :
      Follows root (links + 1) place (name :: rest) r
  | entry {links place name rest entries c r}
      (inside : root.at? place.reverse = some (.directory entries))
      (ne_here : name ≠ Path.here) (ne_above : name ≠ Path.above)
      (found : entries.lookup name = some c)
      (after : Follows root links (name :: place) rest r) :
      Follows root links place (name :: rest) r

theorem directory_of_entries? {c : Option Tree} {entries : List (Name × Tree)}
    (h : c.bind Tree.entries? = some entries) : c = some (.directory entries) := by
  rcases Option.bind_eq_some_iff.mp h with ⟨t, hc, ht⟩
  rw [hc, Tree.eq_directory_of_entries? ht]

theorem follows_of_follow {root : Tree} {links : Nat} {place names : List Name}
    {r : List Name × Tree} (h : follow root links place names = .ok r) :
    Follows root links place names r := by
  -- a link takes one from `links` and may add names, any other step takes one name away
  induction links using Nat.strongRecOn generalizing place names with
  | ind links ihLinks =>
      induction names generalizing place with
      | nil =>
          rw [follow] at h
          cases hplace : root.at? place.reverse with
          | none =>
              rw [hplace] at h
              cases h
          | some t =>
              rw [hplace] at h
              cases h
              exact Follows.done hplace
      | cons name rest ih =>
          rw [follow] at h
          cases hentries : (root.at? place.reverse).bind Tree.entries? with
          | none =>
              rw [hentries] at h
              cases h
          | some entries =>
              have hinside := directory_of_entries? hentries
              rw [hentries] at h
              by_cases hhere : name = Path.here
              · simp only [hhere, if_true] at h
                rw [hhere]
                exact Follows.here hinside (ih h)
              by_cases habove : name = Path.above
              · subst habove
                simp only [hhere, if_true, if_false] at h
                exact Follows.above hinside (ih h)
              by_cases hlength : nameLimit < byteLength name
              · simp only [hhere, habove, hlength, if_true, if_false] at h
                cases h
              simp only [hhere, habove, hlength, if_false] at h
              split at h
              · cases h
              · rename_i target hfound
                cases links with
                | zero =>
                    cases h
                | succ links =>
                    exact Follows.link hinside hhere habove hfound
                      (ihLinks links (Nat.lt_succ_self links) h)
              · rename_i c hlink hfound
                exact Follows.entry hinside hhere habove hfound (ih h)

theorem Follows.at? {root : Tree} {links : Nat} {place names : List Name} {r : List Name × Tree}
    (h : Follows root links place names r) : root.at? r.1.reverse = some r.2 := by
  induction h with
  | done found => exact found
  | here inside after ih => exact ih
  | above inside after ih => exact ih
  | link inside ne_here ne_above found after ih => exact ih
  | entry inside ne_here ne_above found after ih => exact ih

theorem exists_directory_tail {root : Tree} {place : List Name} {entries : List (Name × Tree)}
    (h : root.at? place.reverse = some (.directory entries)) :
    exists around, root.at? place.tail.reverse = some (.directory around) := by
  cases place with
  | nil =>
      exact ⟨entries, h⟩
  | cons last before =>
      rw [List.reverse_cons, Tree.at?_append, Option.bind_eq_some_iff] at h
      rcases h with ⟨t, ht, hchild⟩
      rw [Tree.at?_cons, Option.bind_eq_some_iff] at hchild
      rcases hchild with ⟨c, hc, _⟩
      rcases Tree.exists_entries_of_child? hc with ⟨around, heq, _⟩
      rw [heq] at ht
      exact ⟨around, ht⟩

theorem getLast?_cons_of_rest {name n : Name} {rest : List Name} (h : rest.getLast? = some n) :
    (name :: rest).getLast? = some n := by
  rw [List.getLast?_cons, h]
  rfl

theorem rest_ne_nil {name : Name} {rest : List Name}
    (hlast : forall n, (name :: rest).getLast? = some n -> n = Path.here ∨ n = Path.above)
    (hhere : name ≠ Path.here) (habove : name ≠ Path.above) : rest ≠ [] := by
  intro hnil
  subst hnil
  rcases hlast name rfl with heq | heq
  · exact hhere heq
  · exact habove heq

theorem Follows.exists_directory {root : Tree} {links : Nat} {place names : List Name}
    {r : List Name × Tree} (h : Follows root links place names r)
    (hstart : names = [] -> exists entries, root.at? place.reverse = some (.directory entries))
    (hlast : forall n, names.getLast? = some n -> n = Path.here ∨ n = Path.above) :
    exists entries, r.2 = .directory entries := by
  induction h with
  | done found =>
      rcases hstart rfl with ⟨entries, hentries⟩
      rw [found] at hentries
      cases hentries
      exact ⟨entries, rfl⟩
  | here inside after ih =>
      apply ih
      · intro _
        exact ⟨_, inside⟩
      · intro n hn
        exact hlast n (getLast?_cons_of_rest hn)
  | above inside after ih =>
      apply ih
      · intro _
        exact exists_directory_tail inside
      · intro n hn
        exact hlast n (getLast?_cons_of_rest hn)
  | link inside ne_here ne_above found after ih =>
      -- the name of the link is not the last step, and what the link adds stands before that one
      have hrest := rest_ne_nil hlast ne_here ne_above
      apply ih
      · intro hnil
        exact absurd (List.append_eq_nil_iff.mp hnil).2 hrest
      · intro n hn
        rw [List.getLast?_append_of_ne_nil _ hrest] at hn
        exact hlast n (getLast?_cons_of_rest hn)
  | entry inside ne_here ne_above found after ih =>
      apply ih
      · intro hnil
        exact absurd hnil (rest_ne_nil hlast ne_here ne_above)
      · intro n hn
        exact hlast n (getLast?_cons_of_rest hn)

/-!
# Requests

What is asked about an entry decides only how a failure is worded.  The path of a file ends with
the name of an entry.
-/

theorem follows_of_locate {fs : FileSystem} {request : Request} {p : Path} {t : Tree}
    (h : fs.locate request p = .ok t) :
    p ≠ [] ∧ exists reached, Follows fs.root linkLimit (fs.startOf p) (steps p) (reached, t) := by
  unfold locate at h
  split at h
  · cases h
  split at h
  · cases h
  rename_i hempty
  split at h
  · cases h
  split at h
  · rename_i reached t' hfollow
    cases h
    refine ⟨?_, reached, follows_of_follow hfollow⟩
    intro hnil
    exact hempty (List.isEmpty_iff.mpr hnil)
  · cases h

theorem wellFormed_of_locate {fs : FileSystem} (hfs : fs.root.WellFormed) {request : Request}
    {p : Path} {t : Tree} (h : fs.locate request p = .ok t) : t.WellFormed := by
  rcases follows_of_locate h with ⟨_, reached, hfollows⟩
  exact hfs.of_at? hfollows.at?

theorem wellFormed_of_list {fs : FileSystem} (hfs : fs.root.WellFormed) {p : Path}
    {entries : List (Name × Tree)} (h : fs.list p = .ok entries) :
    (Tree.directory entries).WellFormed := by
  unfold list at h
  split at h
  · cases h
  · rename_i entries' hlocate
    cases h
    exact wellFormed_of_locate hfs hlocate
  · cases h

theorem locate_request {fs : FileSystem} {request : Request} (other : Request) {p : Path}
    {t : Tree} (h : fs.locate request p = .ok t) : fs.locate other p = .ok t := by
  unfold locate at h ⊢
  split at h
  · cases h
  rename_i hzero
  rw [if_neg hzero]
  split at h
  · cases h
  rename_i hempty
  rw [if_neg hempty]
  split at h
  · cases h
  rename_i hlength
  rw [if_neg hlength]
  split at h
  · cases h
    rfl
  · cases h

theorem kind_of_list {fs : FileSystem} {p : Path} {entries : List (Name × Tree)}
    (h : fs.list p = .ok entries) : fs.kind p = .ok .directory := by
  unfold list at h
  split at h
  · cases h
  · rename_i entries' hlocate
    unfold kind
    rw [locate_request .stat hlocate]
    rfl
  · cases h

theorem steps_of_endsWithSlash {p : Path} (h : endsWithSlash p = true) :
    (steps p).getLast? = some Path.here := by
  unfold steps
  simp only [h, if_true]
  exact List.getLast?_concat

theorem exists_last_step {p : Path} (hp : p ≠ []) (hslash : endsWithSlash p = false) :
    exists before n, steps p = before ++ [n] ∧ n ≠ [] ∧ slash ∉ n ∧
      (n ≠ Path.here -> exists others, names p = others ++ [n]) := by
  rcases exists_last_piece p with ⟨before, n, hpieces, hn, hsplit⟩
  have hne : n ≠ [] := by
    intro hnil
    subst hnil
    rcases hsplit with hwhole | ⟨q, hq⟩
    · exact hp hwhole
    · rw [hq] at hslash
      simp [endsWithSlash] at hslash
  refine ⟨before.filter fun m => !m.isEmpty, n, ?_, hne, hn, ?_⟩
  · unfold steps
    rw [hpieces, List.filter_append]
    simp [hslash, hne]
  · intro hhere
    refine ⟨before.filter fun m => !m.isEmpty && m != Path.here, ?_⟩
    unfold names
    rw [hpieces, List.filter_append]
    simp [hne, hhere]

theorem exists_name_of_kind_file {fs : FileSystem} {p : Path} (h : fs.kind p = .ok .file) :
    endsWithSlash p = false ∧ exists before n, names p = before ++ [n] ∧ IsEntryName n := by
  unfold kind at h
  cases hlocate : fs.locate .stat p with
  | error e =>
      rw [hlocate] at h
      cases h
  | ok t =>
      rw [hlocate] at h
      have hkind : t.kind = .file := Except.ok.inj h
      have hnot : ¬ exists entries, t = .directory entries := by
        rintro ⟨entries, hdirectory⟩
        rw [hdirectory] at hkind
        cases hkind
      rcases follows_of_locate hlocate with ⟨hp, reached, hfollows⟩
      cases hslash : endsWithSlash p with
      | true =>
          have hlast := steps_of_endsWithSlash hslash
          refine absurd (hfollows.exists_directory ?_ ?_) hnot
          · intro hnil
            rw [hnil] at hlast
            cases hlast
          · intro n hn
            rw [hlast] at hn
            cases hn
            exact Or.inl rfl
      | false =>
          rcases exists_last_step hp hslash with ⟨before, n, hsteps, hne, hn, hnames⟩
          have hstep : ¬ (n = Path.here ∨ n = Path.above) := by
            intro hor
            apply hnot
            apply hfollows.exists_directory
            · intro hnil
              rw [hsteps] at hnil
              exact absurd (List.append_eq_nil_iff.mp hnil).2 (List.cons_ne_nil n [])
            · intro m hm
              rw [hsteps, List.getLast?_concat] at hm
              cases hm
              exact hor
          have hhere : n ≠ Path.here := fun heq => hstep (Or.inl heq)
          have habove : n ≠ Path.above := fun heq => hstep (Or.inr heq)
          rcases hnames hhere with ⟨others, hothers⟩
          exact ⟨rfl, others, n, hothers, ⟨⟨hne, hn, hhere⟩, habove⟩⟩

/-!
# Making files

A file is made where all names but the last lead to a directory that has no entry with the last
one yet.  The tree stays well formed.
-/

theorem isEntryName_of_mem_steps {p : Path} {n : Name} (hmem : n ∈ steps p)
    (hhere : n ≠ Path.here) (habove : n ≠ Path.above) : IsEntryName n := by
  have hpiece : n ∈ pieces p ∧ n ≠ [] := by
    unfold steps at hmem
    simp only at hmem
    split at hmem
    · rcases List.mem_append.mp hmem with hin | hlast
      · simpa using List.mem_filter.mp hin
      · exact absurd (List.mem_singleton.mp hlast) hhere
    · simpa using List.mem_filter.mp hmem
  exact ⟨⟨hpiece.2, not_mem_of_mem_pieces hpiece.1, hhere⟩, habove⟩

structure HasRoom (fs : FileSystem) (p : Path) (before : List Name) (name : Name)
    (place : List Name) (entries : List (Name × Tree)) : Prop where
  no_zero : '\x00' ∉ p
  ne_nil : p ≠ []
  short_path : byteLength p ≤ pathLimit
  steps_eq : steps p = before ++ [name]
  leads : follow fs.root linkLimit (fs.startOf p) before = .ok (place, .directory entries)
  isEntry : IsEntryName name
  short_name : byteLength name ≤ nameLimit
  isNew : entries.lookup name = none

def withFile (fs : FileSystem) (ns : List Name) (bytes : List UInt8) : FileSystem :=
  { fs with root := fs.root.put (.file bytes) ns }

theorem exists_hasRoom_of_create {fs fs' : FileSystem} {p : Path} {bytes : List UInt8}
    (h : fs.create p bytes = .ok fs') :
    exists before name place entries, HasRoom fs p before name place entries ∧
      fs' = fs.withFile (place.reverse ++ [name]) bytes := by
  unfold create at h
  simp only at h
  split at h
  · cases h
  rename_i hzero
  split at h
  · cases h
  rename_i hempty
  split at h
  · cases h
  rename_i hpath
  split at h
  · cases h
  rename_i name hlast
  split at h
  · cases h
  rename_i place t hfollow
  split at h
  · cases h
  rename_i entries hentries
  split at h
  · cases h
  rename_i hname
  split at h
  · cases h
  rename_i hlength
  split at h
  · cases h
  rename_i hnew
  cases h
  rw [Bool.not_eq_true, Bool.or_eq_false_iff, decide_eq_false_iff_not,
    decide_eq_false_iff_not] at hname
  refine ⟨(steps p).dropLast, name, place, entries, ?_, rfl⟩
  exact {
    no_zero := fun hmem => hzero (List.contains_iff_mem.mpr hmem)
    ne_nil := fun hnil => hempty (List.isEmpty_iff.mpr hnil)
    short_path := Nat.le_of_not_lt hpath
    steps_eq := (List.dropLast_append_getLast? name hlast).symm
    leads := by rw [hfollow, Tree.eq_directory_of_entries? hentries]
    isEntry := isEntryName_of_mem_steps (List.mem_of_getLast? hlast) hname.1 hname.2
    short_name := Nat.le_of_not_lt hlength
    isNew := Option.not_isSome_iff_eq_none.mp hnew }

theorem wellFormed_create {fs fs' : FileSystem} {p : Path} {bytes : List UInt8}
    (hfs : fs.root.WellFormed) (h : fs.create p bytes = .ok fs') : fs'.root.WellFormed := by
  rcases exists_hasRoom_of_create h with ⟨before, name, place, entries, hroom, hfs'⟩
  rw [hfs']
  apply hfs.put (Tree.WellFormed.file bytes)
  intro n hn
  rcases List.mem_append.mp hn with hplace | hnew
  · exact hfs.isEntry_of_at? (follows_of_follow hroom.leads).at? hplace
  · rw [List.mem_singleton.mp hnew]
    exact hroom.isEntry

end FileSystem
end CamelSpell
