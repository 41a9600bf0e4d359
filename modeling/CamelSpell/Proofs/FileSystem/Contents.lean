import CamelSpell.Proofs.FileSystem.Child

/-!
# Contents of files

Where a path leads and what it finds there does not depend on the contents of any file; only
reading a file does.  A file whose contents are replaced is therefore noticed by those paths alone
that lead to it.
-/

namespace CamelSpell

open CamelSpell.Path

/-!
# Trees without contents

A tree with every file emptied has the same places and kinds, whatever the contents were.
-/

mutual

def Tree.emptied : Tree -> Tree
  | .file _ => .file []
  | .directory entries => .directory (Tree.emptiedEntries entries)
  | .link target => .link target
  | .device => .device
  | .damaged => .damaged

def Tree.emptiedEntries : List (Name × Tree) -> List (Name × Tree)
  | [] => []
  | (name, t) :: rest => (name, t.emptied) :: Tree.emptiedEntries rest

end

namespace Tree

variable {t c : Tree} {entries : List (Name × Tree)} {name : Name} {ns ms : List Name}
  {old kept : List UInt8}

theorem emptiedEntries_eq (entries : List (Name × Tree)) :
    emptiedEntries entries = entries.map fun e => (e.1, e.2.emptied) := by
  induction entries with
  | nil =>
      rfl
  | cons e rest ih =>
      rw [List.map_cons, <- ih]
      rfl

theorem kind_emptied (t : Tree) : t.emptied.kind = t.kind := by
  cases t <;> rfl

theorem entries?_emptied (t : Tree) : t.emptied.entries? = t.entries?.map emptiedEntries := by
  cases t <;> rfl

theorem lookup_emptiedEntries (entries : List (Name × Tree)) (name : Name) :
    (emptiedEntries entries).lookup name = (entries.lookup name).map emptied := by
  induction entries with
  | nil =>
      rfl
  | cons e rest ih =>
      show ((e.1, e.2.emptied) :: emptiedEntries rest).lookup name = _
      rw [List.lookup_cons, List.lookup_cons]
      cases name == e.1 with
      | true => rfl
      | false => exact ih

theorem at?_emptied (t : Tree) (ns : List Name) :
    t.emptied.at? ns = (t.at? ns).map emptied := by
  induction ns generalizing t with
  | nil =>
      rfl
  | cons n rest ih =>
      rw [at?_cons, at?_cons]
      unfold child?
      rw [entries?_emptied]
      cases t.entries? with
      | none =>
          rfl
      | some entries =>
          rw [Option.map_some, Option.bind_some, Option.bind_some, lookup_emptiedEntries]
          cases entries.lookup n with
          | none => rfl
          | some c => exact ih c

theorem emptiedEntries_setEntry (hlookup : entries.lookup name = some c) {new : Tree}
    (hnew : new.emptied = c.emptied) :
    emptiedEntries (setEntry name new entries) = emptiedEntries entries := by
  induction entries with
  | nil =>
      cases hlookup
  | cons e rest ih =>
      rcases e with ⟨n, old⟩
      unfold setEntry
      by_cases hn : n = name
      · rw [hn, List.lookup_cons_self] at hlookup
        rw [if_pos hn]
        show (n, new.emptied) :: emptiedEntries rest = (n, old.emptied) :: emptiedEntries rest
        rw [hnew, Option.some.inj hlookup]
      · rw [List.lookup_cons, beq_false_of_ne fun heq => hn heq.symm] at hlookup
        rw [if_neg hn]
        show (n, old.emptied) :: emptiedEntries (setEntry name new rest) = _
        rw [ih hlookup]
        rfl

theorem emptied_put (h : t.at? ns = some (.file old)) (bytes : List UInt8) :
    (t.put (.file bytes) ns).emptied = t.emptied := by
  induction ns generalizing t with
  | nil =>
      cases h
      rfl
  | cons n rest ih =>
      rw [at?_cons, Option.bind_eq_some_iff] at h
      rcases h with ⟨child, hchild, hrest⟩
      unfold child? at hchild
      rcases Option.bind_eq_some_iff.mp hchild with ⟨entries, hentries, hlookup⟩
      rw [eq_directory_of_entries? hentries]
      unfold put
      show (directory (setEntry n (((entries.lookup n).getD empty).put (.file bytes) rest)
        entries)).emptied = (directory entries).emptied
      rw [hlookup, Option.getD_some]
      show directory _ = directory _
      rw [emptiedEntries_setEntry hlookup (ih hrest)]

theorem at?_put_of_ne (h : t.at? ns = some (.file old)) (hne : ms ≠ ns)
    (hkept : t.at? ms = some (.file kept)) (bytes : List UInt8) :
    (t.put (.file bytes) ns).at? ms = some (.file kept) := by
  induction ns generalizing t ms with
  | nil =>
      cases h
      cases ms with
      | nil => exact absurd rfl hne
      | cons m more => cases hkept
  | cons n rest ih =>
      rw [at?_cons, Option.bind_eq_some_iff] at h
      rcases h with ⟨child, hchild, hrest⟩
      unfold child? at hchild
      rcases Option.bind_eq_some_iff.mp hchild with ⟨entries, hentries, hlookup⟩
      rw [eq_directory_of_entries? hentries] at hkept ⊢
      cases ms with
      | nil =>
          cases hkept
      | cons m more =>
          unfold put
          rw [at?_cons] at hkept ⊢
          unfold child? entries? at hkept ⊢
          rw [Option.bind_some] at hkept ⊢
          by_cases hm : m = n
          · rw [hm, hlookup, Option.bind_some] at hkept
            rw [hm, lookup_setEntry]
            simp only [Option.getD_some, hlookup, Option.bind_some]
            apply ih hrest ?_ hkept
            intro heq
            exact hne (by rw [hm, heq])
          · rw [lookup_setEntry_of_ne hm]
            exact hkept

def LinkFree (t : Tree) : Prop :=
  forall ns target, t.at? ns ≠ some (.link target)

theorem linkFree_leaf (hentries : t.entries? = none) (hlink : forall target, t ≠ .link target) :
    t.LinkFree := by
  intro ns target h
  cases ns with
  | nil =>
      exact hlink target (Option.some.inj h)
  | cons n rest =>
      rw [at?_cons] at h
      unfold child? at h
      rw [hentries] at h
      cases h

theorem linkFree_directory (h : forall e, e ∈ entries -> e.2.LinkFree) :
    (directory entries).LinkFree := by
  intro ns target hfound
  cases ns with
  | nil =>
      cases hfound
  | cons n rest =>
      rw [at?_cons] at hfound
      rcases Option.bind_eq_some_iff.mp hfound with ⟨c, hchild, hrest⟩
      exact h (n, c) (mem_of_lookup hchild) rest target hrest

end Tree

namespace FileSystem

variable {fs other : FileSystem} {p : Path} {t : Tree} {e : FileError} {request : Request}
  {ns : List Name} {old : List UInt8}

def emptied (fs : FileSystem) : FileSystem :=
  { fs with root := fs.root.emptied }

/-!
# Requests that read nothing

Names lead to the same places in the emptied tree, so requests that read nothing have the same
answers.
-/

theorem advance_emptied (root : Tree) (links : Nat) (place : List Name) (name : Name) :
    advance root.emptied links place name = advance root links place name := by
  unfold advance
  rw [Tree.at?_emptied]
  cases root.at? place.reverse with
  | none =>
      rfl
  | some t =>
      rw [Option.map_some, Option.bind_some, Option.bind_some, Tree.entries?_emptied]
      cases t.entries? with
      | none =>
          rfl
      | some entries =>
          simp only [Option.map_some, Tree.lookup_emptiedEntries]
          cases entries.lookup name with
          | none => rfl
          | some c => cases c <;> rfl

theorem follow_emptied (root : Tree) (links : Nat) (place names : List Name) :
    follow root.emptied links place names =
      (follow root links place names).map fun r => (r.1, r.2.emptied) := by
  induction links using Nat.strongRecOn generalizing place names with
  | ind links ihLinks =>
      induction names generalizing place with
      | nil =>
          rw [follow, follow, Tree.at?_emptied]
          cases root.at? place.reverse <;> rfl
      | cons name rest ih =>
          rw [follow_cons, follow_cons, advance_emptied]
          cases hname : advance root links place name with
          | error e =>
              rfl
          | ok next =>
              rcases next with ⟨links', place', added⟩
              show follow root.emptied links' place' (added ++ rest) =
                (follow root links' place' (added ++ rest)).map fun r => (r.1, r.2.emptied)
              rcases advance_decreases hname with hless | ⟨hsame, hnone⟩
              · exact ihLinks links' hless place' (added ++ rest)
              · rw [hsame, hnone]
                exact ih place'

theorem locate_emptied (fs : FileSystem) (request : Request) (p : Path) :
    fs.emptied.locate request p = (fs.locate request p).map Tree.emptied := by
  unfold locate
  split
  · rfl
  split
  · rfl
  split
  · rfl
  have hroot : fs.emptied.root = fs.root.emptied := rfl
  have hstart : fs.emptied.startOf p = fs.startOf p := rfl
  rw [hroot, hstart, follow_emptied]
  cases follow fs.root linkLimit (fs.startOf p) (steps p) <;> rfl

theorem kind_emptied (fs : FileSystem) (p : Path) : fs.emptied.kind p = fs.kind p := by
  unfold kind
  rw [locate_emptied]
  cases fs.locate .stat p with
  | error e => rfl
  | ok t => exact congrArg Except.ok (Tree.kind_emptied t)

theorem list_emptied (fs : FileSystem) (p : Path) :
    fs.emptied.list p = (fs.list p).map Tree.emptiedEntries := by
  unfold list
  rw [locate_emptied]
  cases fs.locate .list p with
  | error e => rfl
  | ok t => cases t <;> rfl

/-!
# Replacing the contents of one file

A path that does not lead to the file finds the same contents as before.
-/

def withContents (fs : FileSystem) (ns : List Name) (bytes : List UInt8) : FileSystem :=
  { fs with root := fs.root.put (.file bytes) ns }

/-- A path leads to a place, links included. -/
def LeadsTo (fs : FileSystem) (p : Path) (ns : List Name) : Prop :=
  exists t, follow fs.root linkLimit (fs.startOf p) (steps p) = .ok (ns.reverse, t)

theorem emptied_withContents (h : fs.root.at? ns = some (.file old)) (bytes : List UInt8) :
    (fs.withContents ns bytes).emptied = fs.emptied := by
  show FileSystem.mk (fs.root.put (.file bytes) ns).emptied fs.workingNames = _
  rw [Tree.emptied_put h]
  rfl

theorem kind_withContents (h : fs.root.at? ns = some (.file old)) (bytes : List UInt8)
    (p : Path) : (fs.withContents ns bytes).kind p = fs.kind p := by
  rw [<- kind_emptied, emptied_withContents h, kind_emptied]

theorem locate_error_of_emptied (h : other.emptied = fs.emptied)
    (hlocate : fs.locate request p = .error e) : other.locate request p = .error e := by
  have hboth := locate_emptied other request p
  rw [h, locate_emptied, hlocate] at hboth
  cases hother : other.locate request p with
  | error e' =>
      rw [hother] at hboth
      cases hboth
      rfl
  | ok t =>
      rw [hother] at hboth
      cases hboth

theorem exists_locate_of_emptied (h : other.emptied = fs.emptied)
    (hlocate : fs.locate request p = .ok t) :
    exists t', other.locate request p = .ok t' ∧ t'.emptied = t.emptied := by
  have hboth := locate_emptied other request p
  rw [h, locate_emptied, hlocate] at hboth
  cases hother : other.locate request p with
  | error e =>
      rw [hother] at hboth
      cases hboth
  | ok t' =>
      rw [hother] at hboth
      exact ⟨t', rfl, (Except.ok.inj hboth).symm⟩

theorem locate_withContents_file (h : fs.root.at? ns = some (.file old))
    (hother : ¬ fs.LeadsTo p ns) {kept : List UInt8}
    (hlocate : fs.locate request p = .ok (.file kept)) (bytes : List UInt8) :
    (fs.withContents ns bytes).locate request p = .ok (.file kept) := by
  rcases locate_ok_iff.mp hlocate with ⟨hzero, hempty, hlength, reached, hfollow⟩
  have hplace : reached.reverse ≠ ns := by
    intro heq
    exact hother ⟨_, by rw [<- heq, List.reverse_reverse]; exact hfollow⟩
  have hfound := Tree.at?_put_of_ne h hplace (follows_of_follow hfollow).at? bytes
  have hboth := follow_emptied (fs.withContents ns bytes).root linkLimit (fs.startOf p) (steps p)
  have hroot : (fs.withContents ns bytes).root.emptied = fs.root.emptied := Tree.emptied_put h bytes
  rw [hroot, follow_emptied, hfollow] at hboth
  cases hagain : follow (fs.withContents ns bytes).root linkLimit (fs.startOf p) (steps p) with
  | error e =>
      rw [hagain] at hboth
      cases hboth
  | ok r =>
      rcases r with ⟨reached', t'⟩
      rw [hagain] at hboth
      have hreached : reached = reached' := congrArg Prod.fst (Except.ok.inj hboth)
      have hfound' := (follows_of_follow hagain).at?
      rw [<- hreached] at hfound'
      have ht : some (Tree.file kept) = some t' := hfound.symm.trans hfound'
      rw [<- Option.some.inj ht] at hagain
      exact locate_ok_iff.mpr ⟨hzero, hempty, hlength, reached', hagain⟩

theorem read_withContents (h : fs.root.at? ns = some (.file old)) (hother : ¬ fs.LeadsTo p ns)
    (bytes : List UInt8) : (fs.withContents ns bytes).read p = fs.read p := by
  have hemptied := emptied_withContents h bytes
  unfold read
  cases hlocate : fs.locate .open_ p with
  | error e =>
      rw [locate_error_of_emptied hemptied hlocate]
  | ok t =>
      cases t with
      | file kept =>
          rw [locate_withContents_file h hother hlocate]
      | _ =>
          -- without contents of its own, an entry answers as it does in the emptied tree
          rcases exists_locate_of_emptied hemptied hlocate with ⟨t', hagain, ht⟩
          rw [hagain]
          cases t' <;> first | rfl | cases ht

/-!
# Places in trees without links

Without links, a path leads to the place that it resolves to.
-/

theorem Follows.exists_at? {root : Tree} {links : Nat} {place names : List Name}
    {r : List Name × Tree} (h : Follows root links place names r) :
    exists t, root.at? place.reverse = some t := by
  cases h with
  | done found => exact ⟨_, found⟩
  | here inside after => exact ⟨_, inside⟩
  | above inside after => exact ⟨_, inside⟩
  | link inside ne_here ne_above found after => exact ⟨_, inside⟩
  | entry inside ne_here ne_above found after => exact ⟨_, inside⟩

theorem Follows.eq_foldl {root : Tree} (hroot : root.WellFormed) (hlinks : root.LinkFree)
    {links : Nat} {place names : List Name} {r : List Name × Tree}
    (h : Follows root links place names r) :
    r.1 = (names.filter (· != Path.here)).foldl (Path.follow false) place := by
  induction h with
  | done found =>
      rfl
  | here inside after ih =>
      rw [List.filter_cons_of_neg (by simp)]
      exact ih
  | @above links place rest entries r inside after ih =>
      rw [List.filter_cons_of_pos (by decide), List.foldl_cons, ih]
      congr 1
      cases place with
      | nil =>
          rfl
      | cons last before =>
          have hlast : IsEntryName last := by
            apply hroot.isEntry_of_at? inside
            simp
          exact (follow_above_entryName false before hlast).symm
  | @link links place name rest entries target r inside ne_here ne_above found after ih =>
      exfalso
      apply hlinks (place.reverse ++ [name]) target
      rw [Tree.at?_append, inside]
      show (Tree.directory entries).at? [name] = _
      rw [Tree.at?_cons]
      unfold Tree.child? Tree.entries?
      rw [Option.bind_some, found, Option.bind_some]
      rfl
  | @entry links place name rest entries c r inside ne_here ne_above found after ih =>
      have hfollow : Path.follow false place name = name :: place := by
        unfold Path.follow
        rw [if_neg ne_above]
      rw [List.filter_cons_of_pos (by simpa using ne_here), List.foldl_cons, hfollow]
      exact ih

theorem LeadsTo.resolveNames_eq (hfs : fs.root.WellFormed) (hlinks : fs.root.LinkFree)
    (h : fs.LeadsTo p ns) : Path.resolveNames fs.workingDirectory p = ns := by
  rcases h with ⟨t, hfollow⟩
  have hfollows := follows_of_follow hfollow
  have hplace := hfollows.eq_foldl hfs hlinks
  rw [filter_steps] at hplace
  have hns : ns = ((names p).foldl (Path.follow false) (fs.startOf p)).reverse := by
    rw [<- hplace, List.reverse_reverse]
  rw [hns]
  unfold Path.resolveNames
  cases habs : isAbsolute p with
  | true =>
      have hstart : fs.startOf p = [] := by
        unfold startOf
        rw [if_pos habs]
      rw [if_pos rfl, hstart]
      rfl
  | false =>
      have hstart : fs.startOf p = fs.workingNames.reverse := by
        unfold startOf
        rw [habs, if_neg Bool.false_ne_true]
      -- the working directory is a place of the tree, so its names are kept as they are
      rcases hfollows.exists_at? with ⟨working, hworking⟩
      rw [hstart, List.reverse_reverse] at hworking
      have hentry : forall n, n ∈ fs.workingNames -> IsEntryName n :=
        fun n hn => hfs.isEntry_of_at? hworking hn
      have hdirectory : names fs.workingDirectory = fs.workingNames :=
        names_spell true fun n hn => (hentry n hn).toIsName
      rw [if_neg Bool.false_ne_true, hstart]
      unfold route
      rw [names_slash, hdirectory, List.foldl_append, foldl_follow_entryNames false [] hentry,
        List.append_nil]

end FileSystem
end CamelSpell
