import CamelSpell.Proofs.FileSystem.Child

/-!
# Files that have been made

A file that is made adds one name to one directory.  Whatever names led to before, they lead to
afterwards: to the same entry, or to the same directory with more in it.  So the path at which a
file was made leads to it.
-/

namespace CamelSpell

open CamelSpell.Path

namespace Tree

variable {t new : Tree} {ns ms : List Name} {name : Name} {entries : List (Name × Tree)}

/-- An entry that is the same as another, or a directory just like it. -/
inductive Keeps : Tree -> Tree -> Prop
  | same (t : Tree) : Keeps t t
  | directory (entries others : List (Name × Tree)) : Keeps (directory entries) (directory others)

def Extends (t t' : Tree) : Prop :=
  forall ns c, t.at? ns = some c -> exists c', t'.at? ns = some c' ∧ Keeps c c'

theorem extends_setEntry {c' : Tree}
    (hold : forall c, entries.lookup name = some c -> Extends c c') :
    Extends (directory entries) (directory (setEntry name c' entries)) := by
  intro ns d hd
  cases ns with
  | nil =>
      cases hd
      exact ⟨_, rfl, Keeps.directory _ _⟩
  | cons n rest =>
      rw [at?_cons] at hd ⊢
      unfold child? entries? at hd ⊢
      rw [Option.bind_some] at hd ⊢
      by_cases hn : n = name
      · rw [hn] at hd ⊢
        rcases Option.bind_eq_some_iff.mp hd with ⟨c, hc, hrest⟩
        rw [lookup_setEntry, Option.bind_some]
        exact hold c hc rest d hrest
      · rw [lookup_setEntry_of_ne hn]
        exact ⟨d, hd, Keeps.same d⟩

theorem extends_put (h : t.at? ns = some (directory entries)) (hnew : entries.lookup name = none) :
    Extends t (t.put new (ns ++ [name])) := by
  induction ns generalizing t with
  | nil =>
      cases h
      apply extends_setEntry
      intro c hc
      cases hnew.symm.trans hc
  | cons n rest ih =>
      rw [at?_cons, Option.bind_eq_some_iff] at h
      rcases h with ⟨c, hchild, hrest⟩
      rcases Option.bind_eq_some_iff.mp hchild with ⟨around, haround, hlookup⟩
      rw [eq_directory_of_entries? haround]
      show Extends (directory around) (directory (setEntry n
        (((around.lookup n).getD empty).put new (rest ++ [name])) around))
      rw [hlookup, Option.getD_some]
      apply extends_setEntry
      intro c' hc'
      cases hlookup.symm.trans hc'
      exact ih hrest

end Tree

namespace FileSystem

variable {root root' : Tree} {links : Nat} {place ns : List Name}

/-!
# Following in a larger tree

Names lead to the same place in a tree with more entries.
-/

theorem exists_directory_of_extends (h : Tree.Extends root root') {ns : List Name}
    {entries : List (Name × Tree)} (hns : root.at? ns = some (.directory entries)) :
    exists others, root'.at? ns = some (.directory others) := by
  rcases h ns _ hns with ⟨c, hc, hkeeps⟩
  cases hkeeps with
  | same => exact ⟨entries, hc⟩
  | directory _ others => exact ⟨others, hc⟩

theorem advance_of_extends (h : Tree.Extends root root') {name : Name}
    {r : Nat × List Name × List Name} (hname : advance root links place name = .ok r) :
    advance root' links place name = .ok r := by
  rcases exists_directory_of_advance hname with ⟨entries, hplace⟩
  rcases exists_directory_of_extends h hplace with ⟨others, hplace'⟩
  unfold advance at hname ⊢
  rw [hplace] at hname
  rw [hplace']
  simp only [Option.bind_some, Tree.entries?] at hname ⊢
  split at hname
  · rename_i hhere
    rw [if_pos hhere]
    exact hname
  rename_i hhere
  rw [if_neg hhere]
  split at hname
  · rename_i habove
    rw [if_pos habove]
    exact hname
  rename_i habove
  rw [if_neg habove]
  split at hname
  · cases hname
  rename_i hlength
  rw [if_neg hlength]
  cases hentry : entries.lookup name with
  | none =>
      rw [hentry] at hname
      cases hname
  | some c =>
      -- the entry with the name has its counterpart below the place
      rcases h _ c ((Tree.at?_concat hplace name).trans hentry) with ⟨c', hc', hkeeps⟩
      rw [Tree.at?_concat hplace'] at hc'
      rw [hc']
      rw [hentry] at hname
      cases hkeeps with
      | same => exact hname
      | directory => exact hname

theorem follow_of_extends (h : Tree.Extends root root') {reached : List Name} {t : Tree}
    (hfollow : follow root links place ns = .ok (reached, t)) :
    exists t', follow root' links place ns = .ok (reached, t') ∧ Tree.Keeps t t' := by
  induction links using Nat.strongRecOn generalizing place ns with
  | ind links ihLinks =>
      induction ns generalizing place with
      | nil =>
          rcases follow_nil_ok_iff.mp hfollow with ⟨hreached, hfound⟩
          rcases h _ t hfound with ⟨t', hfound', hkeeps⟩
          exact ⟨t', follow_nil_ok_iff.mpr ⟨hreached, hfound'⟩, hkeeps⟩
      | cons name rest ih =>
          rw [follow_cons] at hfollow ⊢
          cases hname : advance root links place name with
          | error e =>
              rw [hname] at hfollow
              cases hfollow
          | ok next =>
              rcases next with ⟨links', place', added⟩
              rw [hname] at hfollow
              rw [advance_of_extends h hname]
              rcases advance_decreases hname with hless | ⟨hsame, hnone⟩
              · exact ihLinks links' hless hfollow
              · subst hsame hnone
                exact ih hfollow

/-!
# The new file

A file that was made is read at its path.
-/

section Create

variable {fs fs' : FileSystem} {p : Path} {bytes : List UInt8}

theorem resolve_create (h : fs.create p bytes = .ok fs') (q : Path) :
    fs'.resolve q = fs.resolve q := by
  rcases exists_hasRoom_of_create h with ⟨_, _, _, _, _, rfl⟩
  rfl

theorem read_create (h : fs.create p bytes = .ok fs') : fs'.read p = .ok bytes := by
  rcases exists_hasRoom_of_create h with ⟨before, name, place, entries, hroom, rfl⟩
  have hat := (follows_of_follow hroom.leads).at?
  have hextends : Tree.Extends fs.root (fs.withFile (place.reverse ++ [name]) bytes).root :=
    Tree.extends_put hat hroom.isNew
  rcases follow_of_extends hextends hroom.leads with ⟨t', hfollow, hkeeps⟩
  rcases exists_directory_of_extends hextends hat with ⟨others, hplace⟩
  have ht' : t' = .directory others :=
    Option.some.inj ((follows_of_follow hfollow).at?.symm.trans hplace)
  rw [ht'] at hfollow
  have hentry : others.lookup name = some (.file bytes) := by
    rw [<- Tree.at?_concat hplace]
    exact Tree.at?_put fs.root (.file bytes) (place.reverse ++ [name])
  have hlocate :
      (fs.withFile (place.reverse ++ [name]) bytes).locate .open_ p = .ok (.file bytes) := by
    apply locate_ok_iff.mpr
    refine ⟨hroom.no_zero, hroom.ne_nil, hroom.short_path, name :: place, ?_⟩
    rw [hroom.steps_eq]
    apply follow_entry hfollow hroom.isEntry hroom.short_name hentry
    intro target heq
    cases heq
  unfold read
  rw [hlocate]

end Create

end FileSystem
end CamelSpell
