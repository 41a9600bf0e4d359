import CamelSpell.Proofs.Discovery.Visit
import CamelSpell.Proofs.FileSystem.Contents

/-!
# Discovery reads no file

Discovery asks for kinds and names only.  It goes the same way, with the same records, in a file
system whose files are all emptied, and so whatever the contents of the files are.
-/

namespace CamelSpell

open CamelSpell.Path Log

namespace Discovery

def emptied (d : Discovery) : Discovery :=
  { d with fileSystem := d.fileSystem.emptied }

section Emptied

variable (d : Discovery) (p : Path)

theorem visitsOf_emptied {below below' : Name × Tree -> Logged Failure Visit}
    {entries : List (Name × Tree)}
    (h : forall e, e ∈ entries -> below' (e.1, e.2.emptied) = below e) :
    visitsOf d.emptied p below' (Tree.emptiedEntries entries) = visitsOf d p below entries := by
  rw [Tree.emptiedEntries_eq]
  unfold visitsOf
  rw [List.map_map]
  apply List.map_congr_left
  intro e he
  show (e.1, d.visitEntry (Path.join p e.1) e.2.emptied.kind fun _ => below' (e.1, e.2.emptied)) = _
  rw [Tree.kind_emptied, h e he]

theorem walk_emptied (t : Tree) : walk d.emptied p t.emptied = walk d p t := by
  induction t using Tree.inductionOnEntries generalizing p with
  | leaf t hleaf =>
      cases t with
      | directory entries => exact absurd rfl (hleaf entries)
      | file bytes => rfl
      | link target => rfl
      | device => rfl
      | damaged => rfl
  | directory entries ih =>
      have hdirectory : (Tree.directory entries).emptied =
          .directory (Tree.emptiedEntries entries) := rfl
      rw [hdirectory, walk, walk, walkEntries_eq_visitsOf, walkEntries_eq_visitsOf,
        visitsOf_emptied d p fun e he => ih e he (Path.join p e.1)]

theorem walkFrom_emptied : d.emptied.walkFrom p = d.walkFrom p := by
  have hsystem : d.emptied.fileSystem = d.fileSystem.emptied := rfl
  unfold walkFrom
  rw [hsystem, FileSystem.locate_emptied]
  cases d.fileSystem.locate .list p with
  | error e => rfl
  | ok t => exact walk_emptied d p t

theorem walkRoot_eq_visitsOf :
    d.walkRoot p =
      match d.fileSystem.list p with
      | .error e => abort p e
      | .ok entries =>
          visitListed p (visitsOf d p (fun e => d.walkFrom (Path.join p e.1)) entries) :=
  rfl

theorem walkRoot_emptied : d.emptied.walkRoot p = d.walkRoot p := by
  have hsystem : d.emptied.fileSystem = d.fileSystem.emptied := rfl
  rw [walkRoot_eq_visitsOf, walkRoot_eq_visitsOf, hsystem, FileSystem.list_emptied]
  cases d.fileSystem.list p with
  | error e =>
      rfl
  | ok entries =>
      show visitListed p _ = visitListed p _
      rw [visitsOf_emptied d p fun e _ => walkFrom_emptied d (Path.join p e.1)]

theorem visitRoot_emptied : d.emptied.visitRoot p = d.visitRoot p := by
  have hkind : d.emptied.fileSystem.kind p = d.fileSystem.kind p :=
    FileSystem.kind_emptied d.fileSystem p
  have hancestor : d.emptied.hasExcludedAncestor p = d.hasExcludedAncestor p := rfl
  unfold visitRoot
  rw [hkind, hancestor, walkRoot_emptied]
  rfl

theorem run_emptied (roots : List Path) : d.emptied.run roots = d.run roots := by
  have hvisits : d.emptied.visitRoots roots = d.visitRoots roots := by
    unfold visitRoots
    congr 1
    exact List.map_congr_left fun root _ => visitRoot_emptied d root
  unfold run
  rw [hvisits]
  rfl

end Emptied

theorem run_withContents {fs : FileSystem} {ns : List Name} {old : List UInt8}
    (h : fs.root.at? ns = some (.file old)) (bytes : List UInt8) (excludes : Exclusion)
    (scope : Option String) (roots : List Path) :
    (Discovery.mk (fs.withContents ns bytes) excludes scope).run roots =
      (Discovery.mk fs excludes scope).run roots := by
  have hsame : (Discovery.mk (fs.withContents ns bytes) excludes scope).emptied =
      (Discovery.mk fs excludes scope).emptied := by
    unfold emptied
    rw [FileSystem.emptied_withContents h]
  rw [<- run_emptied, hsame, run_emptied]

end Discovery
end CamelSpell
