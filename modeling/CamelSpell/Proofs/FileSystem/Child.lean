import CamelSpell.Proofs.FileSystem.Located
import CamelSpell.Proofs.Path.Normalize

/-!
# Entries of a directory by their paths

The path of an entry is the path of its directory joined with its name.  Joining resolves every `..`
by the spelling alone, so the new path leads to the entry if the spelling of the directory does not
lead astray: if it has no `..`, or its normal form leads to the same directory.
-/

namespace CamelSpell

open CamelSpell.Path

namespace FileSystem

/-!
# Steps of a path

The steps of a path are its pieces that are not empty; a slash at the end is a step that stays in
place.
-/

theorem filter_steps (p : Path) : (steps p).filter (· != Path.here) = names p := by
  have hpieces : ((pieces p).filter fun n => !n.isEmpty).filter (· != Path.here) = names p := by
    rw [List.filter_filter]
    unfold names
    congr 1
    funext n
    exact Bool.and_comm _ _
  unfold steps
  simp only
  split
  · rw [List.filter_append, hpieces]
    exact List.append_nil (names p)
  · exact hpieces

theorem steps_spell (fromTop : Bool) {ns : List Name} (hne : ns ≠ [])
    (h : forall n, n ∈ ns -> IsName n) : steps (spell fromTop ns) = ns := by
  have hpieces := pieces_joinNames hne fun n hn => (h n hn).no_slash
  have hfilter : ns.filter (fun n => !n.isEmpty) = ns := by
    rw [List.filter_eq_self]
    intro n hn
    simp [(h n hn).ne_nil]
  unfold steps
  simp only [endsWithSlash_spell fromTop h hne, Bool.false_eq_true, if_false]
  cases fromTop with
  | true =>
      show (pieces ([] ++ slash :: joinNames ns)).filter _ = ns
      rw [pieces_slash, hpieces, List.filter_append, hfilter]
      rfl
  | false =>
      show (pieces (joinNames ns)).filter _ = ns
      rw [hpieces, hfilter]

/-!
# Following on

Following some names either fails whatever comes behind them, or it goes on from where they lead.
A link takes one from the links that may be followed, any other name adds no names.
-/

/-- One name followed: the links that may still be followed, the place, and the names that a link
puts in front of the ones to come. -/
def advance (root : Tree) (links : Nat) (place : List Name) (name : Name) :
    Except Errno (Nat × List Name × List Name) :=
  match (root.at? place.reverse).bind Tree.entries? with
  | none => .error .notDirectory
  | some entries =>
      if name = Path.here then .ok (links, place, [])
      else if name = Path.above then .ok (links, place.tail, [])
      else if nameLimit < byteLength name then .error .nameTooLong
      else
        match entries.lookup name with
        | none => .error .noEntry
        | some (.link target) =>
            match links with
            | 0 => .error .tooManyLinks
            | links + 1 => .ok (links, if isAbsolute target then [] else place, steps target)
        | some _ => .ok (links, name :: place, [])

theorem follow_cons (root : Tree) (links : Nat) (place : List Name) (name : Name)
    (rest : List Name) :
    follow root links place (name :: rest) =
      (advance root links place name).bind fun (links', place', added) =>
        follow root links' place' (added ++ rest) := by
  rw [follow]
  unfold advance
  cases (root.at? place.reverse).bind Tree.entries? with
  | none =>
      rfl
  | some entries =>
      simp only
      split
      · rfl
      split
      · rfl
      split
      · rfl
      cases entries.lookup name with
      | none =>
          rfl
      | some t =>
          cases t with
          | link target =>
              cases links <;> rfl
          | directory entries' => rfl
          | file bytes => rfl
          | device => rfl
          | damaged => rfl

theorem advance_decreases {root : Tree} {links links' : Nat} {place place' added : List Name}
    {name : Name} (h : advance root links place name = .ok (links', place', added)) :
    links' < links ∨ links' = links ∧ added = [] := by
  unfold advance at h
  split at h
  · cases h
  split at h
  · cases h
    exact Or.inr ⟨rfl, rfl⟩
  split at h
  · cases h
    exact Or.inr ⟨rfl, rfl⟩
  split at h
  · cases h
  split at h
  · cases h
  · split at h
    · cases h
    · cases h
      exact Or.inl (Nat.lt_succ_self links')
  · cases h
    exact Or.inr ⟨rfl, rfl⟩

theorem advance_here {root : Tree} {place : List Name} {entries : List (Name × Tree)}
    (h : root.at? place.reverse = some (.directory entries)) (links : Nat) :
    advance root links place Path.here = .ok (links, place, []) := by
  unfold advance
  rw [h]
  rfl

theorem exists_directory_of_advance {root : Tree} {links : Nat} {place : List Name} {name : Name}
    {r : Nat × List Name × List Name} (h : advance root links place name = .ok r) :
    exists entries, root.at? place.reverse = some (.directory entries) := by
  unfold advance at h
  split at h
  · cases h
  · rename_i entries hentries
    exact ⟨entries, directory_of_entries? hentries⟩

theorem follow_append (root : Tree) (links : Nat) (place ns : List Name) :
    (exists e, forall more, follow root links place (ns ++ more) = .error e) ∨
      exists links' place', forall more,
        follow root links place (ns ++ more) = follow root links' place' more := by
  induction links using Nat.strongRecOn generalizing place ns with
  | ind links ihLinks =>
      induction ns generalizing place with
      | nil =>
          exact Or.inr ⟨links, place, fun _ => rfl⟩
      | cons name rest ih =>
          cases hname : advance root links place name with
          | error e =>
              refine Or.inl ⟨e, fun more => ?_⟩
              rw [List.cons_append, follow_cons, hname]
              rfl
          | ok next =>
              rcases next with ⟨links', place', added⟩
              have hcons : forall more, follow root links place (name :: rest ++ more) =
                  follow root links' place' ((added ++ rest) ++ more) := by
                intro more
                rw [List.cons_append, follow_cons, hname, List.append_assoc]
                rfl
              simp only [hcons]
              rcases advance_decreases hname with hless | ⟨hsame, hnone⟩
              · exact ihLinks links' hless place' (added ++ rest)
              · rw [hsame, hnone]
                exact ih place'

theorem follow_nil_ok_iff {root : Tree} {links : Nat} {place : List Name} {r : List Name × Tree} :
    follow root links place [] = .ok r <-> r.1 = place ∧ root.at? place.reverse = some r.2 := by
  rw [follow]
  cases root.at? place.reverse with
  | none =>
      simp
  | some t =>
      simp [Prod.ext_iff, eq_comm]

section Child

variable {root : Tree} {links : Nat} {place ns reached : List Name}
  {entries : List (Name × Tree)}

theorem exists_directory_of_follow
    (h : follow root links place ns = .ok (reached, .directory entries)) :
    exists around, root.at? place.reverse = some (.directory around) := by
  cases ns with
  | nil =>
      exact ⟨entries, (follow_nil_ok_iff.mp h).2⟩
  | cons name rest =>
      rw [follow_cons] at h
      cases hname : advance root links place name with
      | error e =>
          rw [hname] at h
          cases h
      | ok next =>
          exact exists_directory_of_advance hname

theorem follow_filter (h : follow root links place ns = .ok (reached, .directory entries)) :
    follow root links place (ns.filter (· != Path.here)) = .ok (reached, .directory entries) := by
  induction ns generalizing links place with
  | nil =>
      exact h
  | cons name rest ih =>
      by_cases hhere : name = Path.here
      · subst hhere
        rcases exists_directory_of_follow h with ⟨around, hplace⟩
        rw [follow_cons, advance_here hplace] at h
        rw [List.filter_cons_of_neg (by simp)]
        exact ih h
      · rw [List.filter_cons_of_pos (by simpa using hhere)]
        rcases follow_append root links place [name] with ⟨e, he⟩ | ⟨links', place', hnext⟩
        · have hfails := he rest
          rw [List.singleton_append, h] at hfails
          cases hfails
        · have hrest := hnext rest
          rw [List.singleton_append, h] at hrest
          rw [<- List.singleton_append, hnext]
          exact ih hrest.symm

theorem follow_entry (h : follow root links place ns = .ok (reached, .directory entries))
    {name : Name} {t : Tree} (hname : IsEntryName name) (hlength : byteLength name ≤ nameLimit)
    (hentry : entries.lookup name = some t) (hlink : forall target, t ≠ .link target) :
    follow root links place (ns ++ [name]) = .ok (name :: reached, t) := by
  rcases follow_append root links place ns with ⟨e, he⟩ | ⟨links', place', hnext⟩
  · have hfails := he []
    rw [List.append_nil, h] at hfails
    cases hfails
  · have hend := hnext []
    rw [List.append_nil, h] at hend
    rcases follow_nil_ok_iff.mp hend.symm with ⟨hplace, hfound⟩
    subst hplace
    have hadvance : advance root links' reached name = .ok (links', name :: reached, []) := by
      unfold advance
      rw [hfound]
      simp only [Option.bind_some, Tree.entries?, hname.ne_here, hname.ne_above, if_false, hentry,
        Nat.not_lt_of_le hlength]
    rw [hnext, follow_cons, hadvance]
    apply follow_nil_ok_iff.mpr
    refine ⟨rfl, ?_⟩
    rw [List.reverse_cons, Tree.at?_concat hfound]
    exact hentry

end Child

/-!
# Entries of a listed directory

The path of a directory, joined with the name of one of its entries, leads to that entry if the
directory is spelled out: if its path leads where its names do once every `..` is resolved.
-/

theorem locate_ok_iff {fs : FileSystem} {request : Request} {p : Path} {t : Tree} :
    fs.locate request p = .ok t <->
      '\x00' ∉ p ∧ p ≠ [] ∧ byteLength p ≤ pathLimit ∧
        exists reached, follow fs.root linkLimit (fs.startOf p) (steps p) = .ok (reached, t) := by
  unfold locate
  by_cases hzero : '\x00' ∈ p
  · simp [hzero]
  by_cases hempty : p = []
  · simp [hempty]
  by_cases hlength : pathLimit < byteLength p
  · simp [hzero, hempty, hlength, Nat.not_le_of_lt hlength]
  cases follow fs.root linkLimit (fs.startOf p) (steps p) with
  | error e =>
      simp [hzero, hempty, hlength]
  | ok r =>
      rcases r with ⟨reached, t'⟩
      simp [hzero, hempty, hlength, Nat.le_of_not_lt hlength]

theorem list_ok_iff {fs : FileSystem} {p : Path} {entries : List (Name × Tree)} :
    fs.list p = .ok entries <-> fs.locate .list p = .ok (.directory entries) := by
  unfold list
  cases fs.locate .list p with
  | error e =>
      simp
  | ok t =>
      cases t <;> simp

theorem list_here {fs : FileSystem} {entries : List (Name × Tree)}
    (h : fs.root.at? fs.workingNames = some (.directory entries)) :
    fs.list here = .ok entries := by
  have hplace : fs.root.at? (fs.startOf here).reverse = some (.directory entries) := by
    rw [show fs.startOf here = fs.workingNames.reverse from rfl, List.reverse_reverse]
    exact h
  rw [list_ok_iff, locate_ok_iff]
  refine ⟨by decide, by decide, by decide, fs.startOf here, ?_⟩
  rw [show steps here = [here] from rfl, follow_cons]
  unfold advance
  rw [hplace]
  exact follow_nil_ok_iff.mpr ⟨rfl, hplace⟩

structure IsStorable (n : Name) : Prop where
  no_zero : '\x00' ∉ n
  short : byteLength n ≤ nameLimit

/-- A path that leads to a directory by the names that are left of another path once every `..` is
resolved by the spelling. -/
structure SpellsOut (fs : FileSystem) (root : Path) (entries : List (Name × Tree)) (q : Path) :
    Prop where
  list_eq : fs.list q = .ok entries
  isAbsolute_eq : Path.isAbsolute q = Path.isAbsolute root
  names_eq : names q = normalNames root

theorem spellsOut_self {fs : FileSystem} {root : Path} {entries : List (Name × Tree)}
    (hlist : fs.list root = .ok entries) (habove : Path.above ∉ names root) :
    SpellsOut fs root entries root := by
  refine ⟨hlist, rfl, ?_⟩
  symm
  apply route_of_names rfl
  rw [<- List.append_nil (names root).reverse]
  apply (straight_nil _).append_entryNames
  intro n hn
  rw [List.mem_reverse] at hn
  refine ⟨isName_of_mem_names hn, ?_⟩
  rintro rfl
  exact habove hn

theorem spellsOut_normalize {fs : FileSystem} {root : Path} {entries : List (Name × Tree)}
    (hlist : fs.list (Path.normalize root) = .ok entries) :
    SpellsOut fs root entries (Path.normalize root) :=
  ⟨hlist, isAbsolute_normalize root, names_normalize root⟩

theorem SpellsOut.locate_join {fs : FileSystem} {root q : Path} {entries : List (Name × Tree)}
    (h : SpellsOut fs root entries q) (hroot : root ≠ []) {name : Name} {t : Tree}
    (hname : IsEntryName name) (hstorable : IsStorable name)
    (hentry : entries.lookup name = some t) (hlink : forall target, t ≠ .link target)
    (hlength : byteLength (Path.join root name) ≤ pathLimit) (request : Request) :
    fs.locate request (Path.join root name) = .ok t := by
  rcases locate_ok_iff.mp (list_ok_iff.mp h.list_eq) with ⟨hzero, _, _, reached, hfollow⟩
  have hnames : forall n, n ∈ normalNames root ++ [name] -> IsName n := by
    intro n hn
    exact isName_of_mem_straight (straight_append_entryName root hname) (List.mem_reverse.mpr hn)
  have hne : normalNames root ++ [name] ≠ [] :=
    List.append_ne_nil_of_right_ne_nil _ (List.cons_ne_nil name [])
  have hjoin := join_entryName hroot hname
  apply locate_ok_iff.mpr
  refine ⟨?_, ?_, hlength, name :: reached, ?_⟩
  · -- the characters of the new path stem from the old one, from the name and from slashes
    intro hmem
    have hchars : forall n, n ∈ normalNames root ++ [name] -> '\x00' ∉ n := by
      intro n hn hin
      rcases List.mem_append.mp hn with hold | hnew
      · rw [<- h.names_eq] at hold
        exact hzero (subset_of_mem_names hold hin)
      · rw [List.mem_singleton.mp hnew] at hin
        exact hstorable.no_zero hin
    have hin : '\x00' ∈ joinNames (normalNames root ++ [name]) := by
      rw [hjoin] at hmem
      unfold spell at hmem
      split at hmem
      · exact (List.mem_cons.mp hmem).resolve_left (by decide)
      · exact hmem
    rcases mem_joinNames hin with hslash | ⟨n, hn, hc⟩
    · exact absurd hslash (by decide)
    · exact hchars n hn hc
  · intro hnil
    have hempty := normalNames_join hroot hname
    rw [hnil] at hempty
    exact hne hempty.symm
  · have hstart : fs.startOf (Path.join root name) = fs.startOf q := by
      unfold startOf
      rw [isAbsolute_join hroot hname, h.isAbsolute_eq]
    have hsteps : steps (Path.join root name) = (steps q).filter (· != Path.here) ++ [name] := by
      rw [hjoin, steps_spell _ hne hnames, filter_steps, h.names_eq]
    rw [hstart, hsteps]
    exact follow_entry (follow_filter hfollow) hname hstorable.short hentry hlink

end FileSystem
end CamelSpell
