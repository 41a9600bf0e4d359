import CamelSpell.Proofs.Path.Route

/-!
# Normal forms of paths

A path in normal form spells a straight row of names, with a slash in front of it if the path is
absolute.  Two paths that are read from the same level lead to the same place only if they have the
same row.
-/

namespace CamelSpell
namespace Path

def normalNames (p : Path) : List Name :=
  route (!isAbsolute p) p

def spell (fromTop : Bool) (ns : List Name) : Path :=
  if fromTop then absolute ns else joinNames ns

theorem straight_normalNames (p : Path) : Straight (!isAbsolute p) (normalNames p).reverse :=
  straight_route (!isAbsolute p) p

theorem isName_of_mem_normalNames {p : Path} {n : Name} (hn : n ∈ normalNames p) : IsName n :=
  isName_of_mem_route hn

theorem normalNames_of_isAbsolute {p : Path} (h : isAbsolute p = true) :
    normalNames p = route false p := by
  unfold normalNames
  rw [h, Bool.not_true]

theorem normalNames_of_relative {p : Path} (h : isAbsolute p = false) :
    normalNames p = route true p := by
  unfold normalNames
  rw [h, Bool.not_false]

/-!
# Spelling

Names are spelled with slashes between them, and with one in front if they count from the top.
-/

theorem names_spell (fromTop : Bool) {ns : List Name} (h : forall n, n ∈ ns -> IsName n) :
    names (spell fromTop ns) = ns := by
  cases fromTop with
  | true =>
      show names (slash :: joinNames ns) = ns
      rw [names_cons_slash, names_joinNames h]
  | false =>
      exact names_joinNames h

theorem isAbsolute_joinNames {ns : List Name} (h : forall n, n ∈ ns -> IsName n) :
    isAbsolute (joinNames ns) = false := by
  cases ns with
  | nil =>
      rfl
  | cons n rest =>
      rcases @joinNames_head n rest (h n List.mem_cons_self) with ⟨c, others, heq, hc⟩
      rw [heq]
      simp [isAbsolute, hc]

theorem isAbsolute_spell (fromTop : Bool) {ns : List Name} (h : forall n, n ∈ ns -> IsName n) :
    isAbsolute (spell fromTop ns) = fromTop := by
  cases fromTop with
  | true =>
      rfl
  | false =>
      exact isAbsolute_joinNames h

theorem endsWithSlash_spell (fromTop : Bool) {ns : List Name} (h : forall n, n ∈ ns -> IsName n)
    (hne : ns ≠ []) : endsWithSlash (spell fromTop ns) = false := by
  have hjoin := joinNames_endsWithSlash h
  cases fromTop with
  | true =>
      have hbody : joinNames ns ≠ [] := fun hnil => hne (joinNames_eq_nil h hnil)
      show endsWithSlash ([slash] ++ joinNames ns) = false
      unfold endsWithSlash at hjoin ⊢
      rw [List.getLast?_append_of_ne_nil [slash] hbody]
      exact hjoin
  | false =>
      exact hjoin

theorem normalNames_spell {fromTop : Bool} {ns : List Name} (h : Straight (!fromTop) ns.reverse) :
    normalNames (spell fromTop ns) = ns := by
  have hns : forall n, n ∈ ns -> IsName n := by
    intro n hn
    exact isName_of_mem_straight h (List.mem_reverse.mpr hn)
  apply route_of_names (names_spell fromTop hns)
  rw [isAbsolute_spell fromTop hns]
  exact h

/-!
# Normal forms

A normal form is the spelling of its names, but for a slash at the end and for the directory
itself.
-/

theorem isAbsolute_append {p : Path} (h : p ≠ []) (q : Path) :
    isAbsolute (p ++ q) = isAbsolute p := by
  cases p with
  | nil =>
      exact absurd rfl h
  | cons c rest =>
      rfl

theorem normalize_of_isAbsolute {p : Path} (h : isAbsolute p = true) :
    normalize p =
      if (joinNames (normalNames p)).isEmpty then [slash]
      else slash ::
        (if endsWithSlash p then joinNames (normalNames p) ++ [slash]
          else joinNames (normalNames p)) := by
  unfold normalize normalNames
  simp only [h, if_true]

theorem normalize_of_relative {p : Path} (h : isAbsolute p = false) :
    normalize p =
      if endsWithSlash p then
        (if (joinNames (normalNames p)).isEmpty then here else joinNames (normalNames p)) ++ [slash]
      else if (joinNames (normalNames p)).isEmpty then here else joinNames (normalNames p) := by
  unfold normalize normalNames
  simp only [h, Bool.false_eq_true, if_false]

theorem joinNames_normalNames_isEmpty {p : Path} (hne : normalNames p ≠ []) :
    (joinNames (normalNames p)).isEmpty = false := by
  rw [List.isEmpty_eq_false_iff]
  intro hnil
  exact hne (joinNames_eq_nil (fun n hn => isName_of_mem_normalNames hn) hnil)

theorem normalize_eq_spell {p : Path} (hslash : endsWithSlash p = false)
    (hne : normalNames p ≠ []) : normalize p = spell (isAbsolute p) (normalNames p) := by
  have hbody := joinNames_normalNames_isEmpty hne
  cases habs : isAbsolute p with
  | true =>
      rw [normalize_of_isAbsolute habs, hbody, hslash]
      rfl
  | false =>
      rw [normalize_of_relative habs, hbody, hslash]
      rfl

theorem normalize_spell {fromTop : Bool} {ns : List Name} (h : Straight (!fromTop) ns.reverse)
    (hne : ns ≠ []) : normalize (spell fromTop ns) = spell fromTop ns := by
  have hns : forall n, n ∈ ns -> IsName n := by
    intro n hn
    exact isName_of_mem_straight h (List.mem_reverse.mpr hn)
  have hnames := normalNames_spell h
  rw [normalize_eq_spell (endsWithSlash_spell fromTop hns hne) (by rw [hnames]; exact hne), hnames,
    isAbsolute_spell fromTop hns]

theorem names_normalize (p : Path) : names (normalize p) = normalNames p := by
  have hjoin : names (joinNames (normalNames p)) = normalNames p :=
    names_joinNames fun n hn => isName_of_mem_normalNames hn
  have hslash : forall body,
      names (if endsWithSlash p then body ++ [slash] else body) = names body := by
    intro body
    split
    · exact names_append_slash body
    · rfl
  cases habs : isAbsolute p with
  | true =>
      rw [normalize_of_isAbsolute habs]
      by_cases hnil : normalNames p = []
      · rw [hnil]
        rfl
      · rw [joinNames_normalNames_isEmpty hnil, if_neg Bool.false_ne_true, names_cons_slash, hslash,
          hjoin]
  | false =>
      rw [normalize_of_relative habs, hslash]
      by_cases hnil : normalNames p = []
      · rw [hnil]
        exact names_here
      · rw [joinNames_normalNames_isEmpty hnil, if_neg Bool.false_ne_true, hjoin]

theorem isAbsolute_normalize (p : Path) : isAbsolute (normalize p) = isAbsolute p := by
  cases habs : isAbsolute p with
  | true =>
      rw [normalize_of_isAbsolute habs]
      split
      · rfl
      · rfl
  | false =>
      have hbody : forall body, body ≠ [] -> isAbsolute body = false ->
          isAbsolute (if endsWithSlash p then body ++ [slash] else body) = false := by
        intro body hne hbody
        split
        · rw [isAbsolute_append hne, hbody]
        · exact hbody
      rw [normalize_of_relative habs]
      apply hbody
      · split
        · exact List.cons_ne_nil _ _
        · rename_i hempty
          intro hnil
          exact hempty (List.isEmpty_iff.mpr hnil)
      · split
        · rfl
        · exact isAbsolute_joinNames fun n hn => isName_of_mem_normalNames hn

theorem normalNames_normalize (p : Path) : normalNames (normalize p) = normalNames p := by
  apply route_of_names (names_normalize p)
  rw [isAbsolute_normalize]
  exact straight_normalNames p

/-!
# Entries below a directory

Joining a path with the name of an entry puts that name behind the names of its normal form.
-/

theorem straight_append_entryNames (p : Path) {ns : List Name}
    (h : forall n, n ∈ ns -> IsEntryName n) :
    Straight (!isAbsolute p) (normalNames p ++ ns).reverse := by
  rw [List.reverse_append]
  apply (straight_normalNames p).append_entryNames
  intro n hn
  exact h n (List.mem_reverse.mp hn)

theorem straight_append_entryName (p : Path) {n : Name} (hn : IsEntryName n) :
    Straight (!isAbsolute p) (normalNames p ++ [n]).reverse := by
  apply straight_append_entryNames p
  intro m hm
  rw [List.mem_singleton.mp hm]
  exact hn

theorem join_entryNames {p : Path} (hp : p ≠ []) {ns : List Name} (hne : ns ≠ [])
    (hns : forall n, n ∈ ns -> IsEntryName n) :
    join p (joinNames ns) = spell (isAbsolute p) (normalNames p ++ ns) := by
  have hnames : forall n, n ∈ ns -> IsName n := fun n hn => (hns n hn).toIsName
  have hbody : joinNames ns ≠ [] := fun hnil => hne (joinNames_eq_nil hnames hnil)
  have hjoin : join p (joinNames ns) = normalize (p ++ slash :: joinNames ns) := by
    unfold join
    split
    · exact absurd rfl hp
    · exact absurd rfl hp
    · exact absurd (by assumption) hbody
    · rfl
  have habs : isAbsolute (p ++ slash :: joinNames ns) = isAbsolute p :=
    isAbsolute_append hp (slash :: joinNames ns)
  have hroute : normalNames (p ++ slash :: joinNames ns) = normalNames p ++ ns := by
    unfold normalNames route
    rw [habs, names_slash, names_joinNames hnames, List.foldl_append,
      foldl_follow_entryNames _ _ hns, List.reverse_append, List.reverse_reverse]
  have hslash : endsWithSlash (p ++ slash :: joinNames ns) = false := by
    have hend := joinNames_endsWithSlash hnames
    unfold endsWithSlash at hend ⊢
    rw [List.append_cons, List.getLast?_append_of_ne_nil (p ++ [slash]) hbody]
    exact hend
  rw [hjoin, normalize_eq_spell hslash (by rw [hroute]; simp [hne]), hroute, habs]

theorem join_entryName {p : Path} (hp : p ≠ []) {n : Name} (hn : IsEntryName n) :
    join p n = spell (isAbsolute p) (normalNames p ++ [n]) := by
  apply join_entryNames hp (List.cons_ne_nil n [])
  intro m hm
  rw [List.mem_singleton.mp hm]
  exact hn

theorem normalNames_join {p : Path} (hp : p ≠ []) {n : Name} (hn : IsEntryName n) :
    normalNames (join p n) = normalNames p ++ [n] := by
  rw [join_entryName hp hn, normalNames_spell (straight_append_entryName p hn)]

theorem isAbsolute_join {p : Path} (hp : p ≠ []) {n : Name} (hn : IsEntryName n) :
    isAbsolute (join p n) = isAbsolute p := by
  rw [join_entryName hp hn]
  apply isAbsolute_spell
  intro m hm
  exact isName_of_mem_straight (straight_append_entryName p hn) (List.mem_reverse.mpr hm)

/-!
# Places

A path leads to the same place in normal form.  Paths that count from the same level lead to one
place only with the same names.
-/

/-- Where the names of a path count from: the top, or the directory so many levels above the
working directory. -/
def anchor (p : Path) : Bool × Nat :=
  (isAbsolute p, climb (normalNames p))

theorem resolveNames_of_isAbsolute (directory : Path) {p : Path} (h : isAbsolute p = true) :
    resolveNames directory p = normalNames p := by
  unfold resolveNames
  rw [if_pos h, normalNames_of_isAbsolute h]

theorem resolveNames_of_relative (directory : Path) {p : Path} (h : isAbsolute p = false) :
    resolveNames directory p =
      ((normalNames p).foldl (Path.follow false) (route false directory).reverse).reverse := by
  unfold resolveNames
  rw [if_neg (by simp [h]), normalNames_of_relative h]
  unfold route
  rw [foldl_follow_route, names_slash, List.foldl_append, List.reverse_reverse]

theorem resolveNames_join (directory : Path) {p : Path} (hp : p ≠ []) {n : Name}
    (hn : IsEntryName n) : resolveNames directory (join p n) = resolveNames directory p ++ [n] := by
  cases habs : isAbsolute p with
  | true =>
      rw [resolveNames_of_isAbsolute directory habs,
        resolveNames_of_isAbsolute directory ((isAbsolute_join hp hn).trans habs),
        normalNames_join hp hn]
  | false =>
      rw [resolveNames_of_relative directory habs,
        resolveNames_of_relative directory ((isAbsolute_join hp hn).trans habs),
        normalNames_join hp hn, List.foldl_concat, follow_entryName _ _ hn, List.reverse_cons]

theorem isName_of_mem_resolveNames {directory p : Path} {n : Name}
    (hn : n ∈ resolveNames directory p) : IsName n := by
  unfold resolveNames at hn
  split at hn
  · exact isName_of_mem_route hn
  · exact isName_of_mem_route hn

theorem names_resolve (directory p : Path) :
    names (resolve directory p) = resolveNames directory p :=
  names_spell true fun _n hn => isName_of_mem_resolveNames hn

theorem resolve_eq_iff {directory p q : Path} :
    resolve directory p = resolve directory q <->
      resolveNames directory p = resolveNames directory q := by
  constructor
  · intro h
    rw [<- names_resolve, <- names_resolve, h]
  · intro h
    unfold resolve
    rw [h]

theorem resolve_eq_of_normalNames {directory p q : Path} (habs : isAbsolute p = isAbsolute q)
    (h : normalNames p = normalNames q) : resolve directory p = resolve directory q := by
  rw [resolve_eq_iff]
  cases hp : isAbsolute p with
  | true =>
      rw [resolveNames_of_isAbsolute directory hp,
        resolveNames_of_isAbsolute directory (habs ▸ hp), h]
  | false =>
      rw [resolveNames_of_relative directory hp,
        resolveNames_of_relative directory (habs ▸ hp), h]

theorem resolve_normalize (directory p : Path) :
    resolve directory (normalize p) = resolve directory p :=
  resolve_eq_of_normalNames (isAbsolute_normalize p) (normalNames_normalize p)

theorem normalNames_eq_of_resolve {directory p q : Path} (hanchor : anchor p = anchor q)
    (h : resolve directory p = resolve directory q) : normalNames p = normalNames q := by
  rw [resolve_eq_iff] at h
  have habs : isAbsolute p = isAbsolute q := congrArg Prod.fst hanchor
  have hclimb : climb (normalNames p) = climb (normalNames q) := congrArg Prod.snd hanchor
  cases hp : isAbsolute p with
  | true =>
      have hq : isAbsolute q = true := by
        rw [<- habs, hp]
      rwa [resolveNames_of_isAbsolute directory hp, resolveNames_of_isAbsolute directory hq] at h
  | false =>
      have hq : isAbsolute q = false := by
        rw [<- habs, hp]
      have hbase : above ∉ (route false directory).reverse :=
        above_not_mem_straight (straight_route false directory)
      have hsp := straight_normalNames p
      have hsq := straight_normalNames q
      rw [hp] at hsp
      rw [hq] at hsq
      rw [resolveNames_of_relative directory hp, resolveNames_of_relative directory hq] at h
      exact eq_of_foldl_follow hbase hsp hsq hclimb (List.reverse_injective h)

end Path
end CamelSpell
