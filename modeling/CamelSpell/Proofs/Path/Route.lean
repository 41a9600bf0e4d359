import CamelSpell.Proofs.Path.Name
import Mathlib.Data.List.Induction

/-!
# Routes

Following names one after another takes the last one back at every `..`.  What is left are some
steps upwards, if they are allowed, and entry names behind them; such a row is left alone when it is
followed again.
-/

namespace CamelSpell
namespace Path

/-!
# Straight rows

A row is written last name first, in the way `follow` keeps it.
-/

/-- Steps upwards and entry names behind them. -/
inductive Straight (escapes : Bool) : List Name -> Prop
  | up (k : Nat) (allowed : k = 0 ∨ escapes = true) : Straight escapes (List.replicate k above)
  | down {name : Name} {row : List Name} (isEntry : IsEntryName name)
      (rest : Straight escapes row) : Straight escapes (name :: row)

theorem straight_nil (escapes : Bool) : Straight escapes [] :=
  Straight.up 0 (Or.inl rfl)

theorem follow_entryName (escapes : Bool) (row : List Name) {name : Name} (h : IsEntryName name) :
    follow escapes row name = name :: row := by
  unfold follow
  rw [if_neg h.ne_above]

theorem follow_above_entryName (escapes : Bool) (row : List Name) {name : Name}
    (h : IsEntryName name) : follow escapes (name :: row) above = row := by
  unfold follow
  rw [if_pos rfl]
  simp [h.ne_above]

theorem follow_above_replicate {escapes : Bool} (k : Nat) (allowed : escapes = true) :
    follow escapes (List.replicate k above) above = List.replicate (k + 1) above := by
  cases k with
  | zero =>
      simp [follow, allowed]
  | succ k =>
      simp [follow, List.replicate_succ]

theorem straight_follow {escapes : Bool} {row : List Name} {name : Name}
    (hrow : Straight escapes row) (hname : IsName name) :
    Straight escapes (follow escapes row name) := by
  by_cases habove : name = above
  · subst habove
    cases hrow with
    | up k allowed =>
        cases hescapes : escapes with
        | true =>
            rw [follow_above_replicate k rfl]
            exact Straight.up (k + 1) (Or.inr rfl)
        | false =>
            -- where no step upwards is allowed the row is empty and stays so
            rcases allowed with hzero | htrue
            · subst hzero
              exact straight_nil false
            · rw [hescapes] at htrue
              cases htrue
    | down isEntry rest =>
        rw [follow_above_entryName escapes _ isEntry]
        exact rest
  · have hentry : IsEntryName name := ⟨hname, habove⟩
    rw [follow_entryName escapes row hentry]
    exact Straight.down hentry hrow

theorem straight_foldl {escapes : Bool} {row : List Name} (hrow : Straight escapes row)
    {ns : List Name} (h : forall n, n ∈ ns -> IsName n) :
    Straight escapes (ns.foldl (follow escapes) row) := by
  induction ns generalizing row with
  | nil =>
      exact hrow
  | cons n rest ih =>
      rw [List.foldl_cons]
      apply ih
      · exact straight_follow hrow (h n List.mem_cons_self)
      · intro m hm
        exact h m (List.mem_cons_of_mem n hm)

theorem Straight.append_entryNames {escapes : Bool} {row : List Name} (h : Straight escapes row)
    {down : List Name} (hdown : forall n, n ∈ down -> IsEntryName n) :
    Straight escapes (down ++ row) := by
  induction down with
  | nil =>
      exact h
  | cons n rest ih =>
      rw [List.cons_append]
      exact Straight.down (hdown n List.mem_cons_self)
        (ih fun m hm => hdown m (List.mem_cons_of_mem n hm))

theorem foldl_follow_above {escapes : Bool} (k : Nat) (allowed : k = 0 ∨ escapes = true) :
    (List.replicate k above).foldl (follow escapes) [] = List.replicate k above := by
  induction k with
  | zero =>
      rfl
  | succ k ih =>
      rcases allowed with hzero | hescapes
      · cases hzero
      · rw [List.replicate_succ', List.foldl_concat, ih (Or.inr hescapes),
          follow_above_replicate k hescapes, List.replicate_succ']

theorem foldl_follow_straight {escapes : Bool} {row : List Name} (h : Straight escapes row) :
    row.reverse.foldl (follow escapes) [] = row := by
  induction h with
  | up k allowed =>
      rw [List.reverse_replicate]
      exact foldl_follow_above k allowed
  | down isEntry rest ih =>
      rw [List.reverse_cons, List.foldl_concat, ih, follow_entryName escapes _ isEntry]

theorem isName_of_mem_straight {escapes : Bool} {row : List Name} (h : Straight escapes row)
    {n : Name} (hn : n ∈ row) : IsName n := by
  induction h with
  | up k allowed =>
      rw [List.eq_of_mem_replicate hn]
      exact isName_above
  | down isEntry rest ih =>
      rcases List.mem_cons.mp hn with heq | hmem
      · rw [heq]
        exact isEntry.toIsName
      · exact ih hmem

theorem above_not_mem_straight {row : List Name} (h : Straight false row) : above ∉ row := by
  induction h with
  | up k allowed =>
      rcases allowed with hzero | hfalse
      · rw [hzero]
        exact List.not_mem_nil
      · cases hfalse
  | down isEntry rest ih =>
      intro hmem
      rcases List.mem_cons.mp hmem with heq | hrest
      · exact isEntry.ne_above heq.symm
      · exact ih hrest

/-!
# The route of a path

A route is straight: all its steps upwards come first.
-/

theorem straight_route (escapes : Bool) (p : Path) :
    Straight escapes (route escapes p).reverse := by
  unfold route
  rw [List.reverse_reverse]
  apply straight_foldl (straight_nil escapes)
  intro n hn
  exact isName_of_mem_names hn

theorem isName_of_mem_route {escapes : Bool} {p : Path} {n : Name} (hn : n ∈ route escapes p) :
    IsName n :=
  isName_of_mem_straight (straight_route escapes p) (List.mem_reverse.mpr hn)

theorem route_of_names {escapes : Bool} {p : Path} {ns : List Name} (hnames : names p = ns)
    (h : Straight escapes ns.reverse) : route escapes p = ns := by
  have hfold := foldl_follow_straight h
  unfold route
  rw [hnames]
  rw [List.reverse_reverse] at hfold
  rw [hfold, List.reverse_reverse]

/-!
# Routes from a directory

Following a path below a directory gives the same row as following its route.
-/

theorem foldl_follow_route (base ns : List Name) :
    ((ns.foldl (follow true) []).reverse).foldl (follow false) base =
      ns.foldl (follow false) base := by
  induction ns using List.reverseRecOn with
  | nil =>
      rfl
  | append_singleton before name ih =>
      rw [List.foldl_concat, List.foldl_concat, <- ih]
      by_cases habove : name = above
      · subst habove
        cases hrow : before.foldl (follow true) [] with
        | nil =>
            rfl
        | cons last row =>
            by_cases hlast : last = above
            · have hstep : follow true (last :: row) above = above :: last :: row := by
                simp [follow, hlast]
              rw [hstep, List.reverse_cons, List.foldl_concat]
            · have hback : forall escapes others,
                  follow escapes (last :: others) above = others := by
                intro escapes others
                simp [follow, hlast]
              have hon : forall others, follow false others last = last :: others := by
                intro others
                simp [follow, hlast]
              rw [hback, List.reverse_cons, List.foldl_concat, hon, hback]
      · have hon : forall escapes others, follow escapes others name = name :: others := by
          intro escapes others
          simp [follow, habove]
        rw [hon, List.reverse_cons, List.foldl_concat]

theorem foldl_follow_entryNames (escapes : Bool) (base : List Name) {ns : List Name}
    (h : forall n, n ∈ ns -> IsEntryName n) :
    ns.foldl (follow escapes) base = ns.reverse ++ base := by
  induction ns generalizing base with
  | nil =>
      rfl
  | cons n rest ih =>
      rw [List.foldl_cons, follow_entryName escapes base (h n List.mem_cons_self),
        ih _ (fun m hm => h m (List.mem_cons_of_mem n hm)), List.reverse_cons, List.append_assoc,
        List.singleton_append]

theorem foldl_follow_upwards {base : List Name} (h : above ∉ base) (k : Nat) :
    (List.replicate k above).foldl (follow false) base = base.drop k := by
  induction k generalizing base with
  | zero =>
      rfl
  | succ k ih =>
      rw [List.replicate_succ, List.foldl_cons]
      cases base with
      | nil =>
          have hstep : follow false [] above = [] := rfl
          rw [hstep, ih h, List.drop_nil, List.drop_nil]
      | cons last before =>
          have hlast : last ≠ above := by
            intro heq
            exact h (heq ▸ List.mem_cons_self)
          have hstep : follow false (last :: before) above = before := by
            simp [follow, hlast]
          rw [hstep, ih (fun hmem => h (List.mem_cons_of_mem last hmem)), List.drop_succ_cons]

/-!
# Climbing

Two straight rows that climb equally far lead to one place only if they are the same.
-/

def climb (ns : List Name) : Nat :=
  (ns.takeWhile fun n => n == above).length

theorem climb_replicate_append (k : Nat) {down : List Name}
    (h : forall n, n ∈ down -> IsEntryName n) :
    climb (List.replicate k above ++ down) = k := by
  have hdown : down.takeWhile (fun n => n == above) = [] := by
    cases down with
    | nil =>
        rfl
    | cons n rest =>
        have hn := (h n List.mem_cons_self).ne_above
        simp [hn]
  have hup : forall n, n ∈ List.replicate k above -> (n == above) = true := by
    intro n hn
    rw [List.eq_of_mem_replicate hn]
    exact beq_self_eq_true above
  unfold climb
  rw [List.takeWhile_append_of_pos hup, hdown, List.append_nil, List.length_replicate]

theorem Straight.exists_descent {escapes : Bool} {row : List Name} (h : Straight escapes row) :
    exists down, row.reverse = List.replicate (climb row.reverse) above ++ down ∧
      forall n, n ∈ down -> IsEntryName n := by
  have hsplit : exists k down, row.reverse = List.replicate k above ++ down ∧
      forall n, n ∈ down -> IsEntryName n := by
    induction h with
    | up k allowed =>
        refine ⟨k, [], ?_, ?_⟩
        · rw [List.reverse_replicate, List.append_nil]
        · intro n hn
          cases hn
    | @down name row isEntry rest ih =>
        rcases ih with ⟨k, down, hrow, hdown⟩
        refine ⟨k, down ++ [name], ?_, ?_⟩
        · rw [List.reverse_cons, hrow, List.append_assoc]
        · intro n hn
          rcases List.mem_append.mp hn with hmem | hlast
          · exact hdown n hmem
          · rw [List.mem_singleton.mp hlast]
            exact isEntry
  rcases hsplit with ⟨k, down, hrow, hdown⟩
  refine ⟨down, ?_, hdown⟩
  rw [hrow, climb_replicate_append k hdown]

theorem climb_append_entryNames {escapes : Bool} {ns : List Name}
    (h : Straight escapes ns.reverse) {down : List Name}
    (hdown : forall n, n ∈ down -> IsEntryName n) : climb (ns ++ down) = climb ns := by
  rcases h.exists_descent with ⟨descent, hsplit, hdescent⟩
  rw [List.reverse_reverse] at hsplit
  have hwhole : ns ++ down = List.replicate (climb ns) above ++ (descent ++ down) := by
    rw [<- List.append_assoc, <- hsplit]
  rw [hwhole]
  apply climb_replicate_append
  intro n hn
  rcases List.mem_append.mp hn with hin | hin
  · exact hdescent n hin
  · exact hdown n hin

theorem eq_of_foldl_follow {base ns ms : List Name} (hbase : above ∉ base)
    (hns : Straight true ns.reverse) (hms : Straight true ms.reverse) (hclimb : climb ns = climb ms)
    (hplace : ns.foldl (follow false) base = ms.foldl (follow false) base) : ns = ms := by
  rcases hns.exists_descent with ⟨down, hsplit, hdown⟩
  rcases hms.exists_descent with ⟨descent, hsplit', hdescent⟩
  rw [List.reverse_reverse] at hsplit hsplit'
  rw [hsplit, hsplit', <- hclimb, List.foldl_append, List.foldl_append,
    foldl_follow_upwards hbase, foldl_follow_entryNames false _ hdown,
    foldl_follow_entryNames false _ hdescent] at hplace
  have hsame : down = descent :=
    List.reverse_injective (List.append_cancel_right hplace)
  rw [hsplit, hsplit', hclimb, hsame]

end Path
end CamelSpell
