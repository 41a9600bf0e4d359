import CamelSpell.Log.Logger
import Mathlib.Data.List.Induction

/-!
# Families of loggers

Whatever is done with the loggers of a family, they all go by the level and the format that were set
last, through whichever of them, and write where they were last told to, although each holds an
outlet of its own and refers to another one.  A scope belongs to its logger alone: it is made up of
the scope of the creator at that moment and a further name, and only configuring the logger itself
changes it afterwards.
-/

namespace CamelSpell
namespace Log

/-- The settings in force after some requests: the last level and the last format that one of them
asks for, or those of the start. -/
def Settings.afterAll (start : Settings) (asked : List Options) : Settings :=
  ⟨((asked.filterMap Options.level).getLast?).getD start.level,
    ((asked.filterMap Options.format).getLast?).getD start.format⟩

theorem Settings.afterAll_cons (start : Settings) (o : Options) (rest : List Options) :
    start.afterAll (o :: rest) = (start.update o).afterAll rest := by
  unfold afterAll update
  cases hlevel : o.level <;> cases hformat : o.format <;>
    simp [hlevel, hformat, List.getLast?_cons]

theorem Settings.afterAll_concat (start : Settings) (asked : List Options) (o : Options) :
    start.afterAll (asked ++ [o]) = (start.afterAll asked).update o := by
  unfold afterAll update
  cases hlevel : o.level <;> cases hformat : o.format <;>
    simp [hlevel, hformat, List.filterMap_append]

def Destination.afterAll (start : Destination) (asked : List Options) : Destination :=
  ((asked.filterMap Options.destination).getLast?).getD start

def Outlet.afterAll (start : Outlet) (asked : List Options) : Outlet :=
  ⟨start.settings.afterAll asked, start.destination.afterAll asked⟩

theorem Outlet.afterAll_concat (start : Outlet) (asked : List Options) (o : Options) :
    start.afterAll (asked ++ [o]) = (start.afterAll asked).update o := by
  unfold afterAll update Destination.afterAll
  rw [Settings.afterAll_concat]
  cases hdestination : o.destination <;> simp [hdestination, List.filterMap_append]

theorem Outlet.afterAll_concat_nothing (start : Outlet) (asked : List Options) :
    start.afterAll (asked ++ [Options.nothing]) = start.afterAll asked :=
  start.afterAll_concat asked Options.nothing

namespace Family

/-!
# Histories

In a history loggers are made from others, configured and written to.  The number of a new logger
is the number of those that have been made, itself included.
-/

inductive Operation
  | child (logger : Nat) (scope : String)
  | configure (logger : Nat) (o : Options)
  | log (logger : Nat) (severity : Severity) (message : String) (fields : Fields) (time : String)

namespace Operation

def logger : Operation -> Nat
  | child logger _ => logger
  | configure logger _ => logger
  | log logger _ _ _ _ => logger

def isChild : Operation -> Bool
  | child _ _ => true
  | _ => false

def asked : Operation -> Options
  | configure _ o => o
  | _ => Options.nothing

def renames (logger : Nat) : Operation -> Bool
  | configure other o => other = logger && o.scope.isSome
  | _ => false

end Operation

/-- The family after an operation, and what was written where. -/
def perform (f : Family) : Operation -> Family × Option (Destination × String)
  | .child logger scope => (f.child logger scope, none)
  | .configure logger o => (f.configure logger o, none)
  | .log logger severity message fields time =>
      (f, f.write logger severity message fields time)

def after (o : Options) (ops : List Operation) : Family :=
  ops.foldl (fun f op => (f.perform op).1) (start o)

def made (ops : List Operation) : Nat :=
  ops.countP Operation.isChild

/-- Operations are about loggers that are there, the last of which has a number at first. -/
def IsHistory (last : Nat) : List Operation -> Prop
  | [] => True
  | op :: rest => op.logger ≤ last ∧ IsHistory (last + made [op]) rest

instance decidableIsHistory (last : Nat) : (ops : List Operation) -> Decidable (IsHistory last ops)
  | [] => isTrue trivial
  | op :: rest =>
      have := decidableIsHistory (last + made [op]) rest
      inferInstanceAs (Decidable (op.logger ≤ last ∧ IsHistory (last + made [op]) rest))

/-- The names that make up the scope of a logger.  The operations are those before, last first. -/
def chainBack (o : Options) : List Operation -> Nat -> List String
  | [], _ => o.scope.toList
  | .child creator scope :: past, logger =>
      if logger = made past + 1 then chainBack o past creator ++ [scope]
      else chainBack o past logger
  | .configure other asked :: past, logger =>
      match if other = logger then asked.scope else none with
      | some scope => [scope]
      | none => chainBack o past logger
  | .log _ _ _ _ _ :: past, logger => chainBack o past logger

def chain (o : Options) (ops : List Operation) (logger : Nat) : List String :=
  chainBack o ops.reverse logger

/-- Names with colons between them; empty ones in front are left out. -/
def joined (names : List String) : Option String :=
  if names.isEmpty then none else some (String.intercalate ":" (names.dropWhile String.isEmpty))

theorem after_append (o : Options) (ops rest : List Operation) :
    after o (ops ++ rest) = rest.foldl (fun f op => (f.perform op).1) (after o ops) :=
  List.foldl_append

theorem made_append (ops rest : List Operation) : made (ops ++ rest) = made ops + made rest :=
  List.countP_append

theorem made_reverse (ops : List Operation) : made ops.reverse = made ops :=
  List.countP_reverse

theorem isHistory_append {last : Nat} {ops rest : List Operation} :
    IsHistory last (ops ++ rest) <-> IsHistory last ops ∧ IsHistory (last + made ops) rest := by
  induction ops generalizing last with
  | nil =>
      simp [IsHistory, made]
  | cons op ops ih =>
      have hmade : made (op :: ops) = made [op] + made ops := made_append [op] ops
      simp only [List.cons_append, IsHistory, ih, hmade, and_assoc, Nat.add_assoc]

/-!
# Names with colons

A name that is qualified by the names before it comes behind them with a colon.
-/

theorem isEmpty_intercalate {first : String} (h : first.isEmpty = false) (rest : List String) :
    (String.intercalate ":" (first :: rest)).isEmpty = false := by
  cases rest with
  | nil => simpa using h
  | cons second rest => simp [String.intercalate_cons_cons]

theorem joined_concat (names : List String) (name : String) :
    joined (names ++ [name]) = some (qualify (joined names) name) := by
  have hne : (names ++ [name]).isEmpty = false := by simp
  unfold joined
  rw [hne, if_neg Bool.false_ne_true, List.dropWhile_append]
  cases hnames : names.dropWhile String.isEmpty with
  | nil =>
      -- Empty names leave nothing in front of the last one, whether there are some or not.
      have hlast : String.intercalate ":" ([name].dropWhile String.isEmpty) = name := by
        by_cases hname : name.isEmpty = true
        · simpa [hname] using (String.isEmpty_iff.mp hname).symm
        · simp [hname]
      rw [List.isEmpty_nil, if_pos rfl, hlast]
      cases names with
      | nil => rfl
      | cons first rest => rfl
  | cons first rest =>
      have hdropped : names.dropWhile String.isEmpty ≠ [] := by
        rw [hnames]
        exact List.cons_ne_nil first rest
      have hfirst : first.isEmpty = false := by
        have hhead := List.head_dropWhile_not String.isEmpty hdropped
        simp only [hnames, List.head_cons] at hhead
        exact hhead
      have hsome : names.isEmpty = false := by
        cases names with
        | nil => exact absurd rfl hdropped
        | cons _ _ => rfl
      rw [List.isEmpty_cons, hsome, if_neg Bool.false_ne_true, if_neg Bool.false_ne_true,
        String.intercalate_append_of_ne_nil (List.cons_ne_nil first rest) (by simp)]
      simp [qualify, isEmpty_intercalate hfirst rest]

/-!
# What an operation does to the views of a family

The outlets, scopes and parents of the members change independently of each other.
-/

theorem map_modify {α β : Type} (get : α -> β) (change : α -> α) (change' : β -> β)
    (h : forall a, get (change a) = change' (get a)) (l : List α) (i : Nat) :
    (l.modify i change).map get = (l.map get).modify i change' := by
  apply List.ext_getElem?
  intro j
  rw [List.getElem?_map, List.getElem?_modify, List.getElem?_modify, List.getElem?_map]
  by_cases hij : i = j
  · simp [hij, Function.comp_def, h]
  · simp [hij]

theorem parents_child (f : Family) (i : Nat) (scope : String) :
    (f.child i scope).parents = f.parents ++ [some (f.root i)] :=
  List.map_append

theorem scopes_child (f : Family) (i : Nat) (scope : String) :
    (f.child i scope).scopes = f.scopes ++ [some (qualify (f.scope i) scope)] :=
  List.map_append

theorem outlets_child (f : Family) (i : Nat) (scope : String) :
    (f.child i scope).outlets = f.outlets ++ [Outlet.standard] :=
  List.map_append

theorem parents_configure (f : Family) (i : Nat) (o : Options) :
    (f.configure i o).parents = f.parents := by
  unfold parents configure
  rw [map_modify Member.parent (Member.rename o) id fun _ => rfl,
    map_modify Member.parent (Member.update o) id fun _ => rfl, List.modify_id, List.modify_id]

theorem scopes_configure (f : Family) (i : Nat) (o : Options) :
    (f.configure i o).scopes = f.scopes.modify i (o.scope.or ·) := by
  unfold scopes configure
  rw [map_modify Member.scope (Member.rename o) (o.scope.or ·) fun _ => rfl,
    map_modify Member.scope (Member.update o) id fun _ => rfl, List.modify_id]

theorem outlets_configure (f : Family) (i : Nat) (o : Options) :
    (f.configure i o).outlets = f.outlets.modify (f.root i) (·.update o) := by
  unfold outlets configure
  rw [map_modify Member.outlet (Member.rename o) id fun _ => rfl,
    map_modify Member.outlet (Member.update o) (·.update o) fun _ => rfl, List.modify_id]

/-!
# Loggers and the first one

All loggers but the first one refer to that one, children of children too; so its outlet is that
of all.
-/

def HasRoot (f : Family) (last : Nat) : Prop :=
  f.parents = none :: List.replicate last (some 0)

section HasRoot

variable {f : Family} {last i j : Nat}

theorem HasRoot.length_eq (h : f.HasRoot last) : f.members.length = last + 1 := by
  have hlength := congrArg List.length h
  simpa [parents] using hlength

theorem HasRoot.root_eq (h : f.HasRoot last) (hi : i ≤ last) : f.root i = 0 := by
  unfold root
  rw [h]
  cases i with
  | zero => rfl
  | succ i => simp [Nat.lt_of_succ_le hi]

theorem HasRoot.outlet_eq (h : f.HasRoot last) (hi : i ≤ last) : f.outlet i = f.outlet 0 := by
  unfold outlet
  rw [h.root_eq hi, h.root_eq (Nat.zero_le last)]

theorem hasRoot_start (o : Options) : (start o).HasRoot 0 :=
  rfl

theorem HasRoot.child (h : f.HasRoot last) (hi : i ≤ last) (scope : String) :
    (f.child i scope).HasRoot (last + 1) := by
  unfold HasRoot
  rw [parents_child, h, h.root_eq hi, List.replicate_succ']
  rfl

theorem HasRoot.configure (h : f.HasRoot last) (i : Nat) (o : Options) :
    (f.configure i o).HasRoot last :=
  (parents_configure f i o).trans h

theorem HasRoot.outlet_child (h : f.HasRoot last) (hi : i ≤ last) (scope : String) :
    (f.child i scope).outlet 0 = f.outlet 0 := by
  unfold outlet
  rw [(h.child hi scope).root_eq (Nat.zero_le _), h.root_eq (Nat.zero_le last), outlets_child,
    List.getElem?_append_left (by simp [outlets, h.length_eq])]

theorem HasRoot.outlet_configure (h : f.HasRoot last) (hi : i ≤ last) (o : Options) :
    (f.configure i o).outlet 0 = (f.outlet 0).update o := by
  have hlength : 0 < f.outlets.length := by
    simp [outlets, h.length_eq]
  unfold outlet
  rw [(h.configure i o).root_eq (Nat.zero_le last), h.root_eq (Nat.zero_le last), outlets_configure,
    h.root_eq hi, List.getElem?_modify, List.getElem?_eq_getElem hlength]
  rfl

end HasRoot

/-!
# Scopes

A scope is fixed when its logger is made, and changed when that logger is configured with another
one.
-/

section Scopes

variable {f : Family} {j : Nat}

theorem scope_child_new (f : Family) (i : Nat) (scope : String) :
    (f.child i scope).scope f.members.length = some (qualify (f.scope i) scope) := by
  have hlength : f.scopes.length = f.members.length := List.length_map ..
  unfold Family.scope
  rw [scopes_child, <- hlength, List.getElem?_concat_length]
  rfl

theorem scope_child_old (hj : j < f.members.length) (i : Nat) (scope : String) :
    (f.child i scope).scope j = f.scope j := by
  unfold Family.scope
  rw [scopes_child, List.getElem?_append_left (by simpa [scopes] using hj)]

theorem scope_configure (hj : j < f.members.length) (i : Nat) (o : Options) :
    (f.configure i o).scope j = if i = j then o.scope.or (f.scope j) else f.scope j := by
  have hscope : j < f.scopes.length := by
    simpa [scopes] using hj
  unfold Family.scope
  rw [scopes_configure, List.getElem?_modify, List.getElem?_eq_getElem hscope]
  by_cases hij : i = j
  · simp [hij]
  · simp [hij]

end Scopes

/-!
# Families after a history

The invariant says what a family is after a history in terms of the history alone.  Operations
that do not rename a logger leave its scope alone.
-/

section History

variable {o : Options} {ops : List Operation} {f : Family} {i : Nat}

theorem chain_child_new (o : Options) (ops : List Operation) (creator : Nat) (name : String) :
    chain o (ops ++ [.child creator name]) (made ops + 1) = chain o ops creator ++ [name] := by
  simp [chain, chainBack, made_reverse]

theorem chain_child_old (hi : i ≤ made ops) (creator : Nat) (name : String) :
    chain o (ops ++ [.child creator name]) i = chain o ops i := by
  simp [chain, chainBack, made_reverse, Nat.ne_of_lt (Nat.lt_succ_of_le hi)]

theorem joined_singleton (name : String) : joined [name] = some name :=
  joined_concat [] name

theorem joined_chain_configure (o : Options) (ops : List Operation) (other i : Nat)
    (asked : Options) :
    joined (chain o (ops ++ [.configure other asked]) i) =
      if other = i then asked.scope.or (joined (chain o ops i)) else joined (chain o ops i) := by
  unfold chain
  rw [List.reverse_append]
  by_cases hother : other = i
  · cases hscope : asked.scope <;> simp [chainBack, hother, hscope, joined_singleton]
  · simp [chainBack, hother]

structure IsAfter (o : Options) (ops : List Operation) (f : Family) : Prop where
  hasRoot : f.HasRoot (made ops)
  outlet_eq : f.outlet 0 = (Outlet.standard.update o).afterAll (ops.map Operation.asked)
  scope_eq : forall i, i ≤ made ops -> f.scope i = joined (chain o ops i)

theorem isAfter_start (o : Options) : IsAfter o [] (start o) where
  hasRoot := hasRoot_start o
  outlet_eq := rfl
  scope_eq := by
    intro i hi
    rw [Nat.le_zero.mp hi]
    show o.scope = joined o.scope.toList
    cases o.scope with
    | none => rfl
    | some scope => exact (joined_singleton scope).symm

theorem IsAfter.perform (h : IsAfter o ops f) {op : Operation} (hop : op.logger ≤ made ops) :
    IsAfter o (ops ++ [op]) (f.perform op).1 := by
  have hlength := h.hasRoot.length_eq
  cases op with
  | child creator name =>
      refine ⟨?_, ?_, ?_⟩
      · rw [made_append]
        exact h.hasRoot.child hop name
      · rw [List.map_append]
        exact (h.hasRoot.outlet_child hop name).trans
          (h.outlet_eq.trans (Outlet.afterAll_concat_nothing _ _).symm)
      · intro i hi
        rw [made_append] at hi
        rcases Nat.lt_or_eq_of_le hi with hold | hnew
        · have hi : i ≤ made ops := Nat.lt_succ_iff.mp hold
          rw [chain_child_old hi, <- h.scope_eq i hi]
          exact scope_child_old (by omega) creator name
        · have hnumber : i = made ops + 1 := hnew
          rw [hnumber, chain_child_new, joined_concat, <- h.scope_eq creator hop, <- hlength]
          exact scope_child_new f creator name
  | configure other asked =>
      refine ⟨?_, ?_, ?_⟩
      · rw [made_append]
        exact h.hasRoot.configure other asked
      · rw [List.map_append]
        exact (h.hasRoot.outlet_configure hop asked).trans
          ((congrArg (Outlet.update · asked) h.outlet_eq).trans
            (Outlet.afterAll_concat _ _ _).symm)
      · intro i hi
        have hi : i ≤ made ops := by
          simpa [made_append, made, Operation.isChild] using hi
        rw [joined_chain_configure, <- h.scope_eq i hi]
        exact scope_configure (by omega) other asked
  | log other severity message fields time =>
      refine ⟨?_, ?_, ?_⟩
      · rw [made_append]
        exact h.hasRoot
      · rw [List.map_append]
        exact h.outlet_eq.trans (Outlet.afterAll_concat_nothing _ _).symm
      · intro i hi
        rw [made_append] at hi
        rw [chain, List.reverse_append]
        exact h.scope_eq i hi

theorem isAfter_after (o : Options) {ops : List Operation} (h : IsHistory 0 ops) :
    IsAfter o ops (after o ops) := by
  induction ops using List.reverseRecOn with
  | nil =>
      exact isAfter_start o
  | append_singleton ops op ih =>
      rcases isHistory_append.mp h with ⟨hops, hop, -⟩
      rw [after_append]
      rw [Nat.zero_add] at hop
      exact (ih hops).perform hop

theorem scope_perform (hi : i < f.members.length) {op : Operation} (hop : op.renames i = false) :
    (f.perform op).1.scope i = f.scope i := by
  cases op with
  | child creator name =>
      exact scope_child_old hi creator name
  | configure other asked =>
      have hscope : other = i -> asked.scope = none := by
        simpa [Operation.renames] using hop
      refine (scope_configure hi other asked).trans ?_
      by_cases hother : other = i
      · rw [if_pos hother, hscope hother]
        rfl
      · rw [if_neg hother]
  | log other severity message fields time =>
      rfl

theorem length_le_perform (f : Family) (op : Operation) :
    f.members.length ≤ (f.perform op).1.members.length := by
  cases op with
  | child creator name => simp [perform, Family.child]
  | configure other asked => simp [perform, Family.configure]
  | log other severity message fields time => exact Nat.le_refl _

theorem scope_foldl_perform (hi : i < f.members.length) {rest : List Operation}
    (hrest : forall op, op ∈ rest -> op.renames i = false) :
    (rest.foldl (fun f op => (f.perform op).1) f).scope i = f.scope i := by
  induction rest generalizing f with
  | nil =>
      rfl
  | cons op rest ih =>
      rw [List.foldl_cons, ih (Nat.lt_of_lt_of_le hi (length_le_perform f op))
        fun op hop => hrest op (List.mem_cons_of_mem _ hop)]
      exact scope_perform hi (hrest op List.mem_cons_self)

end History

/-!
# Records

A logger writes one record or none, which the level decides.
-/

theorem line_ne_empty (r : Record) (format : Format) (time : String) : r.line format time ≠ "" := by
  cases format <;> simp [Record.line]

theorem admits_iff {l : Level} {s : Severity} :
    l.admits s = true <-> exists least, l = .from least ∧ least.rank ≤ s.rank := by
  unfold Level.admits
  cases l with
  | silent => cases s <;> simp [Level.rank, Severity.rank]
  | «from» least =>
      simp only [Level.from.injEq, exists_eq_left']
      exact decide_eq_true_iff

theorem log_eq (f : Family) (i : Nat) (s : Severity) (message : String) (fields : Fields)
    (time : String) :
    (f.log i s message fields time ≠ "" <->
      exists least, (f.settings i).level = .from least ∧ least.rank ≤ s.rank) ∧
    (f.log i s message fields time ≠ "" -> f.log i s message fields time =
      Record.line ⟨s, f.scope i, message, fields⟩ (f.settings i).format time) := by
  rw [<- admits_iff]
  unfold Family.log Settings.render
  cases (f.settings i).level.admits s with
  | true => exact ⟨by simp [line_ne_empty], fun _ => rfl⟩
  | false => simp

theorem write_eq (f : Family) (i : Nat) (s : Severity) (message : String) (fields : Fields)
    (time : String) :
    f.write i s message fields time =
      if f.log i s message fields time = "" then none
      else some (f.destination i, f.log i s message fields time) := by
  unfold Family.write isEnabled Family.log Settings.render
  cases (f.settings i).level.admits s with
  | true => simp [line_ne_empty]
  | false => simp

/-- After any history, whichever logger of the family is looked at: it goes by the level and the
format that were set last through any of them, it writes one record if the level admits it and
nothing otherwise, it writes where any of them was last told to, its scope is made up of the names
along its creation, and only configuring that very logger changes the scope. -/
theorem after_history (o : Options) {ops : List Operation} (h : IsHistory 0 ops) {i : Nat}
    (hi : i ≤ made ops) :
    (after o ops).settings i =
        (Settings.standard.update o).afterAll (ops.map Operation.asked) ∧
      (forall severity message fields time,
        ((after o ops).log i severity message fields time ≠ "" <->
          exists least, ((after o ops).settings i).level = .from least ∧
            least.rank ≤ severity.rank) ∧
        ((after o ops).log i severity message fields time ≠ "" ->
          (after o ops).log i severity message fields time =
            Record.line ⟨severity, (after o ops).scope i, message, fields⟩
              ((after o ops).settings i).format time) ∧
        ((after o ops).perform (.log i severity message fields time)).2 =
          if (after o ops).log i severity message fields time = "" then none
          else some ((o.destination.getD Destination.standardError).afterAll
              (ops.map Operation.asked),
            (after o ops).log i severity message fields time)) ∧
      (after o ops).scope i = joined (chain o ops i) ∧
      (forall name, (after o (ops ++ [.child i name])).scope (made ops + 1) =
        some (qualify ((after o ops).scope i) name)) ∧
      (forall asked, (after o (ops ++ [.configure i asked])).scope i =
        asked.scope.or ((after o ops).scope i)) ∧
      forall rest, (forall op, op ∈ rest -> op.renames i = false) ->
        (after o (ops ++ rest)).scope i = (after o ops).scope i := by
  have hafter := isAfter_after o h
  have hlength := hafter.hasRoot.length_eq
  have houtlet := (hafter.hasRoot.outlet_eq hi).trans hafter.outlet_eq
  refine ⟨congrArg Outlet.settings houtlet, ?_, hafter.scope_eq i hi, ?_, ?_, ?_⟩
  · intro severity message fields time
    rcases log_eq (after o ops) i severity message fields time with ⟨hlevel, hline⟩
    refine ⟨hlevel, hline, ?_⟩
    have hdestination : (after o ops).destination i =
        (o.destination.getD Destination.standardError).afterAll (ops.map Operation.asked) :=
      congrArg Outlet.destination houtlet
    rw [<- hdestination]
    exact write_eq (after o ops) i severity message fields time
  · intro name
    rw [after_append, <- hlength]
    exact scope_child_new (after o ops) i name
  · intro asked
    rw [after_append]
    exact (scope_configure (by omega) i asked).trans (if_pos rfl)
  · intro rest hrest
    rw [after_append]
    exact scope_foldl_perform (by omega) hrest

theorem after_history_renamed :
    let ops : List Operation := [.child 0 "run", .child 1 "pool",
      .configure 2 ⟨none, some .text, some "jobs", some .own⟩, .child 2 "one",
      .configure 1 ⟨some (.from .error), none, none, none⟩]
    (IsHistory 0 ops ∧ 3 ≤ made ops) ∧
      (after ⟨none, none, some "main", none⟩ ops).settings 3 = ⟨.from .error, .text⟩ ∧
      (after ⟨none, none, some "main", none⟩ ops).scope 3 = some "jobs:one" ∧
      (after ⟨none, none, some "main", none⟩ ops).log 3 .warn "late" [] "now" = "" ∧
      ((after ⟨none, none, some "main", none⟩ ops).perform (.log 3 .error "lost" [] "now")).2 =
        some (.own, "now ERROR [jobs:one] lost\n") := by
  intro ops
  have hops : IsHistory 0 ops := by decide
  have hthree : 3 ≤ made ops := by decide
  rcases after_history ⟨none, none, some "main", none⟩ hops hthree with
    ⟨hsettings, hlog, hscope, -, -, -⟩
  have hquiet : (after ⟨none, none, some "main", none⟩ ops).settings 3 = ⟨.from .error, .text⟩ :=
    hsettings
  have hjobs : (after ⟨none, none, some "main", none⟩ ops).scope 3 = some "jobs:one" :=
    hscope.trans (by decide)
  refine ⟨⟨hops, hthree⟩, hquiet, hjobs, ?_, ?_⟩
  · have hwarn := (hlog .warn "late" [] "now").1
    rw [hquiet] at hwarn
    by_contra hne
    rcases hwarn.mp hne with ⟨least, hleast, hrank⟩
    cases hleast
    exact absurd hrank (by decide)
  · rcases hlog .error "lost" [] "now" with ⟨hwrites, hline, hwhere⟩
    have hne := hwrites.mpr ⟨.error, congrArg Settings.level hquiet, by decide⟩
    rw [hwhere, if_neg hne, hline hne, hquiet, hjobs]
    rfl

end Family
end Log
end CamelSpell
