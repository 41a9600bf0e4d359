import CamelSpell.Run.Pool
import Mathlib.Data.List.Perm.Basic
import Mathlib.Data.List.Range

/-!
# Pools of workers under any schedule

Whichever worker has the next turn, the tasks are claimed in their order and each of them once, and
each slot is written once, with the result of its own task.  When the workers have stopped, the
slots hold the results of the tasks in their order, as if one worker had performed them one after
another.
-/

namespace CamelSpell
namespace Pool

variable {α β : Type}

/-!
# The history of a pool

What is done in the turns of a schedule is recorded as events: a task is claimed, or completed,
and then its slot is written.
-/

inductive Event where
  | claim (index : Nat)
  | complete (index : Nat)
deriving DecidableEq, Repr

def event? (tasks : List α) (p : Pool β) (worker : Nat) : Option Event :=
  match p.holding[worker]? with
  | none => none
  | some (some index) => some (Event.complete index)
  | some none => if p.cursor < tasks.length then some (Event.claim p.cursor) else none

def history (tasks : List α) (perform : α -> β) (p : Pool β) : List Nat -> List Event
  | [] => []
  | worker :: rest =>
      (event? tasks p worker).toList ++ history tasks perform (p.turn tasks perform worker) rest

/-- The claimed tasks of a history. -/
def claims (events : List Event) : List Nat :=
  events.filterMap fun
    | Event.claim index => some index
    | Event.complete _ => none

/-- The completed tasks of a history, whose slots have been written. -/
def completions (events : List Event) : List Nat :=
  events.filterMap fun
    | Event.claim _ => none
    | Event.complete index => some index

def held (p : Pool β) : List Nat :=
  p.holding.filterMap id

theorem claims_append (first second : List Event) :
    claims (first ++ second) = claims first ++ claims second :=
  List.filterMap_append

theorem completions_append (first second : List Event) :
    completions (first ++ second) = completions first ++ completions second :=
  List.filterMap_append

/-!
# One turn

A turn does nothing, completes the task that the worker holds, or claims the next task.
-/

theorem turn_cases (tasks : List α) (perform : α -> β) (p : Pool β) (worker : Nat) :
    (event? tasks p worker = none ∧ p.turn tasks perform worker = p) ∨
    (exists index, p.holding[worker]? = some (some index) ∧
      event? tasks p worker = some (Event.complete index) ∧
      p.turn tasks perform worker =
        { p with
          holding := p.holding.set worker none
          slots := p.slots.set index (tasks[index]?.map perform) }) ∨
    (p.holding[worker]? = some none ∧ p.cursor < tasks.length ∧
      event? tasks p worker = some (Event.claim p.cursor) ∧
      p.turn tasks perform worker =
        { p with
          cursor := p.cursor + 1
          holding := p.holding.set worker (some p.cursor) }) := by
  unfold event? turn
  cases hworker : p.holding[worker]? with
  | none =>
      exact Or.inl ⟨rfl, rfl⟩
  | some task =>
      cases task with
      | some index =>
          exact Or.inr (Or.inl ⟨index, rfl, rfl, rfl⟩)
      | none =>
          by_cases hcursor : p.cursor < tasks.length
          · apply Or.inr
            apply Or.inr
            simp [hcursor]
          · apply Or.inl
            simp [hcursor]

theorem holding_split {holding : List (Option Nat)} {worker : Nat} {task : Option Nat}
    (h : holding[worker]? = some task) :
    exists before after, holding = before ++ task :: after ∧
      forall new, holding.set worker new = before ++ new :: after := by
  rcases List.getElem?_eq_some_iff.mp h with ⟨hlt, htask⟩
  refine ⟨holding.take worker, holding.drop (worker + 1), ?_, ?_⟩
  · rw [<- htask, <- List.drop_eq_getElem_cons hlt, List.take_append_drop]
  · intro new
    rw [List.set_eq_take_append_cons_drop, if_pos hlt]

theorem held_claim {holding : List (Option Nat)} {worker : Nat} (index : Nat)
    (h : holding[worker]? = some none) :
    List.Perm ((holding.set worker (some index)).filterMap id)
      (index :: holding.filterMap id) := by
  rcases holding_split h with ⟨before, after, hholding, hset⟩
  rw [hset, hholding]
  simp [List.filterMap_append, List.perm_middle]

theorem held_complete {holding : List (Option Nat)} {worker index : Nat}
    (h : holding[worker]? = some (some index)) :
    List.Perm (holding.filterMap id)
      (index :: (holding.set worker none).filterMap id) := by
  rcases holding_split h with ⟨before, after, hholding, hset⟩
  rw [hset, hholding]
  simp [List.filterMap_append, List.perm_middle]

/-!
# What every history keeps

The tasks before the cursor are the claimed ones; each of them is either completed or held by one
worker, and exactly the slots of the completed tasks are filled.
-/

/-- The link between the state of a pool and its history. -/
structure Consistent (tasks : List α) (perform : α -> β) (p : Pool β) (events : List Event) :
    Prop where
  cursor_le : p.cursor ≤ tasks.length
  claims_eq : claims events = List.range p.cursor
  claimed : List.Perm (completions events ++ p.held) (List.range p.cursor)
  slots_eq : p.slots = (List.range tasks.length).map fun index =>
    if index ∈ completions events then tasks[index]?.map perform else none

theorem start_consistent (workers : Nat) (tasks : List α) (perform : α -> β) :
    Consistent tasks perform (start workers tasks.length) [] where
  cursor_le := Nat.zero_le _
  claims_eq := rfl
  claimed := by
    simp [start, held, completions]
  slots_eq := by
    simp [start, completions]

theorem consistent_complete {tasks : List α} {perform : α -> β} {p : Pool β}
    {events : List Event} {worker index : Nat}
    (h : Consistent tasks perform p events) (hworker : p.holding[worker]? = some (some index)) :
    Consistent tasks perform
      { p with
        holding := p.holding.set worker none
        slots := p.slots.set index (tasks[index]?.map perform) }
      (events ++ [Event.complete index]) := by
  have hcompletions : completions (events ++ [Event.complete index]) =
      completions events ++ [index] :=
    completions_append events _
  refine ⟨h.cursor_le, ?_, ?_, ?_⟩
  · rw [claims_append, h.claims_eq]
    exact List.append_nil _
  · rw [hcompletions, List.append_assoc, List.singleton_append]
    exact (List.Perm.append_left _ (held_complete hworker).symm).trans h.claimed
  · rw [hcompletions]
    show p.slots.set index (tasks[index]?.map perform) = _
    rw [h.slots_eq]
    apply List.ext_getElem?
    intro i
    rw [List.getElem?_set, List.getElem?_map, List.getElem?_map, List.length_map,
      List.length_range]
    by_cases hi : index = i
    · subst hi
      by_cases hlt : index < tasks.length
      · simp [hlt]
      · simp [hlt]
    · rw [if_neg hi]
      by_cases hlt : i < tasks.length
      · simp [hlt, Ne.symm hi]
      · simp [hlt]

theorem consistent_claim {tasks : List α} {perform : α -> β} {p : Pool β}
    {events : List Event} {worker : Nat}
    (h : Consistent tasks perform p events) (hworker : p.holding[worker]? = some none)
    (hcursor : p.cursor < tasks.length) :
    Consistent tasks perform
      { p with
        cursor := p.cursor + 1
        holding := p.holding.set worker (some p.cursor) }
      (events ++ [Event.claim p.cursor]) := by
  have hcompletions : completions (events ++ [Event.claim p.cursor]) = completions events := by
    rw [completions_append]
    exact List.append_nil _
  refine ⟨hcursor, ?_, ?_, ?_⟩
  · rw [claims_append, h.claims_eq]
    exact List.range_succ.symm
  · rw [hcompletions]
    have hheld := List.Perm.append_left (completions events) (held_claim p.cursor hworker)
    have hmiddle : List.Perm (completions events ++ p.cursor :: p.held)
        (p.cursor :: (completions events ++ p.held)) :=
      List.perm_middle
    have hrange : List.Perm (p.cursor :: List.range p.cursor) (List.range (p.cursor + 1)) := by
      rw [List.range_succ, <- List.singleton_append]
      exact List.perm_append_comm
    exact hheld.trans (hmiddle.trans ((h.claimed.cons p.cursor).trans hrange))
  · rw [hcompletions]
    exact h.slots_eq

theorem consistent_turn {tasks : List α} {perform : α -> β} {p : Pool β} {events : List Event}
    (h : Consistent tasks perform p events) (worker : Nat) :
    Consistent tasks perform (p.turn tasks perform worker)
      (events ++ (event? tasks p worker).toList) := by
  rcases turn_cases tasks perform p worker with
    ⟨hevent, hturn⟩ | ⟨index, hworker, hevent, hturn⟩ | ⟨hworker, hcursor, hevent, hturn⟩
  · rw [hevent, hturn, Option.toList_none, List.append_nil]
    exact h
  · rw [hevent, hturn]
    exact consistent_complete h hworker
  · rw [hevent, hturn]
    exact consistent_claim h hworker hcursor

theorem consistent_runSchedule {tasks : List α} {perform : α -> β} (schedule : List Nat)
    {p : Pool β} {events : List Event} (h : Consistent tasks perform p events) :
    Consistent tasks perform (p.runSchedule tasks perform schedule)
      (events ++ history tasks perform p schedule) := by
  induction schedule generalizing p events with
  | nil =>
      rw [history, List.append_nil]
      exact h
  | cons worker rest ih =>
      rw [history, <- List.append_assoc]
      exact ih (consistent_turn h worker)

/-!
# When the workers have stopped

At any time the slots hold results of some of the tasks, in their order; when the workers have
stopped, they hold all of them.
-/

theorem isDone_iff {tasks : List α} {p : Pool β} :
    p.isDone tasks = true <->
      tasks.length ≤ p.cursor ∧ forall task, task ∈ p.holding -> task = none := by
  unfold isDone
  rw [Bool.and_eq_true, decide_eq_true_iff, List.all_eq_true]
  simp only [Option.isNone_iff_eq_none]

theorem held_eq_nil_of_isDone {tasks : List α} {p : Pool β} (h : p.isDone tasks = true) :
    p.held = [] := by
  unfold held
  rw [List.filterMap_eq_nil_iff]
  exact (isDone_iff.mp h).right

section Done

variable {tasks : List α} {perform : α -> β} {p : Pool β} {events : List Event}

theorem Consistent.cursor_of_isDone (h : Consistent tasks perform p events)
    (hdone : p.isDone tasks = true) : p.cursor = tasks.length :=
  Nat.le_antisymm h.cursor_le (isDone_iff.mp hdone).left

theorem Consistent.completions_of_isDone (h : Consistent tasks perform p events)
    (hdone : p.isDone tasks = true) :
    List.Perm (completions events) (List.range tasks.length) := by
  have hclaimed := h.claimed
  rw [held_eq_nil_of_isDone hdone, List.append_nil, h.cursor_of_isDone hdone] at hclaimed
  exact hclaimed

theorem Consistent.slots_of_isDone (h : Consistent tasks perform p events)
    (hdone : p.isDone tasks = true) : p.slots = tasks.map fun task => some (perform task) := by
  rw [h.slots_eq]
  apply List.ext_getElem?
  intro i
  by_cases hi : i < tasks.length
  · have hmem : i ∈ completions events :=
      (h.completions_of_isDone hdone).mem_iff.mpr (List.mem_range.mpr hi)
    simp [hi, hmem]
  · simp [hi]

theorem Consistent.results_sublist (h : Consistent tasks perform p events) :
    List.Sublist p.results (tasks.map perform) := by
  have hall : (List.range tasks.length).filterMap (fun index => tasks[index]?.map perform) =
      tasks.map perform := by
    have hslots : (List.range tasks.length).map (fun index => tasks[index]?.map perform) =
        tasks.map fun task => some (perform task) := by
      apply List.ext_getElem?
      intro i
      by_cases hi : i < tasks.length <;> simp [hi]
    have hresults := congrArg (List.filterMap id) hslots
    rw [List.filterMap_map, List.filterMap_map] at hresults
    exact hresults.trans (congrFun List.filterMap_eq_map tasks)
  have hsome : p.results = ((List.range tasks.length).filter (· ∈ completions events)).filterMap
      fun index => tasks[index]?.map perform := by
    unfold results
    rw [h.slots_eq, List.filterMap_map, List.filterMap_filter]
    congr 1
    funext index
    simp
  rw [hsome, <- hall]
  exact List.Sublist.filterMap _ List.filter_sublist

theorem Consistent.results_of_isDone (h : Consistent tasks perform p events)
    (hdone : p.isDone tasks = true) : p.results = tasks.map perform := by
  unfold results
  rw [h.slots_of_isDone hdone, List.filterMap_map]
  exact congrFun List.filterMap_eq_map tasks

end Done

/-- Under any schedule that lets the workers stop, a pool performs its tasks as if they were
performed one after another. -/
theorem perform_eq_map {workers : Nat} {tasks : List α} {f : α -> β} {schedule : List Nat}
    (hdone : ((start workers tasks.length).runSchedule tasks f schedule).isDone tasks = true) :
    perform workers tasks f schedule = tasks.map f :=
  (consistent_runSchedule schedule (start_consistent workers tasks f)).results_of_isDone hdone

/-!
# The workers can always go on

As long as there is a worker, a pool that is not done has a turn that does something, and every such
turn brings it closer to the end.
-/

def turnsLeft (tasks : List α) (p : Pool β) : Nat :=
  2 * (tasks.length - p.cursor) + p.held.length

theorem turnsLeft_turn {tasks : List α} (perform : α -> β) {p : Pool β} {worker : Nat}
    (h : event? tasks p worker ≠ none) :
    turnsLeft tasks (p.turn tasks perform worker) + 1 = turnsLeft tasks p := by
  rcases turn_cases tasks perform p worker with
    ⟨hevent, _⟩ | ⟨index, hworker, _, hturn⟩ | ⟨hworker, hcursor, _, hturn⟩
  · exact absurd hevent h
  · rw [hturn]
    have hheld := (held_complete hworker).length_eq
    rw [List.length_cons] at hheld
    simp only [turnsLeft, held]
    omega
  · rw [hturn]
    have hheld := (held_claim p.cursor hworker).length_eq
    rw [List.length_cons] at hheld
    simp only [turnsLeft, held]
    omega

theorem holding_length_turn (tasks : List α) (perform : α -> β) (p : Pool β) (worker : Nat) :
    (p.turn tasks perform worker).holding.length = p.holding.length := by
  rcases turn_cases tasks perform p worker with
    ⟨_, hturn⟩ | ⟨_, _, _, hturn⟩ | ⟨_, _, _, hturn⟩
  · rw [hturn]
  · rw [hturn]
    exact List.length_set
  · rw [hturn]
    exact List.length_set

theorem exists_event {tasks : List α} {p : Pool β}
    (hworkers : tasks ≠ [] -> 0 < p.holding.length) (hdone : p.isDone tasks = false) :
    exists worker, event? tasks p worker ≠ none := by
  by_cases hcursor : p.cursor < tasks.length
  · have htasks : tasks ≠ [] := by
      intro hnil
      rw [hnil] at hcursor
      exact Nat.not_lt_zero _ hcursor
    have hpos := hworkers htasks
    refine ⟨0, ?_⟩
    unfold event?
    rw [List.getElem?_eq_getElem hpos]
    cases p.holding[0] with
    | none =>
        simp [hcursor]
    | some index =>
        simp
  · rw [<- Bool.not_eq_true, isDone_iff] at hdone
    have hbusy : exists task, task ∈ p.holding ∧ task ≠ none := by
      by_contra hnone
      apply hdone
      refine ⟨Nat.le_of_not_lt hcursor, ?_⟩
      intro task htask
      by_contra hsome
      exact hnone ⟨task, htask, hsome⟩
    rcases hbusy with ⟨task, htask, hsome⟩
    rcases List.getElem?_of_mem htask with ⟨worker, hworker⟩
    refine ⟨worker, ?_⟩
    unfold event?
    rw [hworker]
    cases task with
    | none =>
        exact absurd rfl hsome
    | some index =>
        simp

theorem exists_schedule_isDone {tasks : List α} (perform : α -> β) (p : Pool β)
    (hworkers : tasks ≠ [] -> 0 < p.holding.length) :
    exists rest, (p.runSchedule tasks perform rest).isDone tasks = true := by
  -- a turn in which something happens leaves fewer turns
  induction hleft : turnsLeft tasks p using Nat.strong_induction_on generalizing p with
  | h left ih =>
      cases hdone : p.isDone tasks with
      | true =>
          exact ⟨[], hdone⟩
      | false =>
          rcases exists_event hworkers hdone with ⟨worker, hevent⟩
          have hturn := turnsLeft_turn perform hevent
          have hlength := holding_length_turn tasks perform p worker
          rcases ih (turnsLeft tasks (p.turn tasks perform worker)) (by omega)
            (p.turn tasks perform worker) (by rw [hlength]; exact hworkers) rfl with ⟨rest, hrest⟩
          exact ⟨worker :: rest, hrest⟩

theorem holding_length_runSchedule (tasks : List α) (perform : α -> β) (schedule : List Nat)
    (p : Pool β) : (p.runSchedule tasks perform schedule).holding.length = p.holding.length := by
  induction schedule generalizing p with
  | nil =>
      rfl
  | cons worker rest ih =>
      exact (ih (p.turn tasks perform worker)).trans (holding_length_turn tasks perform p worker)

/-!
# Taking turns

When all workers take turns, every second round finds them without a task, and two rounds claim and
complete as many tasks as there are workers.
-/

theorem runSchedule_append (tasks : List α) (perform : α -> β) (p : Pool β)
    (first second : List Nat) :
    p.runSchedule tasks perform (first ++ second) =
      (p.runSchedule tasks perform first).runSchedule tasks perform second :=
  List.foldl_append

def share (tasks : List α) (cursor worker : Nat) : Option Nat :=
  if cursor + worker < tasks.length then some (cursor + worker) else none

theorem runSchedule_claims (tasks : List α) (perform : α -> β) {cursor workers : Nat}
    (slots : List (Option β)) (hcursor : cursor ≤ tasks.length) {k : Nat} (hk : k ≤ workers) :
    runSchedule tasks perform ⟨cursor, List.replicate workers none, slots⟩ (List.range k) =
      ⟨min tasks.length (cursor + k),
        (List.range k).map (share tasks cursor) ++ List.replicate (workers - k) none, slots⟩ := by
  induction k with
  | zero =>
      simp [runSchedule, Nat.min_eq_right hcursor]
  | succ k ih =>
      have hidle : ((List.range k).map (share tasks cursor) ++
          List.replicate (workers - k) none)[k]? = some none := by
        rw [List.getElem?_append_right (by simp)]
        simp only [List.length_map, List.length_range, Nat.sub_self]
        rw [List.getElem?_replicate_of_lt (by omega)]
      rw [List.range_succ, runSchedule_append, ih (Nat.le_of_succ_le hk)]
      show turn tasks perform _ k = _
      unfold turn
      simp only [hidle]
      have hrest : List.replicate (workers - k) (none : Option Nat) =
          none :: List.replicate (workers - (k + 1)) none := by
        rw [show workers - k = (workers - (k + 1)) + 1 by omega]
        rfl
      by_cases hclaim : cursor + k < tasks.length
      · have hmin : min tasks.length (cursor + k) = cursor + k := Nat.min_eq_right (by omega)
        have hnext : min tasks.length (cursor + (k + 1)) = cursor + k + 1 := by omega
        rw [hmin, if_pos hclaim, hnext, List.set_append_right _ _ (by simp), hrest]
        simp [share, hclaim]
      · have hmin : min tasks.length (cursor + k) = tasks.length := Nat.min_eq_left (by omega)
        have hnext : min tasks.length (cursor + (k + 1)) = tasks.length :=
          Nat.min_eq_left (by omega)
        rw [hmin, if_neg (Nat.lt_irrefl _), hnext, hrest]
        simp [share, hclaim]

theorem runSchedule_completes (tasks : List α) (perform : α -> β) {cursor : Nat}
    (busy : List (Option Nat)) (slots : List (Option β))
    (hidle : none ∈ busy -> tasks.length ≤ cursor) {k : Nat} (hk : k ≤ busy.length) :
    exists slots', runSchedule tasks perform ⟨cursor, busy, slots⟩ (List.range k) =
      ⟨cursor, List.replicate k none ++ busy.drop k, slots'⟩ := by
  induction k with
  | zero =>
      exact ⟨slots, rfl⟩
  | succ k ih =>
      rcases ih (Nat.le_of_succ_le hk) with ⟨slots', hslots'⟩
      have hdrop : busy.drop k = busy[k] :: busy.drop (k + 1) := List.drop_eq_getElem_cons hk
      have hholds : (List.replicate k none ++ busy.drop k)[k]? = some busy[k] := by
        rw [List.getElem?_append_right (by simp), hdrop]
        simp
      rw [List.range_succ, runSchedule_append, hslots']
      show exists slots', turn tasks perform _ k = _
      unfold turn
      simp only [hholds]
      have hset : (List.replicate k none ++ busy.drop k).set k none =
          List.replicate (k + 1) none ++ busy.drop (k + 1) := by
        rw [hdrop, List.set_append_right _ _ (by simp), List.length_replicate, Nat.sub_self,
          List.set_cons_zero, List.replicate_succ', List.append_assoc, List.singleton_append]
      cases htask : busy[k] with
      | some index =>
          exact ⟨slots'.set index (tasks[index]?.map perform), by rw [hset]⟩
      | none =>
          have hmem : none ∈ busy := htask ▸ List.getElem_mem hk
          refine ⟨slots', ?_⟩
          simp only
          rw [if_neg (Nat.not_lt.mpr (hidle hmem)), hdrop, htask, List.replicate_succ']
          simp

theorem runSchedule_two_rounds (tasks : List α) (perform : α -> β) (workers : Nat)
    {cursor : Nat} (slots : List (Option β)) (hcursor : cursor ≤ tasks.length) :
    exists slots', runSchedule tasks perform ⟨cursor, List.replicate workers none, slots⟩
        (List.range workers ++ List.range workers) =
      ⟨min tasks.length (cursor + workers), List.replicate workers none, slots'⟩ := by
  have hidle : none ∈ (List.range workers).map (share tasks cursor) ->
      tasks.length ≤ min tasks.length (cursor + workers) := by
    intro h
    rcases List.mem_map.mp h with ⟨worker, hworker, hshare⟩
    have hlt := List.mem_range.mp hworker
    unfold share at hshare
    by_cases hclaim : cursor + worker < tasks.length
    · rw [if_pos hclaim] at hshare
      cases hshare
    · omega
  have hlength : ((List.range workers).map (share tasks cursor)).length = workers := by simp
  rcases runSchedule_completes tasks perform ((List.range workers).map (share tasks cursor)) slots
    hidle (Nat.le_of_eq hlength.symm) with ⟨slots', hslots'⟩
  refine ⟨slots', ?_⟩
  rw [List.drop_of_length_le (Nat.le_of_eq hlength), List.append_nil] at hslots'
  rw [runSchedule_append, runSchedule_claims tasks perform slots hcursor (Nat.le_refl workers)]
  simpa using hslots'

theorem runSchedule_rounds (tasks : List α) (perform : α -> β) (workers : Nat)
    {cursor : Nat} (slots : List (Option β)) (hcursor : cursor ≤ tasks.length) (rounds : Nat) :
    exists slots', runSchedule tasks perform ⟨cursor, List.replicate workers none, slots⟩
        (List.replicate (2 * rounds) (List.range workers)).flatten =
      ⟨min tasks.length (cursor + rounds * workers), List.replicate workers none, slots'⟩ := by
  -- after every two rounds all workers are idle again, so the slots are all that is not known
  induction rounds generalizing cursor slots with
  | zero =>
      exact ⟨slots, by simp [runSchedule, Nat.min_eq_right hcursor]⟩
  | succ rounds ih =>
      rcases runSchedule_two_rounds tasks perform workers slots hcursor with
        ⟨middle, hmiddle⟩
      rcases ih middle (Nat.min_le_left tasks.length (cursor + workers)) with ⟨slots', hslots'⟩
      refine ⟨slots', ?_⟩
      have hsplit : (List.replicate (2 * (rounds + 1)) (List.range workers)).flatten =
          (List.range workers ++ List.range workers) ++
            (List.replicate (2 * rounds) (List.range workers)).flatten := by
        rw [show 2 * (rounds + 1) = 2 * rounds + 1 + 1 by omega, List.replicate_succ,
          List.replicate_succ]
        simp
      have hreach : min tasks.length (min tasks.length (cursor + workers) + rounds * workers) =
          min tasks.length (cursor + (rounds + 1) * workers) := by
        rw [Nat.add_mul, Nat.one_mul]
        omega
      rw [hsplit, runSchedule_append, hmiddle, hslots', hreach]

theorem roundRobin_isDone {workers : Nat} {tasks : List α} (perform : α -> β)
    (hworkers : tasks ≠ [] -> 0 < workers) :
    ((start workers tasks.length).runSchedule tasks perform
      (roundRobin workers tasks.length)).isDone tasks = true := by
  unfold start roundRobin
  rcases runSchedule_rounds tasks perform workers
    (List.replicate tasks.length none) (Nat.zero_le _) (tasks.length / workers + 1) with
    ⟨slots', hslots'⟩
  rw [hslots', isDone_iff]
  constructor
  · show tasks.length ≤ min tasks.length (0 + (tasks.length / workers + 1) * workers)
    by_cases htasks : tasks = []
    · simp [htasks]
    · have hlt := Nat.lt_div_mul_add (a := tasks.length) (hworkers htasks)
      rw [Nat.add_mul, Nat.one_mul]
      omega
  · intro task htask
    exact (List.mem_replicate.mp htask).right

/-!
# Other tasks performed

Which tasks are claimed and held is a matter of the turns alone.
-/

theorem progress_turn (tasks : List α) (f g : α -> β) (worker : Nat) {p q : Pool β}
    (hcursor : p.cursor = q.cursor) (hholding : p.holding = q.holding) :
    (p.turn tasks f worker).cursor = (q.turn tasks g worker).cursor ∧
      (p.turn tasks f worker).holding = (q.turn tasks g worker).holding := by
  unfold turn
  rw [hholding, hcursor]
  cases q.holding[worker]? with
  | none =>
      exact ⟨hcursor, hholding⟩
  | some task =>
      cases task with
      | some index =>
          exact ⟨rfl, rfl⟩
      | none =>
          simp only
          split
          · exact ⟨rfl, rfl⟩
          · exact ⟨hcursor, hholding⟩

theorem isDone_runSchedule (tasks : List α) (f g : α -> β) (schedule : List Nat) {p q : Pool β}
    (hcursor : p.cursor = q.cursor) (hholding : p.holding = q.holding) :
    (p.runSchedule tasks f schedule).isDone tasks =
      (q.runSchedule tasks g schedule).isDone tasks := by
  induction schedule generalizing p q with
  | nil =>
      show p.isDone tasks = q.isDone tasks
      unfold isDone
      rw [hcursor, hholding]
  | cons worker rest ih =>
      rcases progress_turn tasks f g worker hcursor hholding with ⟨hcursor', hholding'⟩
      exact ih hcursor' hholding'

end Pool
end CamelSpell
