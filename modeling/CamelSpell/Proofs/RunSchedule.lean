import CamelSpell.Proofs.Pool
import CamelSpell.Run.Basic

/-!
# Runs under any schedule

A run checks its files with several workers.  How many there are and in which order they take their
turns decides nothing: once they have stopped, the outcome and the log are those of a run that
checks the files one after another.
-/

namespace CamelSpell

open Log

namespace RunRequest

/-!
# Runs with one worker and with many

Every number asks for a worker if there is a file, and however the workers have taken their turns
so far, they can come to a stop.
-/

def poolAfter (q : RunRequest) (files : List Path) (schedule : List Nat) : Pool CheckedFile :=
  (Pool.start (q.workers files.length) files.length).runSchedule files
    (checkFile q.fileSystem q.rules) schedule

def poolHistory (q : RunRequest) (files : List Path) (schedule : List Nat) : List Pool.Event :=
  Pool.history files (checkFile q.fileSystem q.rules)
    (Pool.start (q.workers files.length) files.length) schedule

def checkFilesInOrder (q : RunRequest) (invalid : List Warning) (files : List Path) :
    Logged RunError RunOutcome :=
  q.conclude invalid files (files.map (checkFile q.fileSystem q.rules))

def runInOrder (q : RunRequest) : Logged RunError RunOutcome := do
  let (invalid, files) <- q.discover.mapError .failure
  q.checkFilesInOrder invalid files

theorem workers_pos {q : RunRequest} (hnumber : q.concurrency ≠ some Number.notANumber)
    {files : Nat} (hfiles : 0 < files) : 0 < q.workers files := by
  unfold workers
  cases hwanted : q.concurrency.getD standardConcurrency with
  | notANumber =>
      exfalso
      cases hconcurrency : q.concurrency with
      | none =>
          rw [hconcurrency] at hwanted
          revert hwanted
          decide
      | some wanted =>
          rw [hconcurrency] at hwanted
          exact hnumber (hconcurrency.trans (congrArg some hwanted))
  | finite negative mantissa exponent =>
      simp only
      split
      · omega
      · exact hfiles
  | infinite negative =>
      simp only
      split
      · omega
      · exact hfiles

theorem poolAfter_append (q : RunRequest) (files : List Path) (first second : List Nat) :
    q.poolAfter files (first ++ second) =
      (q.poolAfter files first).runSchedule files (checkFile q.fileSystem q.rules) second :=
  Pool.runSchedule_append files (checkFile q.fileSystem q.rules) _ first second

theorem poolAfter_consistent (q : RunRequest) (files : List Path) (schedule : List Nat) :
    Pool.Consistent files (checkFile q.fileSystem q.rules) (q.poolAfter files schedule)
      (q.poolHistory files schedule) :=
  Pool.consistent_runSchedule schedule (Pool.start_consistent _ files _)

theorem exists_isDone {q : RunRequest} (hnumber : q.concurrency ≠ some Number.notANumber)
    (files : List Path) (schedule : List Nat) :
    exists rest, (q.poolAfter files (schedule ++ rest)).isDone files = true := by
  have hworkers : files ≠ [] -> 0 < (q.poolAfter files schedule).holding.length := by
    intro hfiles
    unfold poolAfter
    rw [Pool.holding_length_runSchedule]
    simpa [Pool.start] using workers_pos hnumber (List.length_pos_iff.mpr hfiles)
  rcases Pool.exists_schedule_isDone (checkFile q.fileSystem q.rules)
    (q.poolAfter files schedule) hworkers with ⟨rest, hrest⟩
  exact ⟨rest, by rw [poolAfter_append]; exact hrest⟩

theorem checkFiles_eq_of_isDone {q : RunRequest} {files : List Path} {schedule : List Nat}
    (hdone : (q.poolAfter files schedule).isDone files = true) (invalid : List Warning) :
    q.checkFiles schedule invalid files = q.checkFilesInOrder invalid files := by
  unfold checkFiles checkFilesInOrder
  rw [Pool.perform_eq_map hdone]

theorem runUnder_eq_of_isDone {q : RunRequest} {schedule : List Path -> List Nat}
    (hdone : forall invalid files, q.discover.result = .ok (invalid, files) ->
      (q.poolAfter files (schedule files)).isDone files = true) :
    q.runUnder schedule = q.runInOrder := by
  unfold runUnder runInOrder
  apply Logged.bind_congr
  intro found hfound
  have hdiscover := Logged.mapError_ok_iff.mp hfound
  exact checkFiles_eq_of_isDone (hdone found.1 found.2 hdiscover) found.1

theorem run_eq_runInOrder {q : RunRequest} (hnumber : q.concurrency ≠ some Number.notANumber) :
    q.run = q.runInOrder := by
  apply runUnder_eq_of_isDone
  intro _invalid files _hfiles
  apply Pool.roundRobin_isDone
  intro hfiles
  exact workers_pos hnumber (List.length_pos_iff.mpr hfiles)

end RunRequest

/-- Whatever number of workers is asked for, and in whatever order they take their turns: they can
always come to a stop; when they have, each file has been claimed once and checked once, no slot is
empty, and the outcome and the log are those of checking the files one after another.  The same
holds of whole runs, under any schedule that lets the workers stop and for the workers taking turns.
-/
theorem run_schedule_irrelevant (q : RunRequest)
    (hnumber : q.concurrency ≠ some Number.notANumber) :
    (forall files schedule, exists rest,
      (q.poolAfter files (schedule ++ rest)).isDone files = true) ∧
    (forall files schedule, (q.poolAfter files schedule).isDone files = true ->
      Pool.claims (q.poolHistory files schedule) = List.range files.length ∧
      List.Perm (Pool.completions (q.poolHistory files schedule)) (List.range files.length) ∧
      (q.poolAfter files schedule).slots =
        files.map (fun file => some (checkFile q.fileSystem q.rules file)) ∧
      forall invalid, q.checkFiles schedule invalid files = q.checkFilesInOrder invalid files) ∧
    (forall schedule : List Path -> List Nat,
      (forall invalid files, q.discover.result = .ok (invalid, files) ->
        (q.poolAfter files (schedule files)).isDone files = true) ->
      q.runUnder schedule = q.runInOrder) ∧
    q.run = q.runInOrder := by
  refine ⟨?_, ?_, ?_, ?_⟩
  · exact RunRequest.exists_isDone hnumber
  · intro files schedule hdone
    have hconsistent := q.poolAfter_consistent files schedule
    have hclaims := hconsistent.claims_eq
    rw [hconsistent.cursor_of_isDone hdone] at hclaims
    exact ⟨hclaims, hconsistent.completions_of_isDone hdone, hconsistent.slots_of_isDone hdone,
      RunRequest.checkFiles_eq_of_isDone hdone⟩
  · intro schedule hdone
    exact RunRequest.runUnder_eq_of_isDone hdone
  · exact RunRequest.run_eq_runInOrder hnumber

def fractionalRequest : RunRequest where
  fileSystem := ⟨Tree.directory [(['a'], Tree.file [0x61]), (['b'], Tree.file [0xFF]),
    (['c'], Tree.file [])], []⟩
  roots := [['.']]
  dictionary := Dictionary.empty
  config := Config.standard
  concurrency := some (Number.finite false 5 (-1))
  scope := none
  maxArguments := 0

theorem run_schedule_irrelevant_fractional :
    fractionalRequest.concurrency ≠ some Number.notANumber ∧
      (fractionalRequest.poolAfter [['a'], ['b'], ['c']] [0, 1, 1, 1, 1, 0]).isDone
        [['a'], ['b'], ['c']] = true ∧
      fractionalRequest.checkFiles [0, 1, 1, 1, 1, 0] [] [['a'], ['b'], ['c']] =
        fractionalRequest.checkFilesInOrder [] [['a'], ['b'], ['c']] ∧
      fractionalRequest.run = fractionalRequest.runInOrder := by
  have hnumber : fractionalRequest.concurrency ≠ some Number.notANumber := by
    decide
  have hdone : (fractionalRequest.poolAfter [['a'], ['b'], ['c']] [0, 1, 1, 1, 1, 0]).isDone
      [['a'], ['b'], ['c']] = true := by
    decide +kernel
  have hirrelevant := run_schedule_irrelevant fractionalRequest hnumber
  exact ⟨hnumber, hdone, (hirrelevant.right.left _ _ hdone).right.right.right [],
    hirrelevant.right.right.right⟩

end CamelSpell
