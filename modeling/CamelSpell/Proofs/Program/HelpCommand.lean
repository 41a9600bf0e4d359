import CamelSpell.Proofs.Program.Check

/-!
# Output of command lines that fail

A command line that fails leaves its output empty, with one exception: the help command prints the
page that it is asked for, and is counted as a failure all the same.
-/

namespace CamelSpell

open CommandLine Log

theorem CommandLine.HelpPage.render_ne_empty (h : HelpPage) : h.render ≠ "" := by
  unfold render
  simp [String.intercalate_cons_cons]

namespace Program
namespace Session

variable {s : Session} {time : String} {env : Environment} {args : List String}

theorem runInit_stdout_of_failure {config : String}
    (h : (s.runInit time config).2.code = .failure) : (s.runInit time config).2.stdout = "" := by
  revert h
  simp only [runInit]
  split
  · rintro ⟨⟩
  · exact fun _ => rfl
  · exact fun _ => rfl

theorem runInit_ne_mistakes (config : String) : (s.runInit time config).2.code ≠ .mistakes := by
  simp only [runInit]
  split <;> exact ExitCode.noConfusion

theorem runCommand_stdout_of_failure {command : Command}
    (h : (s.runCommand time env command).2.code = .failure) :
    (s.runCommand time env command).2.stdout = "" := by
  cases command with
  | check o => exact runCheck_stdout_of_failure h
  | init config => exact runInit_stdout_of_failure h
  | words token => cases h

theorem stdout_of_failure (hhelp : forall about, ¬ Request.AsksForHelp env args about)
    (h : (s.run time env args).2.code = .failure) : (s.run time env args).2.stdout = "" := by
  cases hread : Request.read env args with
  | error e =>
      rw [run_of_usageError hread]
      rfl
  | ok request =>
      cases request with
      | help about cause =>
          rw [run_of_help hread] at h ⊢
          cases cause with
          | option => cases h
          | command => exact absurd (Request.read_help_iff.mp hread) (hhelp about)
          | unknownCommand => rfl
      | perform names command =>
          cases hnames : names.options with
          | error e =>
              rw [run_of_nameError hread hnames]
              rfl
          | ok o =>
              rw [run_of_action hread hnames] at h ⊢
              exact runCommand_stdout_of_failure h

theorem run_help {about : Option CommandName} (h : Request.AsksForHelp env args about) :
    (s.run time env args).2 = ⟨.failure, (helpPage env about).render, ""⟩ := by
  rw [run_of_help (Request.read_help_iff.mpr h)]
  rfl

theorem exists_check_of_mistakes (h : (s.run time env args).2.code = .mistakes) :
    exists names o, Request.read env args = .ok (.perform names (.check o)) := by
  cases hread : Request.read env args with
  | error e =>
      rw [run_of_usageError hread] at h
      cases h
  | ok request =>
      cases request with
      | help about cause =>
          rw [run_of_help hread] at h
          cases cause <;> cases h
      | perform names command =>
          cases hnames : names.options with
          | error e =>
              rw [run_of_nameError hread hnames] at h
              cases h
          | ok l =>
              rw [run_of_action hread hnames] at h
              cases command with
              | check o => exact ⟨names, o, rfl⟩
              | init config => exact absurd h (runInit_ne_mistakes config)
              | words token => cases h

/-- The command lines that fail with output are those that ask the help command for a page, and the
page is their output. -/
theorem run_failure_stdout_iff (s : Session) (time : String) (env : Environment)
    (args : List String) :
    ((s.run time env args).2.code = .failure ∧ (s.run time env args).2.stdout ≠ "" <->
      exists about, Request.AsksForHelp env args about) ∧
    (forall about, Request.AsksForHelp env args about ->
      (s.run time env args).2 = ⟨.failure, (helpPage env about).render, ""⟩) ∧
    ((s.run time env args).2.code = .mistakes ->
      exists names o, Request.read env args = .ok (.perform names (.check o))) := by
  refine ⟨?_, fun about => run_help, exists_check_of_mistakes⟩
  constructor
  · rintro ⟨hcode, hstdout⟩
    by_contra hhelp
    exact hstdout (stdout_of_failure (not_exists.mp hhelp) hcode)
  · rintro ⟨about, h⟩
    rw [run_help h]
    exact ⟨rfl, (helpPage env about).render_ne_empty⟩

theorem run_failure_stdout_iff_help :
    Request.AsksForHelp ⟨none, none, none, 0⟩ ["help"] none ∧
      (Session.run ⟨⟨Tree.empty, []⟩, Settings.standard⟩ "" ⟨none, none, none, 0⟩ ["help"]).2 =
        ⟨.failure, (helpPage ⟨none, none, none, 0⟩ none).render, ""⟩ := by
  have hhelp : Request.AsksForHelp ⟨none, none, none, 0⟩ ["help"] none :=
    .program (a := ⟨[], ["help"], []⟩) rfl rfl rfl
  exact ⟨hhelp, (run_failure_stdout_iff _ "" _ _).2.1 none hhelp⟩

end Session
end Program
end CamelSpell
