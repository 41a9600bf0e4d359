import CamelSpell.Program.Request

/-!
# What a command line is read as

Help that an option asks for and help that the help command asks for are read in different places,
and a command takes the names for the log as they were found.
-/

namespace CamelSpell
namespace Program

open CommandLine

theorem exists_of_bind_ok {ε α β : Type} {x : Except ε α} {f : α -> Except ε β} {b : β}
    (h : (x >>= f) = .ok b) : exists a, x = .ok a ∧ f a = .ok b := by
  cases x with
  | error e => cases h
  | ok a => exact ⟨a, rfl, h⟩

namespace Request

section

variable {env : Environment} {log names : LogNames} {c : CommandName}
  {operands rest args : List String} {request : Request} {about : Option CommandName}
  {command : Command} {a : Arguments}

/-!
# Help

The help command is asked about the first word behind it, if there is one that is not empty.  It
gives help unless there is no such command.
-/

theorem readHelp_eq (rest : List String) :
    readHelp rest =
      if rest.headD "" = "" then .help none .command
      else match CommandName.ofText? (rest.headD "") with
        | some c => .help (some c) .command
        | none => .help none .unknownCommand := by
  cases rest with
  | nil => rfl
  | cons name others =>
      simp only [readHelp, List.headD_cons, String.isEmpty_iff]
      rfl

theorem readHelp_ne_perform (rest : List String) : readHelp rest ≠ .perform names command := by
  rw [readHelp_eq]
  split
  · exact Request.noConfusion
  · split <;> exact Request.noConfusion

theorem readHelp_eq_help_iff :
    readHelp rest = .help about .command <->
      (about = none ∧ rest.headD "" = "") ∨
        exists c, about = some c ∧ CommandName.ofText? (rest.headD "") = some c := by
  rw [readHelp_eq]
  generalize rest.headD "" = name
  by_cases hempty : name = ""
  · have hunnamed : CommandName.ofText? "" = none := by decide
    simp [hempty, hunnamed, Eq.comm (a := about)]
  · cases CommandName.ofText? name with
    | some c => simp [hempty, Eq.comm (a := about)]
    | none => simp [hempty]

/-!
# Commands

A command gives help if an option asks for it, and is to be performed otherwise.
-/

theorem readCommand_ok (h : readCommand env log c operands rest = .ok request) :
    request = .help (some c) .option ∨ exists command, request = .perform log command := by
  unfold readCommand at h
  rcases exists_of_bind_ok h with ⟨a, _, h⟩
  split at h
  · cases h
    exact Or.inl rfl
  · split at h
    · cases h
    · rcases exists_of_bind_ok h with ⟨command, _, h⟩
      cases h
      exact Or.inr ⟨command, rfl⟩

def namesOf (env : Environment) (a : Arguments) : LogNames :=
  ⟨(a.value? "--log-level").or env.logLevel, (a.value? "--log-format").or env.logFormat⟩

theorem help_or_perform_of_readCommand
    (h : readCommand env (namesOf env a) c operands rest = .ok request) :
    (exists about, request = .help about .option) ∨
      exists command, request = .perform (namesOf env a) command := by
  rcases readCommand_ok h with hhelp | hcommand
  · exact Or.inl ⟨some c, hhelp⟩
  · exact Or.inr hcommand

/-- The help command is asked for by its name as the first operand, and all else is help that an
option asks for or a command to be performed. -/
theorem read_ok (h : read env args = .ok request) :
    exists a, CommandLine.read (logOptions env) false args = .ok a ∧
      ((exists rest, a.operands = "help" :: rest ∧ request = readHelp rest) ∨
        ((forall rest, a.operands ≠ "help" :: rest) ∧
          ((exists about, request = .help about .option) ∨
            exists command, request = .perform (namesOf env a) command))) := by
  unfold read at h
  rcases exists_of_bind_ok h with ⟨a, hread, h⟩
  refine ⟨a, hread, ?_⟩
  have hstandard : (if asksForHelp a.unknown then return .help none .option
      else readCommand env (namesOf env a) .check a.operands a.unknown) = .ok request ->
      (exists about, request = .help about .option) ∨
        exists command, request = .perform (namesOf env a) command := by
    intro h
    split at h
    · cases h
      exact Or.inl ⟨none, rfl⟩
    · exact help_or_perform_of_readCommand h
  cases hoperands : a.operands with
  | nil =>
      simp only [hoperands] at h hstandard
      exact Or.inr ⟨fun rest => List.cons_ne_nil _ _ ∘ Eq.symm, hstandard h⟩
  | cons name others =>
      simp only [hoperands] at h hstandard
      cases hname : CommandName.ofText? name with
      | some c =>
          rw [hname] at h
          refine Or.inr ⟨?_, help_or_perform_of_readCommand h⟩
          rintro rest heq
          cases heq
          cases hname
      | none =>
          simp only [hname] at h
          split at h
          · rename_i hhelp
            cases h
            exact Or.inl ⟨others, by rw [hhelp], rfl⟩
          · rename_i hother
            refine Or.inr ⟨?_, hstandard h⟩
            intro rest heq
            exact hother (List.cons.inj heq).1

theorem read_of_help (hread : CommandLine.read (logOptions env) false args = .ok a)
    (hoperands : a.operands = "help" :: rest) : read env args = .ok (readHelp rest) := by
  have hunnamed : CommandName.ofText? "help" = none := by decide
  unfold read
  rw [hread]
  simp only [bind, Except.bind, hoperands, hunnamed]
  rfl

/-- The help command is asked about the program, or about one of its commands by its name. -/
inductive AsksForHelp (env : Environment) (args : List String) : Option CommandName -> Prop where
  | program {a : Arguments} {rest : List String}
      (reads : CommandLine.read (logOptions env) false args = .ok a)
      (operands_eq : a.operands = "help" :: rest) (unnamed : rest.headD "" = "") :
      AsksForHelp env args none
  | command {a : Arguments} {rest : List String} {c : CommandName}
      (reads : CommandLine.read (logOptions env) false args = .ok a)
      (operands_eq : a.operands = "help" :: rest)
      (named : CommandName.ofText? (rest.headD "") = some c) : AsksForHelp env args (some c)

theorem read_help_iff :
    read env args = .ok (.help about .command) <-> AsksForHelp env args about := by
  constructor
  · intro h
    rcases read_ok h with
      ⟨a, hread, ⟨rest, hoperands, hhelp⟩ | ⟨_, ⟨c, hhelp⟩ | ⟨command, hcommand⟩⟩⟩
    · rcases readHelp_eq_help_iff.mp hhelp.symm with ⟨rfl, hunnamed⟩ | ⟨c, rfl, hnamed⟩
      · exact .program hread hoperands hunnamed
      · exact .command hread hoperands hnamed
    · cases hhelp
    · cases hcommand
  · intro h
    cases h with
    | program reads operands_eq unnamed =>
        rw [read_of_help reads operands_eq]
        exact congrArg Except.ok (readHelp_eq_help_iff.mpr (Or.inl ⟨rfl, unnamed⟩))
    | @command _ _ c reads operands_eq named =>
        rw [read_of_help reads operands_eq]
        exact congrArg Except.ok (readHelp_eq_help_iff.mpr (Or.inr ⟨c, rfl, named⟩))

theorem names_of_read (h : read env args = .ok (.perform names command)) :
    exists a, CommandLine.read (logOptions env) false args = .ok a ∧ names = namesOf env a := by
  rcases read_ok h with ⟨a, hread, ⟨rest, _, hhelp⟩ | ⟨_, ⟨about, hhelp⟩ | ⟨command, hcommand⟩⟩⟩
  · exact absurd hhelp.symm (readHelp_ne_perform rest)
  · cases hhelp
  · cases hcommand
    exact ⟨a, hread, rfl⟩

end

end Request
end Program
end CamelSpell
