import CamelSpell.Program.Session
import CamelSpell.Proofs.LoggerFamily
import CamelSpell.Proofs.Program.Reading
import Mathlib

/-!
# Histories of command lines

Command lines that are carried out one after another share a logger.  What one of them leaves to the
next is a level and a format, which show in what is logged and in nothing else.
-/

namespace CamelSpell
namespace Program

open CommandLine Log

/-- What a command line asks of the log: the level and the format of the names that it gives, and
its own error stream as the destination. -/
def LogNames.options (names : LogNames) : Except NameError Options := do
  let level <- readLevel (names.level.getD "")
  let format <- readFormat (names.format.getD "")
  return ⟨level, format, none, some .own⟩

/-- A command line with the time, the files and the environment that it meets.  The files are not
bound to be those that the command line before has left. -/
structure Call where
  time : String
  fileSystem : FileSystem
  environment : Environment
  arguments : List String

/-- A call comes to its action: it asks for a command, and there are a level and a format of the
names that it gives to the log. -/
structure Call.ComesTo (c : Call) (command : Command) (names : LogNames) (o : Options) : Prop where
  reads : Request.read c.environment c.arguments = .ok (.perform names command)
  options_eq : names.options = .ok o

def Call.asked (c : Call) : Options :=
  match Request.read c.environment c.arguments with
  | .ok (.perform names _) => names.options.toOption.getD Options.nothing
  | _ => Options.nothing

/-- The settings that are in force after calls: the last level and the last format that one of them
asks for, or those of the start. -/
def settingsAfter (start : Settings) (calls : List Call) : Settings :=
  ⟨((calls.filterMap fun c => c.asked.level).getLast?).getD start.level,
    ((calls.filterMap fun c => c.asked.format).getLast?).getD start.format⟩

theorem LogNames.of_options {names : LogNames} {o : Options} (h : names.options = .ok o) :
    o.scope = none ∧ o.destination = some .own := by
  unfold LogNames.options at h
  rcases exists_of_bind_ok h with ⟨level, _, h⟩
  rcases exists_of_bind_ok h with ⟨format, _, h⟩
  cases h
  exact ⟨rfl, rfl⟩

theorem Call.ComesTo.asked_eq {c : Call} {command : Command} {names : LogNames} {o : Options}
    (h : c.ComesTo command names o) : c.asked = o := by
  unfold Call.asked
  simp only [h.reads, h.options_eq]
  rfl

theorem settingsAfter_eq (start : Settings) (calls : List Call) :
    settingsAfter start calls = start.afterAll (calls.map Call.asked) := by
  unfold settingsAfter Settings.afterAll
  rw [List.filterMap_map, List.filterMap_map]
  rfl

theorem settingsAfter_cons (start : Settings) (c : Call) (rest : List Call) :
    settingsAfter start (c :: rest) = settingsAfter (start.update c.asked) rest := by
  rw [settingsAfter_eq, settingsAfter_eq, List.map_cons, Settings.afterAll_cons]

theorem settingsAfter_concat (start : Settings) (calls : List Call) (c : Call) :
    settingsAfter start (calls ++ [c]) = (settingsAfter start calls).update c.asked := by
  rw [settingsAfter_eq, settingsAfter_eq, List.map_append, List.map_singleton,
    Settings.afterAll_concat]

namespace Session

def answer (s : Session) (c : Call) : Session × Output :=
  { s with fileSystem := c.fileSystem }.run c.time c.environment c.arguments

def after (s : Session) (calls : List Call) : Session :=
  calls.foldl (fun s c => (s.answer c).1) s

/-- Ends of command lines that differ in what was logged at most. -/
structure SameButLog (a b : Session × Output) : Prop where
  fileSystem : a.1.fileSystem = b.1.fileSystem
  code : a.2.code = b.2.code
  stdout : a.2.stdout = b.2.stdout

/-!
# The end of one command line

A command line ends before its action if it cannot be read, if help is asked for, or if a name for
the log is unknown.  Otherwise the log is configured first.
-/

section Run

variable {s t : Session} {time other : String} {env : Environment} {args : List String}
  {maxArguments : Nat} {o : CheckOptions} {command : Command} {names : LogNames}

theorem runCheck_of_ok {code : ExitCode} {report : String}
    (h : (check s.fileSystem maxArguments o).result = .ok (code, report)) :
    s.runCheck time maxArguments o =
      ⟨code, report, s.render time (check s.fileSystem maxArguments o).records⟩ := by
  simp only [runCheck, h]

theorem runCheck_of_error {e : CheckError}
    (h : (check s.fileSystem maxArguments o).result = .error e) :
    s.runCheck time maxArguments o =
      ⟨.failure, "", s.render time ((check s.fileSystem maxArguments o).records ++
        [⟨.error, checkScope, e.message, e.fields⟩])⟩ := by
  simp only [runCheck, h]

theorem configure_eq (s : Session) (names : LogNames) :
    s.configure names = names.options.map fun o => { s with log := s.log.configure o } := by
  unfold configure LogNames.options
  cases readLevel (names.level.getD "") with
  | error e => rfl
  | ok level =>
      cases readFormat (names.format.getD "") with
      | error e => rfl
      | ok format => rfl

theorem run_of_usageError {e : UsageError} (h : Request.read env args = .error e) :
    s.run time env args = ({ s with log := s.log.left }, .refusal e.message) := by
  simp only [run, h]

theorem run_of_help {about : Option CommandName} {cause : HelpCause}
    (h : Request.read env args = .ok (.help about cause)) :
    s.run time env args = ({ s with log := s.log.left }, .help (helpPage env about) cause) := by
  simp only [run, h]

theorem run_of_nameError (h : Request.read env args = .ok (.perform names command)) {e : NameError}
    (hnames : names.options = .error e) :
    s.run time env args = ({ s with log := s.log.left }, .refusal e.message) := by
  simp only [run, h, configure_eq, hnames, Except.map]

theorem run_of_action (h : Request.read env args = .ok (.perform names command)) {o : Options}
    (hnames : names.options = .ok o) :
    s.run time env args =
      { s with log := s.log.left.configure o }.runCommand time env command := by
  simp only [run, h, configure_eq, hnames, Except.map]

theorem runCommand_log (s : Session) (time : String) (env : Environment) (command : Command) :
    (s.runCommand time env command).1.log = s.log := by
  cases command with
  | check o => rfl
  | init config =>
      simp only [runCommand, runInit]
      split <;> rfl
  | words token => rfl

/-!
# What is left to the next command line

A call that does not come to its action leaves the settings of the log as they are, and one that
does changes them as it asks.
-/

theorem answer_log (s : Session) (c : Call) :
    (s.answer c).1.log.settings = s.log.settings.update c.asked ∧
      (s.answer c).1.log.scope = s.log.scope := by
  unfold answer Call.asked
  cases hread : Request.read c.environment c.arguments with
  | error e =>
      rw [run_of_usageError hread]
      exact ⟨rfl, rfl⟩
  | ok request =>
      cases request with
      | help about cause =>
          rw [run_of_help hread]
          exact ⟨rfl, rfl⟩
      | perform names command =>
          cases hnames : names.options with
          | error e =>
              rw [run_of_nameError hread hnames]
              simp only [hnames]
              exact ⟨rfl, rfl⟩
          | ok o =>
              rw [run_of_action hread hnames, runCommand_log]
              simp only [hnames]
              constructor
              · rfl
              · show o.scope.or s.log.scope = s.log.scope
                rw [(LogNames.of_options hnames).1, Option.none_or]

theorem after_log (s : Session) (calls : List Call) :
    (s.after calls).log.settings = settingsAfter s.log.settings calls ∧
      (s.after calls).log.scope = s.log.scope := by
  induction calls generalizing s with
  | nil => exact ⟨rfl, rfl⟩
  | cons c rest ih =>
      rcases answer_log s c with ⟨hsettings, hscope⟩
      have hrest := ih (s.answer c).1
      rw [hsettings, hscope] at hrest
      rw [settingsAfter_cons]
      exact hrest

/-!
# Two sessions

Sessions with the same files give the same answers, whatever the settings of their logs are; only
what is logged may differ.
-/

theorem sameButLog_runCheck (h : s.fileSystem = t.fileSystem) (maxArguments : Nat)
    (o : CheckOptions) :
    SameButLog (s, s.runCheck time maxArguments o) (t, t.runCheck other maxArguments o) := by
  cases hresult : (check s.fileSystem maxArguments o).result with
  | ok done =>
      rw [runCheck_of_ok hresult]
      rw [h] at hresult
      rw [runCheck_of_ok hresult]
      exact ⟨h, rfl, rfl⟩
  | error e =>
      rw [runCheck_of_error hresult]
      rw [h] at hresult
      rw [runCheck_of_error hresult]
      exact ⟨h, rfl, rfl⟩

theorem sameButLog_runInit (h : s.fileSystem = t.fileSystem) (config : String) :
    SameButLog (s.runInit time config) (t.runInit other config) := by
  simp only [runInit, <- h]
  split
  · exact ⟨rfl, rfl, rfl⟩
  · exact ⟨h, rfl, rfl⟩
  · exact ⟨h, rfl, rfl⟩

theorem sameButLog_runCommand (h : s.fileSystem = t.fileSystem) (env : Environment)
    (command : Command) :
    SameButLog (s.runCommand time env command) (t.runCommand other env command) := by
  cases command with
  | check o => exact sameButLog_runCheck h env.maxArguments o
  | init config => exact sameButLog_runInit h config
  | words token => exact ⟨h, rfl, rfl⟩

theorem sameButLog_run (h : s.fileSystem = t.fileSystem) :
    SameButLog (s.run time env args) (t.run other env args) := by
  cases hread : Request.read env args with
  | error e =>
      rw [run_of_usageError hread, run_of_usageError hread]
      exact ⟨h, rfl, rfl⟩
  | ok request =>
      cases request with
      | help about cause =>
          rw [run_of_help hread, run_of_help hread]
          exact ⟨h, rfl, rfl⟩
      | perform names command =>
          cases hnames : names.options with
          | error e =>
              rw [run_of_nameError hread hnames, run_of_nameError hread hnames]
              exact ⟨h, rfl, rfl⟩
          | ok o =>
              rw [run_of_action hread hnames, run_of_action hread hnames]
              exact sameButLog_runCommand (s := { s with log := s.log.left.configure o })
                (t := { t with log := t.log.left.configure o }) h env command

end Run

/-- What was called before changes nothing in the end of a call but what is logged.  The action of a
call finds the last level and the last format that it or a call before it has asked for, and logs to
the error stream of the call. -/
theorem answer_after (s : Session) (before : List Call) (c : Call) :
    (forall (t : Session) earlier time,
      SameButLog ((s.after before).answer c) ((t.after earlier).answer { c with time := time })) ∧
      forall command names o, c.ComesTo command names o ->
        (exists a, CommandLine.read (logOptions c.environment) false c.arguments = .ok a ∧
          names = Request.namesOf c.environment a) ∧
        exists r : Session,
          (s.after before).answer c = r.runCommand c.time c.environment command ∧
          r.fileSystem = c.fileSystem ∧
          r.log = ⟨settingsAfter s.log.settings (before ++ [c]), s.log.scope, .own⟩ := by
  constructor
  · intro t earlier time
    exact sameButLog_run rfl
  · intro command names o h
    constructor
    · exact Request.names_of_read h.reads
    · refine ⟨_, run_of_action h.reads h.options_eq, rfl, ?_⟩
      rcases after_log s before with ⟨hsettings, hscope⟩
      rw [settingsAfter_concat, h.asked_eq, <- hsettings, <- hscope]
      rcases LogNames.of_options h.options_eq with ⟨hnone, hown⟩
      show Logger.mk _ (o.scope.or (s.after before).log.scope) (o.destination.getD _) = _
      rw [hnone, hown, Option.none_or]
      rfl

def wordsCall (options : List String) (logFormat : Option String) : Call where
  time := ""
  fileSystem := ⟨Tree.empty, []⟩
  environment := ⟨none, logFormat, none, 0⟩
  arguments := options ++ ["words", "aB"]

theorem answer_after_unknownLevel :
    (wordsCall [] none).ComesTo (.words "aB") ⟨none, none⟩ ⟨none, none, none, some .own⟩ ∧
      exists r : Session,
        (Session.after ⟨⟨Tree.empty, []⟩, Settings.standard⟩
          [wordsCall ["--log-level", "debug"] (some "JSON"),
            wordsCall ["--log-level", "loud"] (some "text")]).answer (wordsCall [] none) =
          r.runCommand "" (wordsCall [] none).environment (.words "aB") ∧
        r.log = ⟨⟨.from .debug, .json⟩, none, .own⟩ := by
  have hcomes : (wordsCall [] none).ComesTo (.words "aB") ⟨none, none⟩
      ⟨none, none, none, some .own⟩ :=
    ⟨by cbv, by cbv⟩
  have hsettings : settingsAfter Settings.standard
      [wordsCall ["--log-level", "debug"] (some "JSON"),
        wordsCall ["--log-level", "loud"] (some "text"), wordsCall [] none] =
      ⟨.from .debug, .json⟩ := by
    cbv
  rcases (answer_after ⟨⟨Tree.empty, []⟩, Settings.standard⟩
      [wordsCall ["--log-level", "debug"] (some "JSON"),
        wordsCall ["--log-level", "loud"] (some "text")] (wordsCall [] none)).2 _ _ _ hcomes with
    ⟨_, r, hanswer, _, hlog⟩
  exact ⟨hcomes, r, hanswer, hsettings ▸ hlog⟩

end Session
end Program
end CamelSpell
