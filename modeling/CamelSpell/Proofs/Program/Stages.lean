import CamelSpell.Program.Session
import CamelSpell.Proofs.Config.Search
import CamelSpell.Proofs.WordCharacter

/-!
# What a check reads before it looks for files

The settings of a check come from the file that is named, or from the first candidate above the
working directory that decides the search; the dictionary comes from the file that is named, or is
that of English.  Either is made of the bytes that are found under its path and of nothing else.
-/

namespace CamelSpell

open CamelSpell.Path Log

namespace Config

def fromFile (fs : FileSystem) (p : Path) : Except Failure Config :=
  match fs.read p with
  | .error _ => .error (.unreadableConfig p)
  | .ok bytes =>
      (readDocument p (Utf8.lenient bytes).toList).bind fun document =>
        (ofDocument p document).result

theorem resolve_resolve (fs : FileSystem) (p : Path) :
    fs.resolve (fs.resolve p) = fs.resolve p :=
  resolve_absolute (fun _ hn => isEntryName_of_mem_resolveNames hn) fs.workingDirectory

theorem load_result (fs : FileSystem) (p : Path) :
    (load fs p).result = fromFile fs (fs.resolve p) := by
  unfold fromFile
  cases hread : fs.read (fs.resolve p) with
  | error e =>
      have htext :
          readCharacters fs (fs.resolve p) = .error (.unreadableConfig (fs.resolve p)) := by
        unfold readCharacters
        rw [hread]
      unfold load
      rw [Logged.result_bind, htext]
      rfl
  | ok bytes =>
      have htext : readCharacters fs (fs.resolve p) = .ok (Utf8.lenient bytes).toList := by
        unfold readCharacters
        rw [hread]
      rw [load_of_text rfl htext, Logged.result_bind]
      rfl

end Config

namespace Program

open Config

variable {fs : FileSystem} {config : Option String} {r : Except Failure Found}

/-- Where the settings of a check come from, given the name of a file for them, if there is one. -/
inductive HasSettings (fs : FileSystem) : Option String -> Except Failure Found -> Prop where
  | named {name : String} (nonempty : name ≠ "") :
      HasSettings fs (some name)
        ((fromFile fs (fs.resolve name.toList)).map (foundIn (fs.resolve name.toList)))
  | decided {config : Option String} {before after : List Path} {p : Path}
      (unnamed : config.getD "" = "")
      (split : candidates fs fs.workingDirectory = before ++ p :: after)
      (passed : forall c, c ∈ before -> IsPassed fs c) (decisive : IsDecisive fs p) :
      HasSettings fs config ((fromFile fs p).map (foundIn p))
  | blocked {config : Option String} {before after : List Path} {p : Path} {failure : Failure}
      (unnamed : config.getD "" = "")
      (split : candidates fs fs.workingDirectory = before ++ p :: after)
      (passed : forall c, c ∈ before -> IsPassed fs c) (blocks : Blocks fs p failure) :
      HasSettings fs config (.error failure)
  | absent {config : Option String} (unnamed : config.getD "" = "")
      (passed : forall c, c ∈ candidates fs fs.workingDirectory -> IsPassed fs c) :
      HasSettings fs config (.ok ⟨standard, none⟩)

inductive HasDictionary (fs : FileSystem) : Option String -> Except Failure Dictionary -> Prop where
  | english : HasDictionary fs none (.ok Dictionary.english)
  | read {name : String} {bytes : List UInt8} (reads : fs.read name.toList = .ok bytes) :
      HasDictionary fs (some name)
        (.ok (Dictionary.ofEntries (WordList.parse (Utf8.lenient bytes).toList)))
  | unreadable {name : String} {e : FileError} (fails : fs.read name.toList = .error e) :
      HasDictionary fs (some name) (.error (.unreadableDictionary name.toList e))

/-!
# The settings

Of all outcomes exactly one has a way to it, and it is that of `findSettings`.
-/

theorem findSettings_of_unnamed (h : config.getD "" = "") :
    findSettings fs config = find fs fs.workingDirectory := by
  unfold findSettings
  cases config with
  | none => rfl
  | some name => exact if_pos (String.isEmpty_iff.mpr h)

theorem findSettings_of_named {name : String} (h : name ≠ "") :
    (findSettings fs (some name)).result =
      (fromFile fs (fs.resolve name.toList)).map (foundIn (fs.resolve name.toList)) := by
  have hload := load_result fs (fs.resolve name.toList)
  rw [resolve_resolve] at hload
  unfold findSettings
  simp only [String.isEmpty_iff, if_neg h]
  rw [Logged.result_bind, hload]
  cases fromFile fs (fs.resolve name.toList) <;> rfl

theorem HasSettings.result_eq (h : HasSettings fs config r) :
    (findSettings fs config).result = r := by
  cases h with
  | named nonempty =>
      exact findSettings_of_named nonempty
  | @decided _ before after p unnamed split passed decisive =>
      have hmem : p ∈ candidates fs fs.workingDirectory := split ▸ List.mem_append_cons_self
      rw [findSettings_of_unnamed unnamed, find_of_decisive split passed decisive, load_result,
        (isCandidate_of_mem hmem).resolve_eq]
  | blocked unnamed split passed blocks =>
      rw [findSettings_of_unnamed unnamed, find_of_blocks split passed blocks]
  | absent unnamed passed =>
      rw [findSettings_of_unnamed unnamed, (find_of_passed passed).1]

theorem exists_hasSettings (fs : FileSystem) (config : Option String) :
    exists r, HasSettings fs config r := by
  classical
  by_cases hname : config.getD "" = ""
  · by_cases hpassed : forall c, c ∈ candidates fs fs.workingDirectory -> IsPassed fs c
    · exact ⟨_, .absent hname hpassed⟩
    · rcases exists_first_not_passed hpassed with ⟨before, p, after, hsplit, hbefore, hp⟩
      by_cases hdecisive : IsDecisive fs p
      · exact ⟨_, .decided hname hsplit hbefore hdecisive⟩
      · rcases exists_blocks hp hdecisive with ⟨failure, hblocks⟩
        exact ⟨_, .blocked hname hsplit hbefore hblocks⟩
  · cases config with
    | none => exact absurd rfl hname
    | some name => exact ⟨_, .named hname⟩

theorem hasSettings_iff : HasSettings fs config r <-> (findSettings fs config).result = r := by
  constructor
  · exact HasSettings.result_eq
  · rintro rfl
    rcases exists_hasSettings fs config with ⟨r, hr⟩
    exact hr.result_eq ▸ hr

theorem HasSettings.unique {r' : Except Failure Found} (h : HasSettings fs config r)
    (h' : HasSettings fs config r') : r = r' :=
  h.result_eq.symm.trans h'.result_eq

/-!
# The dictionary

The same holds of the dictionary, which is made of the bytes of its file as they are.
-/

theorem hasDictionary_iff {name : Option String} {d : Except Failure Dictionary} :
    HasDictionary fs name d <-> Dictionary.loadOrEnglish fs (name.map String.toList) = d := by
  constructor
  · intro h
    cases h with
    | english =>
        rfl
    | read reads =>
        show Dictionary.load fs _ = _
        unfold Dictionary.load
        rw [reads]
    | unreadable fails =>
        show Dictionary.load fs _ = _
        unfold Dictionary.load
        rw [fails]
  · rintro rfl
    cases name with
    | none =>
        exact .english
    | some name =>
        show HasDictionary fs (some name) (Dictionary.load fs name.toList)
        unfold Dictionary.load
        cases hread : fs.read name.toList with
        | ok bytes => exact .read hread
        | error e => exact .unreadable hread

theorem HasDictionary.unique {name : Option String} {d d' : Except Failure Dictionary}
    (h : HasDictionary fs name d) (h' : HasDictionary fs name d') : d = d' :=
  (hasDictionary_iff.mp h).symm.trans (hasDictionary_iff.mp h')

theorem HasDictionary.built {name : Option String} {d : Dictionary}
    (h : HasDictionary fs name (.ok d)) : d.Built := by
  cases h with
  | english => exact Dictionary.Built.ofEntries _
  | read reads => exact Dictionary.Built.ofEntries _

end Program
end CamelSpell
