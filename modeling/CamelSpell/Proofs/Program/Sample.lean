import CamelSpell.Config.Document
import CamelSpell.Program.Sample
import CamelSpell.Proofs.Toml.Written

/-!
# What a sample is read as

The sample is written in TOML: a comment, a list of rules with one rule on each line, and after
another comment an empty list.  Read as TOML it is a table of these two lists.  The other formats
refuse it.
-/

namespace CamelSpell

namespace Json

theorem parse?_numberSign (rest : List Char) : parse? (String.ofList ('#' :: rest)) = none := by
  unfold parse?
  rw [String.toList_ofList]
  rfl

end Json

namespace Program

open Toml

/-!
# The text on its lines

The sample consists of two assignments, each with a comment in front of it.
-/

def rulesNote : String :=
  " Globs matched against both the full path and the file or directory name."

def wordsNote : String :=
  " Project-specific words accepted on top of the dictionary."

theorem toList_rulesNote :
    "# Globs matched against both the full path and the file or directory name.\n".toList =
      '#' :: (rulesNote.toList ++ ['\n']) := by
  unfold rulesNote
  rw [String.toList_ofList, String.toList_ofList]
  rfl

theorem toList_wordsNote :
    "# Project-specific words accepted on top of the dictionary.\n".toList =
      '#' :: (wordsNote.toList ++ ['\n']) := by
  unfold wordsNote
  rw [String.toList_ofList, String.toList_ofList]
  rfl

theorem isOneLine_rulesNote : IsOneLine rulesNote.toList := by
  apply isOneLine_of_all
  unfold rulesNote
  rw [String.toList_ofList]
  rfl

theorem isOneLine_wordsNote : IsOneLine wordsNote.toList := by
  apply isOneLine_of_all
  unfold wordsNote
  rw [String.toList_ofList]
  rfl

theorem isPlain_of_mem_sampleExclusions {rule : String} (h : rule ∈ sampleExclusions) :
    IsPlain rule.toList := by
  have hall : forall r, r ∈ sampleExclusions ->
      r.toList ≠ [] ∧ '"' ∉ r.toList ∧ '\\' ∉ r.toList := by
    decide
  rcases hall rule h with ⟨hne, hquote, hescape⟩
  exact ⟨hne, hquote, hescape⟩

def wordsPart : List Char :=
  '#' :: (wordsNote.toList ++ '\n' :: ("allowed-words".toList ++ [' ', '=', ' ', '[', ']', '\n']))

theorem toList_sampleText :
    sampleText.toList = '#' :: (rulesNote.toList ++ '\n' :: ("exclude".toList ++
      ' ' :: '=' :: ' ' :: '[' :: '\n' :: (writtenRules sampleExclusions ++
        ']' :: '\n' :: '\n' :: wordsPart))) := by
  have hrules : (String.join (sampleExclusions.map fun rule => "  \"" ++ rule ++ "\",\n")).toList =
      writtenRules sampleExclusions := by
    unfold writtenRules
    simp [List.flatMap_map]
  unfold sampleText wordsPart
  rw [String.toList_append, String.toList_append, String.toList_append, String.toList_append,
    String.toList_append, hrules, toList_rulesNote, toList_wordsNote]
  simp

/-!
# The formats

As JSON the sample fails at its first character.  As YAML its list goes on as a text over several
lines until the second comment ends it, and what follows is more than one document.
-/

def sampleValue : Value :=
  .table [("exclude", .list (sampleExclusions.map .text)), ("allowed-words", .list [])]

theorem readStatements_wordsPart (fuel : Nat) (read : List Statement) :
    readStatements (fuel + 3) read wordsPart =
      some (read.reverse ++ [.assign "allowed-words" (.list [])]) := by
  have hitem : readItem ([']', '\n'].length + 2) ('[' :: [']', '\n']) = some (.list [], ['\n']) :=
    rfl
  have hkey : "allowed-words".toList.all isKeyMark = true := by
    rw [String.toList_ofList]
    rfl
  have hline := @readStatements_bare (fuel + 1) read [] "allowed-words".toList (by decide)
    (List.all_eq_true.mp hkey) '[' rfl [']', '\n'] (.list []) hitem
  unfold wordsPart
  rw [readStatements_comment isOneLine_wordsNote, hline, String.ofList_toList]
  show some (Statement.assign "allowed-words" (.list []) :: read).reverse = _
  rw [List.reverse_cons]

theorem statements?_sampleText : statements? sampleText.toList =
    some [.assign "exclude" (.list (sampleExclusions.map .text)),
      .assign "allowed-words" (.list [])] := by
  -- every line takes one from a number that starts above the length of the text
  have hlines : exists fuel, sampleText.toList.length + 1 = fuel + 6 := by
    refine ⟨sampleText.toList.length - 5, ?_⟩
    rw [toList_sampleText]
    simp only [List.length_cons, List.length_append]
    omega
  rcases hlines with ⟨fuel, hfuel⟩
  have hkey : "exclude".toList.all isKeyMark = true := by
    rw [String.toList_ofList]
    rfl
  have hitem := readItem_written (fun r hr => isPlain_of_mem_sampleExclusions hr)
    ('\n' :: '\n' :: wordsPart)
  have hline := @readStatements_bare (fuel + 4) [] ('\n' :: wordsPart) "exclude".toList (by decide)
    (List.all_eq_true.mp hkey) '[' rfl _ _ hitem
  unfold statements?
  rw [hfuel, toList_sampleText, readStatements_comment isOneLine_rulesNote, hline,
    readStatements_blank, readStatements_wordsPart, String.ofList_toList]
  rfl

theorem tomlParse?_sampleText : Toml.parse? sampleText.toList = some sampleValue := by
  have hexclude : (Builder.start.assign "exclude" (.list (sampleExclusions.map .text))) =
      some ⟨.table [("exclude", .list (sampleExclusions.map .text))], .table [], "", ["exclude"],
        ["exclude"]⟩ := by
    cbv
  unfold Toml.parse?
  rw [statements?_sampleText]
  simp only [Option.bind_eq_bind, Option.bind_some, List.foldlM_cons, List.foldlM_nil,
    Builder.step, value?_texts]
  rw [hexclude, Option.bind_some]
  cbv

theorem jsonParse?_sampleText : Json.parse? (String.ofList sampleText.toList) = none := by
  rw [toList_sampleText]
  exact Json.parse?_numberSign _

theorem yamlParse?_sampleText : Yaml.parse? sampleText.toList = none := by
  rw [toList_sampleText]
  unfold rulesNote wordsPart wordsNote
  rw [String.toList_ofList, String.toList_ofList]
  decide +kernel

/-- Only TOML takes the sample. -/
theorem parse?_sampleText (format : Config.DocumentFormat) :
    format.parse? sampleText.toList =
      match format with
      | .yaml => none
      | .json => none
      | .toml => some sampleValue := by
  cases format with
  | yaml => exact yamlParse?_sampleText
  | json => exact jsonParse?_sampleText
  | toml => exact tomlParse?_sampleText

end Program
end CamelSpell
