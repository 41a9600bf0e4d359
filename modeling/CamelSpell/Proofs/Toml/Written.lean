import CamelSpell.Toml.Document
import Mathlib

/-!
# Written TOML

A reader of TOML gets back what a writer has put on lines of their own: comments and empty lines are
passed, a bare key gets its value, and a list that has one text on each line is read as these texts.
-/

namespace CamelSpell

namespace Toml

variable {fuel : Nat} {read : List Statement} {rest : List Char}

/-!
# Lines

Comments, blank lines and assignments, each read up to the end of its line.
-/

def IsOneLine (text : List Char) : Prop :=
  forall c, c ∈ text -> c ≠ '\n' ∧ c ≠ '\r'

theorem isOneLine_of_all {text : List Char}
    (h : (text.all fun c => c != '\n' && c != '\r') = true) : IsOneLine text := by
  intro c hc
  simpa using List.all_eq_true.mp h c hc

theorem skipLine_append {comment : List Char} (h : IsOneLine comment) (rest : List Char) :
    skipLine (comment ++ '\n' :: rest) = '\n' :: rest := by
  induction comment with
  | nil =>
      rfl
  | cons c others ih =>
      rcases h c List.mem_cons_self with ⟨hfeed, hreturn⟩
      rw [List.cons_append, skipLine]
      · exact ih fun d hd => h d (List.mem_cons_of_mem c hd)
      · exact fun _ heq => absurd heq hreturn
      · exact fun heq => absurd heq hfeed

theorem readStatements_comment {comment : List Char} (h : IsOneLine comment) :
    readStatements (fuel + 1) read ('#' :: (comment ++ '\n' :: rest)) =
      readStatements fuel read rest := by
  have hfinish : finishLine ('#' :: (comment ++ '\n' :: rest)) = some rest := by
    unfold finishLine
    show (if (skipLine (comment ++ '\n' :: rest)).isEmpty then some []
      else lineEnd? (skipLine (comment ++ '\n' :: rest))) = some rest
    rw [skipLine_append h]
    rfl
  show (finishLine ('#' :: (comment ++ '\n' :: rest))).bind _ = _
  rw [hfinish]
  rfl

theorem readStatements_blank :
    readStatements (fuel + 1) read ('\n' :: rest) = readStatements fuel read rest :=
  rfl

theorem lineEnd?_of_ne {c : Char} (hfeed : c ≠ '\n') (hreturn : c ≠ '\r') (text : List Char) :
    lineEnd? (c :: text) = none := by
  unfold lineEnd?
  split
  · rename_i heq
    exact absurd (List.cons.inj heq).1 hfeed
  · rename_i heq
    exact absurd (List.cons.inj heq).1 hreturn
  · rfl

theorem skipSpaces_of_not_isSpace {c : Char} (hc : isSpace c = false) (text : List Char) :
    skipSpaces (c :: text) = c :: text := by
  unfold skipSpaces
  rw [List.dropWhile_cons_of_neg]
  simp [hc]

theorem readStatements_assignment {c : Char} {text : List Char} {s : Statement}
    (hc : isKeyMark c = true) (h : readAssignment (c :: text) = some (s, '\n' :: rest)) :
    readStatements (fuel + 1) read (c :: text) = readStatements fuel (s :: read) rest := by
  have hne : forall d, isKeyMark d = false -> c ≠ d := by
    intro d hd heq
    rw [heq, hd] at hc
    cases hc
  have hspace : skipSpaces (c :: text) = c :: text := by
    apply skipSpaces_of_not_isSpace
    simp [isSpace, hne ' ' rfl, hne '\t' rfl]
  have hend : atLineEnd (c :: text) = false := by
    unfold atLineEnd
    rw [lineEnd?_of_ne (hne '\n' rfl) (hne '\r' rfl)]
    rfl
  rw [readStatements]
  · simp only [hspace, hend, hne '#' rfl, hne '[' rfl, h]
    rfl
  · exact List.cons_ne_nil c text

theorem readAssignment_bare {key : List Char} (hne : key ≠ [])
    (hkey : forall c, c ∈ key -> isKeyMark c = true) {c : Char} (hc : isSpace c = false)
    (text : List Char) :
    readAssignment (key ++ ' ' :: '=' :: ' ' :: c :: text) =
      (readItem (text.length + 2) (c :: text)).map fun (item, rest) =>
        (.assign (String.ofList key) item, rest) := by
  have htake : (key ++ ' ' :: '=' :: ' ' :: c :: text).takeWhile isKeyMark = key := by
    rw [List.takeWhile_append_of_pos hkey, List.takeWhile_cons_of_neg (by decide), List.append_nil]
  have hdrop : (key ++ ' ' :: '=' :: ' ' :: c :: text).dropWhile isKeyMark =
      ' ' :: '=' :: ' ' :: c :: text := by
    rw [List.dropWhile_append_of_pos hkey, List.dropWhile_cons_of_neg (by decide)]
  have hread : readBareKey (key ++ ' ' :: '=' :: ' ' :: c :: text) =
      some (String.ofList key, ' ' :: '=' :: ' ' :: c :: text) := by
    unfold readBareKey
    rw [htake, hdrop]
    cases key with
    | nil => exact absurd rfl hne
    | cons k more => rfl
  have hequals : afterEquals? (' ' :: '=' :: ' ' :: c :: text) = some (c :: text) := by
    show some (skipSpaces (c :: text)) = some (c :: text)
    rw [skipSpaces_of_not_isSpace hc]
  unfold readAssignment readKey
  rw [hread]
  simp only [Option.some_or, Option.bind_eq_bind, Option.bind_some, hequals, List.length_cons]
  cases readItem (text.length + 2) (c :: text) with
  | none => rfl
  | some result => rfl

theorem readStatements_bare {key : List Char} (hne : key ≠ [])
    (hkey : forall c, c ∈ key -> isKeyMark c = true) {c : Char} (hc : isSpace c = false)
    {text : List Char} {item : Item}
    (hitem : readItem (text.length + 2) (c :: text) = some (item, '\n' :: rest)) :
    readStatements (fuel + 1) read (key ++ ' ' :: '=' :: ' ' :: c :: text) =
      readStatements fuel (.assign (String.ofList key) item :: read) rest := by
  have hread := readAssignment_bare hne hkey hc text
  rw [hitem] at hread
  cases key with
  | nil => exact absurd rfl hne
  | cons k more => exact readStatements_assignment (hkey k List.mem_cons_self) hread

/-!
# Lists of texts

A list of plain texts, one on each line with a comma behind it, is read as these texts, whatever
stands behind the list.
-/

structure IsPlain (text : List Char) : Prop where
  ne_nil : text ≠ []
  unquoted : '"' ∉ text
  unescaped : '\\' ∉ text

def quotation : Quoting := ⟨'"', false, true⟩

theorem close?_mark (rest : List Char) : quotation.close? ('"' :: rest) = some rest := by
  unfold Quoting.close?
  split
  · rename_i heq
    cases heq
    rfl
  · rename_i heq
    cases heq
    rfl
  · rename_i heq
    cases heq

theorem close?_of_ne {c : Char} (hc : c ≠ '"') (rest : List Char) :
    quotation.close? (c :: rest) = none := by
  unfold Quoting.close? quotation
  split
  · rename_i heq
    cases heq
    simp [hc]
  · rename_i heq
    cases heq
    simp [hc]
  · rfl

theorem readTextOnto_plain {text : List Char} (hquote : '"' ∉ text) (hescape : '\\' ∉ text)
    {fuel : Nat} (hfuel : text.length < fuel) (read rest : List Char) :
    readTextOnto quotation fuel read (text ++ '"' :: rest) =
      some (String.ofList (read.reverse ++ text), rest) := by
  induction text generalizing fuel read with
  | nil =>
      cases fuel with
      | zero => cases hfuel
      | succ fuel =>
          rw [List.nil_append, List.append_nil, readTextOnto, close?_mark]
  | cons c others ih =>
      cases fuel with
      | zero => cases hfuel
      | succ fuel =>
          rw [List.mem_cons, not_or] at hquote hescape
          rw [List.cons_append, readTextOnto, close?_of_ne fun heq => hquote.1 heq.symm]
          simp only [show c ≠ '\\' from fun heq => hescape.1 heq.symm]
          show readTextOnto quotation fuel (c :: read) (others ++ '"' :: rest) = _
          rw [ih hquote.2 hescape.2 (Nat.lt_of_succ_lt_succ hfuel), List.reverse_cons,
            List.append_assoc]
          rfl

theorem readText_plain {text : List Char} (h : IsPlain text) (rest : List Char) :
    readText ('"' :: (text ++ '"' :: rest)) = some (String.ofList text, rest) := by
  have hlong : readLong ('"' :: (text ++ '"' :: rest)) = none := by
    cases text with
    | nil => exact absurd rfl h.ne_nil
    | cons c others =>
        have hc : c ≠ '"' := fun heq => h.unquoted (heq ▸ List.mem_cons_self)
        unfold readLong
        simp [hc]
  have hshort : readShort ('"' :: (text ++ '"' :: rest)) =
      readTextOnto quotation ((text ++ '"' :: rest).length + 1) []
        (text ++ '"' :: rest) :=
    rfl
  unfold readText
  rw [hlong, Option.none_or, hshort, readTextOnto_plain h.unquoted h.unescaped]
  · rfl
  · rw [List.length_append]
    omega

def writtenRules (rules : List String) : List Char :=
  rules.flatMap fun rule => ' ' :: ' ' :: '"' :: (rule.toList ++ ['"', ',', '\n'])

theorem readItems_feed (fuel : Nat) (read : List Item) (text : List Char) :
    readItems fuel read ('\n' :: text) = readItems fuel read text := by
  cases fuel with
  | zero => rfl
  | succ fuel => rfl

theorem readItem_plain {text : List Char} (h : IsPlain text) (fuel : Nat) (rest : List Char) :
    readItem (fuel + 1) ('"' :: (text ++ '"' :: rest)) =
      some (.text (String.ofList text), rest) := by
  show (readText ('"' :: (text ++ '"' :: rest))).map _ = _
  rw [readText_plain h]
  rfl

theorem readItems_rule {rule : String} (h : IsPlain rule.toList) (fuel : Nat) (read : List Item)
    (rest : List Char) :
    readItems (fuel + 2) read (' ' :: ' ' :: '"' :: (rule.toList ++ '"' :: ',' :: '\n' :: rest)) =
      readItems (fuel + 1) (.text rule :: read) rest := by
  have hitem := readItem_plain h fuel (',' :: '\n' :: rest)
  rw [String.ofList_toList] at hitem
  have hskip : skipFiller false
      (' ' :: ' ' :: '"' :: (rule.toList ++ '"' :: ',' :: '\n' :: rest)) =
        '"' :: (rule.toList ++ '"' :: ',' :: '\n' :: rest) :=
    rfl
  rw [readItems, hskip]
  split
  · rename_i heq
    exact absurd (List.cons.inj heq).1 (by decide)
  · rw [hitem]
    exact readItems_feed (fuel + 1) (.text rule :: read) rest

theorem readItems_written {rules : List String} (h : forall r, r ∈ rules -> IsPlain r.toList)
    (fuel : Nat) (read : List Item) (rest : List Char) :
    readItems (rules.length + fuel + 1) read (writtenRules rules ++ ']' :: rest) =
      some (read.reverse ++ rules.map Item.text, rest) := by
  induction rules generalizing read with
  | nil =>
      rw [List.map_nil, List.append_nil]
      rfl
  | cons rule others ih =>
      have hwritten : writtenRules (rule :: others) ++ ']' :: rest =
          ' ' :: ' ' :: '"' :: (rule.toList ++ '"' :: ',' :: '\n' ::
            (writtenRules others ++ ']' :: rest)) := by
        simp [writtenRules]
      have hfuel : (rule :: others).length + fuel + 1 = others.length + fuel + 2 := by
        rw [List.length_cons]
        omega
      rw [hwritten, hfuel, readItems_rule (h rule List.mem_cons_self),
        ih fun r hr => h r (List.mem_cons_of_mem rule hr)]
      simp

theorem length_le_writtenRules (rules : List String) :
    rules.length ≤ (writtenRules rules).length := by
  induction rules with
  | nil =>
      exact Nat.le_refl 0
  | cons rule others ih =>
      simp only [writtenRules, List.flatMap_cons, List.length_append, List.length_cons] at ih ⊢
      omega

theorem readItem_written {rules : List String} (h : forall r, r ∈ rules -> IsPlain r.toList)
    (rest : List Char) :
    readItem (('\n' :: (writtenRules rules ++ ']' :: rest)).length + 2)
        ('[' :: '\n' :: (writtenRules rules ++ ']' :: rest)) =
      some (.list (rules.map .text), rest) := by
  have hfuel : exists fuel,
      ('\n' :: (writtenRules rules ++ ']' :: rest)).length + 1 = rules.length + fuel + 1 := by
    have hlength := length_le_writtenRules rules
    refine ⟨('\n' :: (writtenRules rules ++ ']' :: rest)).length - rules.length, ?_⟩
    simp only [List.length_cons, List.length_append]
    omega
  rcases hfuel with ⟨fuel, hfuel⟩
  show (readItems (('\n' :: (writtenRules rules ++ ']' :: rest)).length + 1) []
    ('\n' :: (writtenRules rules ++ ']' :: rest))).map _ = _
  rw [hfuel, readItems_feed, readItems_written h]
  rfl

theorem listValues?_texts (texts : List String) :
    listValues? (texts.map .text) = some (texts.map .text) := by
  induction texts with
  | nil =>
      rfl
  | cons t others ih =>
      rw [List.map_cons, listValues?, ih]
      rfl

theorem value?_texts (texts : List String) :
    (Item.list (texts.map .text)).value? = some (.list (texts.map .text)) := by
  have hkinds : ((texts.map Item.text).all fun i =>
      ((texts.map Item.text).head?.map Item.kind).all (· == i.kind)) = true := by
    cases texts with
    | nil => rfl
    | cons t others => simp [Item.kind]
  rw [Item.value?, if_pos hkinds, listValues?_texts]
  rfl

end Toml
end CamelSpell
