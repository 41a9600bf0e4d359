import CamelSpell.Config.Settings
import CamelSpell.Proofs.Number.Value

/-!
# Reading of settings

What a table of settings says can be told without reading it entry by entry.  Each entry has its own
problems, whatever stands before it; a table is refused exactly if one of its entries has any, and
then with all of them.  A table that is accepted gives each setting the value of the last entry that
names it, and the settings can be written as a table and read again.
-/

namespace CamelSpell

open CamelSpell.Path Log

namespace Value

def text? : Value -> Option String
  | text s => some s
  | _ => none

def count? : Value -> Option Nat
  | number n => n.toNat?
  | _ => none

def IsCount (value : Value) (k : Nat) : Prop :=
  exists n, value = .number n ∧ n.value? = some (k : ℚ)

def IsPositive (value : Value) : Prop :=
  exists k, 1 ≤ k ∧ value.IsCount k

theorem text?_eq_some_iff {value : Value} {s : String} :
    value.text? = some s <-> value = .text s := by
  cases value <;> simp [text?]

theorem IsCount.unique {value : Value} {k k' : Nat} (h : value.IsCount k)
    (h' : value.IsCount k') : k = k' := by
  rcases h with ⟨n, rfl, hn⟩
  rcases h' with ⟨n', hvalue, hn'⟩
  cases hvalue
  rw [hn, Option.some_inj] at hn'
  exact_mod_cast hn'

theorem count?_eq_some_iff {value : Value} {k : Nat} :
    value.count? = some k <-> value.IsCount k := by
  cases value with
  | number n =>
      unfold count? IsCount
      rw [Number.toNat?_eq_some_iff]
      simp
  | _ => simp [count?, IsCount]

instance : DecidablePred IsPositive := fun value =>
  decidable_of_iff (value.count?.any (1 ≤ ·) = true) <| by
    unfold IsPositive
    simp only [Option.any_eq_true, count?_eq_some_iff, decide_eq_true_eq, and_comm]

end Value

namespace Config

/-!
# Problems and values of a table

The declarative side: the problems that each entry of a table has on its own, and the value that
the last entry of its name gives to a setting.
-/

/-- The ways in which an entry of a table can be wrong.  One whose key nobody knows is never. -/
inductive IsWrong : String × Value -> Problem -> Prop
  | notList {key : String} {value : Value}
      (names : setting? key = some .exclude ∨ setting? key = some .allowedWords)
      (noList : forall items, value ≠ .list items) : IsWrong (key, value) (.notList key)
  | notText {key : String} {items : List Value} {index : Nat} {item : Value}
      (names : setting? key = some .exclude ∨ setting? key = some .allowedWords)
      (stands : items[index]? = some item) (noText : forall s, item ≠ .text s) :
      IsWrong (key, .list items) (.notText key index)
  | notPositive {key : String} {value : Value} (names : setting? key = some .minLength)
      (noPositive : ¬ value.IsPositive) : IsWrong (key, value) (.notPositive key)

def listProblems (key : String) : Value -> List Problem
  | .list items =>
      items.zipIdx.filterMap fun (item, index) =>
        if item.text?.isSome then none else some (.notText key index)
  | _ => [.notList key]

def problemsOf (entry : String × Value) : List Problem :=
  match setting? entry.1 with
  | some .exclude | some .allowedWords => listProblems entry.1 entry.2
  | some .minLength => if entry.2.IsPositive then [] else [.notPositive entry.1]
  | none => []

def lastValue? (s : Setting) (fields : Fields) : Option Value :=
  fields.reverse.findSome? fun entry =>
    if setting? entry.1 = some s then some entry.2 else none

/-- A value says of a setting what the configuration holds. -/
def Holds (c : Config) : Setting -> Value -> Prop
  | .exclude, value => value = .list (c.exclude.map .text)
  | .allowedWords, value => value = .list (c.allowedWords.map .text)
  | .minLength, value => value.IsCount c.minLength

def valueOf (c : Config) : Setting -> Value
  | .exclude => .list (c.exclude.map .text)
  | .allowedWords => .list (c.allowedWords.map .text)
  | .minLength => .number (Number.ofNat c.minLength)

/-- Each setting has the value of the last entry that names it, or else the standard one. -/
def IsReading (c : Config) (fields : Fields) : Prop :=
  forall s, c.Holds s ((lastValue? s fields).getD (standard.valueOf s))

/-!
# Values of single entries

Lists of texts and natural numbers are read with the problems that the declarative side lists.
-/

section

variable {key : String} {value : Value}

theorem readTexts_snd (key : String) (index : Nat) (items : List Value) :
    (readTexts key index items).2 = (items.zipIdx index).filterMap fun (item, index) =>
      if item.text?.isSome then none else some (.notText key index) := by
  induction items generalizing index with
  | nil => rfl
  | cons item rest ih => cases item <;> simp [readTexts, Value.text?, ih]

theorem eq_map_of_readTexts {index : Nat} {items : List Value}
    (h : (readTexts key index items).2 = []) :
    items = (readTexts key index items).1.map .text := by
  induction items generalizing index with
  | nil => rfl
  | cons item rest ih =>
      cases item with
      | text s => exact congrArg (List.cons (Value.text s)) (ih h)
      | _ => cases h

theorem readList_snd (key : String) (value : Value) :
    (readList key value).2 = listProblems key value := by
  cases value with
  | list items => exact readTexts_snd key 0 items
  | _ => rfl

theorem readList_of_right (h : listProblems key value = []) :
    exists texts, (readList key value).1 = some texts ∧ value = .list (texts.map .text) := by
  rw [<- readList_snd] at h
  cases value with
  | list items => exact ⟨_, rfl, congrArg Value.list (eq_map_of_readTexts h)⟩
  | _ => cases h

theorem readPositive_eq (key : String) (value : Value) :
    readPositive key value =
      match value.count? with
      | some (k + 1) => (some (k + 1), [])
      | _ => (none, [.notPositive key]) := by
  cases value <;> rfl

theorem readPositive_of_right (key : String) (h : value.IsPositive) :
    exists k, readPositive key value = (some k, []) ∧ value.IsCount k := by
  rcases h with ⟨k, hpositive, hk⟩
  refine ⟨k, ?_, hk⟩
  obtain ⟨k, rfl⟩ := Nat.exists_eq_add_of_le' hpositive
  rw [readPositive_eq, Value.count?_eq_some_iff.mpr hk]

theorem readPositive_of_wrong (key : String) (h : ¬ value.IsPositive) :
    readPositive key value = (none, [.notPositive key]) := by
  rw [readPositive_eq]
  split
  · rename_i k hk
    exact absurd ⟨k + 1, Nat.le_add_left 1 k, Value.count?_eq_some_iff.mp hk⟩ h
  · rfl

end

/-!
# One entry after another

Reading an entry never fails.  Its problems come behind those before it, and it replaces the
setting that it names and leaves the others.
-/

section

variable {c c' : Config} {s : Setting} {before : Fields} {entry : String × Value}

theorem lastValue?_concat (s : Setting) (before : Fields) (entry : String × Value) :
    lastValue? s (before ++ [entry]) =
      if setting? entry.1 = some s then some entry.2 else lastValue? s before := by
  unfold lastValue?
  rw [List.reverse_append]
  by_cases h : setting? entry.1 = some s <;> simp [h]

theorem IsReading.concat_of_unknown (h : c.IsReading before) (hkey : setting? entry.1 = none) :
    c.IsReading (before ++ [entry]) := by
  intro s
  rw [lastValue?_concat, hkey, if_neg (by simp)]
  exact h s

theorem IsReading.concat (h : c.IsReading before) (hkey : setting? entry.1 = some s)
    (hs : c'.Holds s entry.2)
    (hothers : forall s' value, s' ≠ s -> c.Holds s' value -> c'.Holds s' value) :
    c'.IsReading (before ++ [entry]) := by
  intro s'
  rw [lastValue?_concat, hkey]
  by_cases hne : s' = s
  · rw [hne, if_pos rfl]
    exact hs
  · rw [if_neg fun h => hne (Option.some.inj h).symm]
    exact hothers s' _ hne (h s')

section

variable {value : Value} (h : c.Holds s value)
include h

theorem Holds.with_exclude (hne : s ≠ .exclude) (texts : List String) :
    ({ c with exclude := texts } : Config).Holds s value := by
  cases s with
  | exclude => exact absurd rfl hne
  | _ => exact h

theorem Holds.with_allowedWords (hne : s ≠ .allowedWords) (texts : List String) :
    ({ c with allowedWords := texts } : Config).Holds s value := by
  cases s with
  | allowedWords => exact absurd rfl hne
  | _ => exact h

theorem Holds.with_minLength (hne : s ≠ .minLength) (k : Nat) :
    ({ c with minLength := k } : Config).Holds s value := by
  cases s with
  | minLength => exact absurd rfl hne
  | _ => exact h

end

structure HasRead (before : Fields) (state : Config × List Problem) : Prop where
  problems : state.2 = before.flatMap problemsOf
  settings : state.2 = [] -> state.1.IsReading before

theorem isCount_standard : (standard.valueOf .minLength).IsCount standard.minLength :=
  Value.count?_eq_some_iff.mp (by decide)

theorem hasRead_nil : HasRead [] (standard, []) := by
  constructor
  · rfl
  · intro _ s
    cases s with
    | minLength => exact isCount_standard
    | _ => rfl

theorem HasRead.concat {state next : Config × List Problem} (h : HasRead before state)
    (hproblems : next.2 = state.2 ++ problemsOf entry)
    (hsettings : state.1.IsReading before -> problemsOf entry = [] ->
      next.1.IsReading (before ++ [entry])) : HasRead (before ++ [entry]) next := by
  constructor
  · rw [hproblems, h.problems, List.flatMap_append, List.flatMap_singleton]
  · intro hnone
    rw [hproblems, List.append_eq_nil_iff] at hnone
    exact hsettings (h.settings hnone.1) hnone.2

theorem HasRead.readEntry {state : Config × List Problem} (h : HasRead before state) (source : Path)
    (entry : String × Value) :
    exists next, (readEntry source state entry).result = .ok next ∧
      HasRead (before ++ [entry]) next := by
  rcases state with ⟨c, found⟩
  rcases entry with ⟨key, value⟩
  unfold Config.readEntry
  simp only
  cases hkey : setting? key with
  | none =>
      refine ⟨(c, found), rfl, h.concat ?_ fun hread _ => hread.concat_of_unknown hkey⟩
      simp [problemsOf, hkey]
  | some s =>
      cases s with
      | exclude =>
          refine ⟨_, rfl, h.concat ?_ fun hread hright => ?_⟩
          · simp [problemsOf, hkey, readList_snd]
          · simp only [problemsOf, hkey] at hright
            rcases readList_of_right hright with ⟨texts, htexts, hvalue⟩
            rw [htexts]
            exact hread.concat hkey hvalue fun _ _ hne hholds => hholds.with_exclude hne _
      | allowedWords =>
          refine ⟨_, rfl, h.concat ?_ fun hread hright => ?_⟩
          · simp [problemsOf, hkey, readList_snd]
          · simp only [problemsOf, hkey] at hright
            rcases readList_of_right hright with ⟨texts, htexts, hvalue⟩
            rw [htexts]
            exact hread.concat hkey hvalue fun _ _ hne hholds => hholds.with_allowedWords hne _
      | minLength =>
          by_cases hpositive : value.IsPositive
          · rcases readPositive_of_right key hpositive with ⟨k, hk, hcount⟩
            rw [hk]
            refine ⟨_, rfl, h.concat ?_ fun hread _ => ?_⟩
            · simp [problemsOf, hkey, hpositive]
            · exact hread.concat hkey hcount fun _ _ hne hholds => hholds.with_minLength hne _
          · rw [readPositive_of_wrong key hpositive]
            refine ⟨_, rfl, h.concat ?_ fun _ hright => ?_⟩
            · simp [problemsOf, hkey, hpositive]
            · simp [problemsOf, hkey, hpositive] at hright

theorem HasRead.readEntries {state : Config × List Problem} (h : HasRead before state)
    (source : Path) (rest : Fields) :
    exists next, (readEntries source state rest).result = .ok next ∧
      HasRead (before ++ rest) next := by
  induction rest generalizing before state with
  | nil => exact ⟨state, rfl, by simpa using h⟩
  | cons entry rest ih =>
      rcases h.readEntry source entry with ⟨middle, hmiddle, hread⟩
      rcases ih hread with ⟨next, hnext, hread'⟩
      refine ⟨next, ?_, by simpa using hread'⟩
      unfold Config.readEntries
      rw [Logged.result_bind, hmiddle]
      exact hnext

end

/-!
# Whole tables

A table is accepted exactly if nothing is wrong with any of its entries.
-/

section

variable {c c' : Config} {s : Setting} {key : String} {value : Value} {fields : Fields}
  {entry : String × Value} {problem : Problem}

theorem ofValue_of_right (source : Path) (htable : value.fields? = some fields)
    (h : fields.flatMap problemsOf = []) :
    exists c, (ofValue source value).result = .ok c ∧ c.IsReading fields := by
  rcases hasRead_nil.readEntries source fields with ⟨⟨c, found⟩, hresult, hread⟩
  have hfound : found = [] := hread.problems.trans h
  refine ⟨c, ?_, hread.settings hfound⟩
  unfold ofValue
  rw [htable]
  simp only
  rw [Logged.result_bind, hresult]
  simp [Except.bind, hfound]

theorem ofValue_of_wrong (source : Path) (htable : value.fields? = some fields)
    (h : fields.flatMap problemsOf ≠ []) :
    (ofValue source value).result =
      .error (.badSettings source (fields.flatMap problemsOf)) := by
  rcases hasRead_nil.readEntries source fields with ⟨⟨c, found⟩, hresult, hread⟩
  have hfound : found = fields.flatMap problemsOf := hread.problems
  unfold ofValue
  rw [htable]
  simp only
  rw [Logged.result_bind, hresult]
  simp [Except.bind, hfound, h, Logged.fail]

theorem mem_listProblems_iff (hlist : setting? key = some .exclude ∨
    setting? key = some .allowedWords) :
    problem ∈ listProblems key value <-> IsWrong (key, value) problem := by
  constructor
  · intro h
    cases value with
    | list items =>
        simp only [listProblems, List.mem_filterMap, Prod.exists] at h
        rcases h with ⟨item, index, hmem, hproblem⟩
        split at hproblem
        · cases hproblem
        · rename_i hnone
          cases hproblem
          refine .notText hlist (List.mem_zipIdx_iff_getElem?.mp hmem) ?_
          rintro s rfl
          exact hnone rfl
    | _ =>
        rw [List.mem_singleton.mp h]
        exact .notList hlist (by simp)
  · intro h
    cases h with
    | notList _ noList =>
        cases value with
        | list items => exact absurd rfl (noList items)
        | _ => exact List.mem_singleton.mpr rfl
    | @notText _ items index item _ stands noText =>
        simp only [listProblems, List.mem_filterMap, Prod.exists]
        refine ⟨item, index, List.mem_zipIdx_iff_getElem?.mpr stands, if_neg ?_⟩
        rw [Option.isSome_iff_exists]
        rintro ⟨s, hs⟩
        exact noText s (Value.text?_eq_some_iff.mp hs)
    | notPositive names _ => simp [names] at hlist

theorem mem_problemsOf_iff : problem ∈ problemsOf entry <-> IsWrong entry problem := by
  rcases entry with ⟨key, value⟩
  unfold problemsOf
  simp only
  cases hkey : setting? key with
  | none =>
      constructor
      · intro h
        cases h
      · intro h
        cases h <;> simp_all
  | some s =>
      cases s with
      | exclude => exact mem_listProblems_iff (.inl hkey)
      | allowedWords => exact mem_listProblems_iff (.inr hkey)
      | minLength =>
          simp only
          constructor
          · intro h
            split at h
            · cases h
            · rename_i hwrong
              rw [List.mem_singleton.mp h]
              exact .notPositive hkey hwrong
          · intro h
            cases h with
            | notPositive _ noPositive => simp [noPositive]
            | notList names => simp [hkey] at names
            | notText names => simp [hkey] at names

theorem problems_ne_nil_iff :
    fields.flatMap problemsOf ≠ [] <->
      exists entry problem, entry ∈ fields ∧ IsWrong entry problem := by
  constructor
  · intro h
    rcases List.exists_mem_of_ne_nil _ h with ⟨problem, hmem⟩
    rcases List.mem_flatMap.mp hmem with ⟨entry, hentry, hproblem⟩
    exact ⟨entry, problem, hentry, mem_problemsOf_iff.mp hproblem⟩
  · rintro ⟨entry, problem, hentry, hwrong⟩
    exact List.ne_nil_of_mem (List.mem_flatMap.mpr ⟨entry, hentry, mem_problemsOf_iff.mpr hwrong⟩)

theorem IsReading.unique (h : c.IsReading fields) (h' : c'.IsReading fields) : c = c' := by
  have htext : Function.Injective Value.text := fun _ _ => Value.text.inj
  have hexclude := (h .exclude).symm.trans (h' .exclude)
  have hallowed := (h .allowedWords).symm.trans (h' .allowedWords)
  have hlength := Value.IsCount.unique (h .minLength) (h' .minLength)
  cases c
  cases c'
  simp only [Value.list.injEq] at hexclude hallowed
  rw [Config.mk.injEq]
  exact ⟨List.map_injective_iff.mpr htext hexclude, List.map_injective_iff.mpr htext hallowed,
    hlength⟩

theorem ofValue_eq_ok_iff (source : Path) (htable : value.fields? = some fields) :
    (ofValue source value).result = .ok c <->
      fields.flatMap problemsOf = [] ∧ c.IsReading fields := by
  constructor
  · intro h
    by_cases hright : fields.flatMap problemsOf = []
    · rcases ofValue_of_right source htable hright with ⟨c', hc', hread⟩
      rw [h] at hc'
      cases hc'
      exact ⟨hright, hread⟩
    · rw [ofValue_of_wrong source htable hright] at h
      cases h
  · rintro ⟨hright, hread⟩
    rcases ofValue_of_right source htable hright with ⟨c', hc', hread'⟩
    rw [hc', hread'.unique hread]

theorem ofValue_eq_error_iff (source : Path) (htable : value.fields? = some fields)
    {failure : Failure} :
    (ofValue source value).result = .error failure <->
      fields.flatMap problemsOf ≠ [] ∧
        failure = .badSettings source (fields.flatMap problemsOf) := by
  by_cases hright : fields.flatMap problemsOf = []
  · rcases ofValue_of_right source htable hright with ⟨c, hc, _⟩
    simp [hc, hright]
  · rw [ofValue_of_wrong source htable hright]
    simp [hright, eq_comm]

/-!
# Entries that nobody knows

An entry whose key names no setting makes no difference.
-/

def IsKnown (entry : String × Value) : Prop :=
  (setting? entry.1).isSome

instance : DecidablePred IsKnown := fun entry =>
  inferInstanceAs (Decidable ((setting? entry.1).isSome = true))

theorem setting?_of_unknown (h : ¬ IsKnown entry) : setting? entry.1 = none := by
  rw [IsKnown, Option.not_isSome_iff_eq_none] at h
  exact h

theorem lastValue?_filter (s : Setting) (fields : Fields) :
    lastValue? s (fields.filter fun entry => IsKnown entry) = lastValue? s fields := by
  induction fields using List.reverseRecOn with
  | nil => rfl
  | append_singleton before entry ih =>
      rw [List.filter_append]
      by_cases h : IsKnown entry
      · simp [h, lastValue?_concat, ih]
      · simp [h, lastValue?_concat, ih, setting?_of_unknown h]

theorem problems_filter (fields : Fields) :
    (fields.filter fun entry => IsKnown entry).flatMap problemsOf = fields.flatMap problemsOf := by
  induction fields with
  | nil => rfl
  | cons entry rest ih =>
      by_cases h : IsKnown entry
      · simp [h, ih]
      · simp [h, ih, problemsOf, setting?_of_unknown h]

theorem isReading_filter_iff :
    c.IsReading (fields.filter fun entry => IsKnown entry) <-> c.IsReading fields := by
  unfold IsReading
  simp only [lastValue?_filter]

theorem ofValue_filter (source : Path) (htable : value.fields? = some fields) :
    (ofValue source (.table (fields.filter fun entry => IsKnown entry))).result =
      (ofValue source value).result := by
  cases h : (ofValue source value).result with
  | ok c =>
      rw [ofValue_eq_ok_iff source htable] at h
      rw [ofValue_eq_ok_iff source rfl, problems_filter, isReading_filter_iff]
      exact h
  | error failure =>
      rw [ofValue_eq_error_iff source htable] at h
      rw [ofValue_eq_error_iff source rfl, problems_filter]
      exact h

/-!
# Settings as a table

Settings that have been read can be written as a table of all settings, and that table is read as
the same settings.
-/

theorem mem_of_lastValue? (h : lastValue? s fields = some value) :
    exists key, (key, value) ∈ fields ∧ setting? key = some s := by
  rcases List.exists_of_findSome?_eq_some h with ⟨⟨key, value'⟩, hmem, hvalue⟩
  split at hvalue
  · rename_i hkey
    cases hvalue
    exact ⟨key, List.mem_reverse.mp hmem, hkey⟩
  · cases hvalue

theorem IsReading.one_le_minLength (h : c.IsReading fields)
    (hright : fields.flatMap problemsOf = []) : 1 ≤ c.minLength := by
  have hcount : Value.IsCount _ c.minLength := h .minLength
  cases hlast : lastValue? .minLength fields with
  | none =>
      rw [hlast] at hcount
      rw [hcount.unique isCount_standard]
      decide
  | some value =>
      rw [hlast] at hcount
      rcases mem_of_lastValue? hlast with ⟨key, hmem, hkey⟩
      have hpositive : value.IsPositive := by
        by_contra hwrong
        exact problems_ne_nil_iff.mpr ⟨_, _, hmem, .notPositive hkey hwrong⟩ hright
      rcases hpositive with ⟨k, hk, hcount'⟩
      rw [hcount.unique hcount']
      exact hk

theorem one_le_minLength {source : Path} (h : (ofValue source value).result = .ok c) :
    1 ≤ c.minLength := by
  cases htable : value.fields? with
  | none =>
      unfold ofValue at h
      rw [htable] at h
      cases h
  | some fields =>
      rcases (ofValue_eq_ok_iff source htable).mp h with ⟨hright, hread⟩
      exact hread.one_le_minLength hright

theorem IsReading.toNat?_minLength (h : c.IsReading fields)
    (hformat : forall key n, (key, Value.number n) ∈ fields -> n.InFormat) :
    (Number.ofNat c.minLength).toNat? = some c.minLength := by
  have hcount : Value.IsCount _ c.minLength := h .minLength
  have hof : forall n : Number, n.InFormat -> (Value.number n).IsCount c.minLength ->
      (Number.ofNat c.minLength).toNat? = some c.minLength := fun n hn hc =>
    Number.toNat?_ofNat hn (Value.count?_eq_some_iff.mpr hc)
  cases hlast : lastValue? .minLength fields with
  | none =>
      rw [hlast] at hcount
      exact hof _ (by decide) hcount
  | some value =>
      rw [hlast] at hcount
      rcases mem_of_lastValue? hlast with ⟨key, hmem, _⟩
      rcases hcount with ⟨n, rfl, hn⟩
      exact hof n (hformat key n hmem) ⟨n, rfl, hn⟩

theorem listProblems_map_text (key : String) (texts : List String) :
    listProblems key (.list (texts.map .text)) = [] := by
  simp only [listProblems, List.filterMap_eq_nil_iff]
  rintro ⟨item, index⟩ hmem
  have hitem := List.mem_of_getElem? (List.mem_zipIdx_iff_getElem?.mp hmem)
  rcases List.mem_map.mp hitem with ⟨s, _, rfl⟩
  rfl

/-- What has been read is read again from the table that it is written as. -/
theorem ofValue_toValue (source : Path) (hpositive : 1 ≤ c.minLength)
    (hkept : (Number.ofNat c.minLength).toNat? = some c.minLength) :
    (ofValue source c.toValue).result = .ok c := by
  have hcount : (Value.number (Number.ofNat c.minLength)).IsCount c.minLength :=
    Value.count?_eq_some_iff.mp hkept
  rw [ofValue_eq_ok_iff source rfl]
  constructor
  · have hlength : (Value.number (Number.ofNat c.minLength)).IsPositive := ⟨_, hpositive, hcount⟩
    simp [problemsOf, setting?, listProblems_map_text, hlength]
  · intro s
    cases s with
    | minLength => exact hcount
    | _ => rfl

end

/-- A table of settings is refused exactly if one of its entries is wrong, and then with all the
problems of all entries, in their order.  A table that is accepted gives each setting the value of
the last entry that names it, and what it gives, with any exclusion rules added or none, is given
again by the table that it is written as: lengths that the format can hold are not changed by being
written.  Entries that nobody knows make no difference. -/
theorem ofValue_reading (source : Path) {value : Value} {fields : Fields}
    (htable : value.fields? = some fields) :
    ((exists failure, (ofValue source value).result = .error failure) <->
      exists entry problem, entry ∈ fields ∧ IsWrong entry problem) ∧
    (forall failure, (ofValue source value).result = .error failure ->
      failure.kind = .configTypeMismatch ∧ failure.path? = some source ∧
        failure.details = (fields.flatMap problemsOf).map Problem.message) ∧
    (forall c, (ofValue source value).result = .ok c ->
      (forall s, c.Holds s ((lastValue? s fields).getD (standard.valueOf s))) ∧
      ((forall key n, (key, Value.number n) ∈ fields -> n.InFormat) ->
        forall source' extra,
          (ofValue source' c.toValue).result = .ok c ∧
          (ofValue source' (c.addExclusions extra).toValue).result = .ok (c.addExclusions extra))) ∧
    (ofValue source (.table (fields.filter fun entry => IsKnown entry))).result =
      (ofValue source value).result := by
  refine ⟨?_, ?_, ?_, ofValue_filter source htable⟩
  · rw [<- problems_ne_nil_iff]
    simp only [ofValue_eq_error_iff source htable, exists_and_left, exists_eq, and_true]
  · intro failure h
    rcases (ofValue_eq_error_iff source htable).mp h with ⟨_, rfl⟩
    exact ⟨rfl, rfl, rfl⟩
  · intro c h
    rcases (ofValue_eq_ok_iff source htable).mp h with ⟨hright, hread⟩
    refine ⟨hread, fun hformat source' extra => ?_⟩
    have hpositive := one_le_minLength h
    have hkept := hread.toNat?_minLength hformat
    exact ⟨ofValue_toValue source' hpositive hkept, ofValue_toValue source' hpositive hkept⟩

def spelledTwice : Fields :=
  [("exclude", .list [.text "dist"]), ("min-word-length", .number (Number.ofNat 6)),
    ("comment", .null), ("minWordLength", .number (Number.ofNat 5))]

def mistaken : Fields :=
  [("exclude", .text "target"), ("allowed-words", .list [.text "foo", .null, .bool true]),
    ("allowedWords", .list []), ("minWordLength", .number (Number.ofNat 0))]

theorem ofValue_reading_spelledTwice :
    (ofValue [] (.table spelledTwice)).result = .ok ⟨["dist"], [], 5⟩ ∧
      (ofValue [] (Config.mk ["dist", "*.js"] [] 5).toValue).result =
        .ok ⟨["dist", "*.js"], [], 5⟩ ∧
      exists failure, (ofValue [] (.table mistaken)).result = .error failure ∧
        failure.details = ["\"exclude\" should be an array of strings",
          "\"allowed-words[1]\" should be a string", "\"allowed-words[2]\" should be a string",
          "\"minWordLength\" should be a positive integer"] := by
  have htable : (Value.table spelledTwice).fields? = some spelledTwice := rfl
  have hmistaken : (Value.table mistaken).fields? = some mistaken := rfl
  rcases ofValue_reading [] htable with ⟨_, _, haccepted, _⟩
  rcases ofValue_reading [] hmistaken with ⟨hrefused, hdetails, _, _⟩
  have hok : (ofValue [] (.table spelledTwice)).result = .ok ⟨["dist"], [], 5⟩ := by
    rfl
  have hformat : forall key n, (key, Value.number n) ∈ spelledTwice -> n.InFormat := by
    intro key n hmem
    simp only [spelledTwice, List.mem_cons, Prod.mk.injEq, Value.number.injEq, reduceCtorEq,
      List.not_mem_nil, or_false, and_false, false_or] at hmem
    rcases hmem with ⟨_, rfl⟩ | ⟨_, rfl⟩ <;> decide
  rcases (haccepted _ hok).2 hformat [] ["*.js"] with ⟨_, hmore⟩
  rcases hrefused.mpr ⟨_, _, List.mem_cons_self, .notList (.inl rfl) (by simp)⟩ with
    ⟨failure, hfailure⟩
  refine ⟨hok, hmore, failure, hfailure, ?_⟩
  rw [(hdetails failure hfailure).2.2]
  decide +kernel

end Config
end CamelSpell
