import CamelSpell.Proofs.LetterCase
import CamelSpell.Proofs.SubWord
import Mathlib.Data.List.TakeWhile

/-!
# The first sub-word of a token

Splitting carries no state from one sub-word to the next.  The first sub-word can be read off the
characters of the token, and what the token holds behind it is split like a token of its own.
-/

namespace CamelSpell

open Unicode

/-!
# Sub-words behind others

A splitter that has closed sub-words goes on as one that begins behind them, and a token of which
nothing has been closed is its only sub-word.
-/

def SubWord.shift (n : Nat) (part : SubWord) : SubWord :=
  ⟨part.text, n + part.offset⟩

namespace Splitter

def behind (n : Nat) (before : List SubWord) (s : Splitter) : Splitter :=
  ⟨n + s.start, s.reading, s.closed.map (SubWord.shift n) ++ before⟩

section Behind

variable (n : Nat) (before : List SubWord) (s : Splitter)

theorem close_behind (reversed : List Char) (reading : Reading) :
    (s.behind n before).close reversed reading = (s.close reversed reading).behind n before := by
  simp [behind, close, SubWord.shift, Nat.add_assoc]

theorem step_behind (c : Char) : (s.behind n before).step c = (s.step c).behind n before := by
  have hreading : (s.behind n before).reading = s.reading := rfl
  unfold step
  rw [hreading]
  cases s.reading with
  | nothing =>
      rfl
  | single a =>
      simp only [close_behind, apply_ite (behind n before)]
      rfl
  | plain read =>
      simp only [close_behind, apply_ite (behind n before)]
      rfl
  | acronym last read =>
      simp only [close_behind, apply_ite (behind n before)]
      rfl

theorem foldl_step_behind (token : List Char) :
    token.foldl step (s.behind n before) = (token.foldl step s).behind n before := by
  induction token generalizing s with
  | nil =>
      rfl
  | cons c rest ih =>
      rw [List.foldl_cons, List.foldl_cons, step_behind, ih]

theorem finish_behind :
    (s.behind n before).finish = before.reverse ++ s.finish.map (SubWord.shift n) := by
  have hreading : (s.behind n before).reading = s.reading := rfl
  unfold finish
  rw [hreading]
  cases s.reading.reversed with
  | nil =>
      simp [behind]
  | cons c rest =>
      simp [behind, SubWord.shift]

end Behind

/-- If sub-words have been closed and the splitter has nothing else in mind than a splitter that
begins behind them, then the rest of the token is split as a token of its own. -/
theorem splitToken_of_closed {front read : List Char} {n : Nat} {closed : List SubWord}
    (h : (front ++ read).foldl step empty = (read.foldl step empty).behind n closed)
    (rest : List Char) :
    splitToken (front ++ (read ++ rest)) =
      closed.reverse ++ (splitToken (read ++ rest)).map (SubWord.shift n) := by
  unfold splitToken
  rw [<- List.append_assoc, List.foldl_append, h, foldl_step_behind, finish_behind,
    List.foldl_append]

theorem splitToken_of_open {first : List Char} {reading : Reading} (hne : first ≠ [])
    (h : first.foldl step empty = ⟨0, reading, []⟩) (hreversed : reading.reversed = first.reverse) :
    splitToken first = [⟨first, 0⟩] := by
  unfold splitToken
  rw [h]
  unfold finish
  cases hopen : reading.reversed with
  | nil =>
      rw [hreversed, List.reverse_eq_nil_iff] at hopen
      exact absurd hopen hne
  | cons c rest =>
      rw [hreversed] at hopen
      simp [<- hopen]

/-!
# Inside a sub-word

A plain sub-word lasts as long as no capital comes, an acronym as long as no lower-case letter
comes.
-/

theorem foldl_plain (start : Nat) (read : List Char) (closed : List SubWord) {more : List Char}
    (hmore : forall c, c ∈ more -> isUppercase c = false) :
    more.foldl step ⟨start, .plain read, closed⟩ =
      ⟨start, .plain (more.reverse ++ read), closed⟩ := by
  induction more generalizing read with
  | nil =>
      rfl
  | cons c rest ih =>
      rw [List.forall_mem_cons] at hmore
      have hstep : step ⟨start, .plain read, closed⟩ c = ⟨start, .plain (c :: read), closed⟩ := by
        simp [step, hmore.1]
      rw [List.foldl_cons, hstep, ih _ hmore.2, List.reverse_cons, List.append_assoc]
      rfl

theorem foldl_acronym (start : Nat) (last : Char) (before : List Char) (closed : List SubWord)
    {more : List Char} (hmore : forall c, c ∈ more -> isLowercase c = false) :
    exists last' before', last' :: before' = more.reverse ++ last :: before ∧
      more.foldl step ⟨start, .acronym last before, closed⟩ =
        ⟨start, .acronym last' before', closed⟩ := by
  induction more generalizing last before with
  | nil =>
      exact ⟨last, before, rfl, rfl⟩
  | cons c rest ih =>
      rw [List.forall_mem_cons] at hmore
      have hstep : step ⟨start, .acronym last before, closed⟩ c =
          ⟨start, .acronym c (last :: before), closed⟩ := by
        simp [step, hmore.1]
      rcases ih c (last :: before) hmore.2 with ⟨last', before', hread, hfold⟩
      refine ⟨last', before', ?_, ?_⟩
      · rw [hread, List.reverse_cons, List.append_assoc]
        rfl
      · rw [List.foldl_cons, hstep, hfold]

section Opening

variable {a b : Char} {more : List Char}

theorem foldl_step_plain (a : Char) (hb : isUppercase b = false)
    (hmore : forall c, c ∈ more -> isUppercase c = false) :
    (a :: b :: more).foldl step empty = ⟨0, .plain (a :: b :: more).reverse, []⟩ := by
  have hsecond : step ⟨0, .single a, []⟩ b = ⟨0, .plain [b, a], []⟩ := by
    simp [step, hb]
  show more.foldl step (step ⟨0, .single a, []⟩ b) = _
  rw [hsecond, foldl_plain 0 [b, a] [] hmore]
  simp

theorem foldl_step_acronym (ha : isLowercase a = false) (hb : isUppercase b = true)
    (hmore : forall c, c ∈ more -> isLowercase c = false) :
    exists last before, last :: before = (a :: b :: more).reverse ∧
      (a :: b :: more).foldl step empty = ⟨0, .acronym last before, []⟩ := by
  have hsecond : step ⟨0, .single a, []⟩ b = ⟨0, .acronym b [a], []⟩ := by
    simp [step, ha, hb]
  rcases foldl_acronym 0 b [a] [] hmore with ⟨last, before, hread, hfold⟩
  refine ⟨last, before, ?_, ?_⟩
  · rw [hread]
    simp
  · show more.foldl step (step ⟨0, .single a, []⟩ b) = _
    rw [hsecond, hfold]

end Opening

end Splitter

/-!
# How a token begins

Whatever comes behind the first sub-word, the splitter cuts the token there and begins again.
-/

/-- A token may begin with the sub-word `first` and go on with `rest`.  The second character
decides: `small` is a lower-case letter before a capital, `plain` goes up to the next capital,
`acronym` goes up to the end of the token, and `capital` up to the character before the first
lower-case letter. -/
inductive Begins : List Char -> List Char -> Prop where
  | letter (a : Char) : Begins [a] []
  | small {a u : Char} (ha : isLowercase a = true) (hu : isUppercase u = true)
      (rest : List Char) : Begins [a] (u :: rest)
  | plain (a : Char) {b : Char} {more rest : List Char} (hb : isUppercase b = false)
      (hmore : forall c, c ∈ more -> isUppercase c = false)
      (hrest : forall u, rest.head? = some u -> isUppercase u = true) :
      Begins (a :: b :: more) rest
  | acronym {a b : Char} {more : List Char} (ha : isLowercase a = false)
      (hb : isUppercase b = true) (hmore : forall c, c ∈ more -> isLowercase c = false) :
      Begins (a :: b :: more) []
  | capital {a b x c : Char} {more first : List Char} (ha : isLowercase a = false)
      (hb : isUppercase b = true) (hmore : forall c, c ∈ more -> isLowercase c = false)
      (hrun : a :: b :: more = first ++ [x]) (hc : isLowercase c = true) (rest : List Char) :
      Begins first (x :: c :: rest)

namespace Begins

variable {first rest : List Char}

theorem ne_nil (h : Begins first rest) : first ≠ [] := by
  cases h with
  | letter a => exact List.cons_ne_nil a []
  | small _ _ _ => exact List.cons_ne_nil _ []
  | plain a _ _ _ => exact List.cons_ne_nil a _
  | acronym _ _ _ => exact List.cons_ne_nil _ _
  | capital ha hb hmore hrun hc rest =>
      intro hnil
      rw [hnil] at hrun
      cases hrun

theorem alone (h : Begins first rest) : Begins first [] := by
  cases h with
  | letter a => exact letter a
  | small _ _ _ => exact letter _
  | plain a hb hmore _ => exact plain a hb hmore (fun u hu => by cases hu)
  | acronym ha hb hmore => exact acronym ha hb hmore
  | @capital a b x c more first ha hb hmore hrun hc rest =>
      cases first with
      | nil => cases hrun
      | cons a' tail =>
          cases tail with
          | nil => exact letter a'
          | cons b' front =>
              simp only [List.cons_append, List.cons.injEq] at hrun
              rcases hrun with ⟨rfl, rfl, rfl⟩
              apply acronym ha hb
              intro d hd
              exact hmore d (List.mem_append_left [x] hd)

theorem splitToken_append (h : Begins first rest) :
    splitToken (first ++ rest) =
      ⟨first, 0⟩ :: (splitToken rest).map (SubWord.shift first.length) := by
  have hwhole : forall {token : List Char} {reading : Reading}, token ≠ [] ->
      token.foldl Splitter.step .empty = ⟨0, reading, []⟩ ->
      reading.reversed = token.reverse -> splitToken (token ++ []) = [⟨token, 0⟩] := by
    intro token reading hne hfold hreversed
    rw [List.append_nil]
    exact Splitter.splitToken_of_open hne hfold hreversed
  cases h with
  | letter a =>
      rfl
  | @small a u ha hu rest =>
      have hclosed : ([a] ++ [u]).foldl Splitter.step .empty =
          ([u].foldl Splitter.step .empty).behind 1 [⟨[a], 0⟩] := by
        simp [Splitter.step, Splitter.behind, Splitter.close, Splitter.empty, ha, hu]
      exact Splitter.splitToken_of_closed hclosed rest
  | @plain a b more rest hb hmore hrest =>
      have hfold := Splitter.foldl_step_plain a hb hmore
      cases rest with
      | nil =>
          exact hwhole (List.cons_ne_nil a _) hfold rfl
      | cons u rest =>
          have hu := hrest u rfl
          have hclosed : (a :: b :: more ++ [u]).foldl Splitter.step .empty =
              ([u].foldl Splitter.step .empty).behind (a :: b :: more).length
                [⟨a :: b :: more, 0⟩] := by
            rw [List.foldl_append, hfold]
            simp [Splitter.step, Splitter.behind, Splitter.close, Splitter.empty, hu]
          exact Splitter.splitToken_of_closed hclosed rest
  | @acronym a b more ha hb hmore =>
      rcases Splitter.foldl_step_acronym ha hb hmore with ⟨last, before, hread, hfold⟩
      exact hwhole (List.cons_ne_nil a _) hfold hread
  | @capital a b x c more first ha hb hmore hrun hc rest =>
      rcases Splitter.foldl_step_acronym ha hb hmore with ⟨last, before, hread, hfold⟩
      rw [hrun, List.reverse_append, List.reverse_singleton, List.singleton_append,
        List.cons.injEq] at hread
      rcases hread with ⟨hlast, hbefore⟩
      have hupper := isUppercase_of_isLowercase hc
      -- the character before the lower-case letter is given back and begins the next sub-word
      have hclosed : (first ++ [x, c]).foldl Splitter.step .empty =
          ([x, c].foldl Splitter.step .empty).behind first.length [⟨first, 0⟩] := by
        have hread : first ++ [x, c] = a :: b :: more ++ [c] := by
          rw [hrun, List.append_assoc]
          rfl
        rw [hread, List.foldl_append, hfold, hlast, hbefore]
        simp [Splitter.step, Splitter.behind, Splitter.close, Splitter.empty, hc, hupper]
      exact Splitter.splitToken_of_closed hclosed rest

end Begins

/-!
# Reading off the first sub-word

The first sub-word can be read off the token, so that tokens can be taken apart sub-word by
sub-word.
-/

/-- The first sub-word of a token: a lower-case letter before a capital stands alone; without a
capital in second place the sub-word goes on up to the next capital; otherwise it is an acronym,
the whole token if no lower-case letter comes, and else what stands before the character in front
of the first one. -/
def firstSubWord : List Char -> List Char
  | [] => []
  | [a] => [a]
  | a :: b :: rest =>
      if isLowercase a && isUppercase b then [a]
      else if !isUppercase b then a :: (b :: rest).takeWhile fun c => !isUppercase c
      else
        match (a :: b :: rest).findIdx? isLowercase with
        | none => a :: b :: rest
        | some j => (a :: b :: rest).take (j - 1)

theorem begins_plain (a : Char) {b : Char} (hb : isUppercase b = false) (tail : List Char) :
    Begins (a :: (b :: tail).takeWhile fun c => !isUppercase c)
      ((b :: tail).dropWhile fun c => !isUppercase c) := by
  rw [List.takeWhile_cons_of_pos (by simp [hb]), List.dropWhile_cons_of_pos (by simp [hb])]
  apply Begins.plain a hb
  · intro c hc
    simpa using List.mem_takeWhile_imp hc
  · intro u hu
    have hstop := List.head?_dropWhile_not (fun c => !isUppercase c) tail
    rw [hu] at hstop
    simpa using hstop

theorem firstSubWord_acronym {a b : Char} {more : List Char} (ha : isLowercase a = false)
    (hb : isUppercase b = true) (hmore : forall c, c ∈ more -> isLowercase c = false) :
    firstSubWord (a :: b :: more) = a :: b :: more := by
  have hnone : (a :: b :: more).findIdx? isLowercase = none :=
    List.findIdx?_eq_none_iff.mpr (forall_not_isLowercase ha hb hmore)
  simp only [firstSubWord, ha, hb, hnone, Bool.false_and, Bool.not_true, Bool.false_eq_true,
    if_false]

theorem firstSubWord_capital {a b c : Char} {more : List Char} (ha : isLowercase a = false)
    (hb : isUppercase b = true) (hmore : forall c, c ∈ more -> isLowercase c = false)
    (hc : isLowercase c = true) (rest : List Char) :
    firstSubWord (a :: b :: (more ++ c :: rest)) = (a :: b :: more).dropLast := by
  have hlower := isLowercase_of_isUppercase hb
  have hfound : (a :: b :: (more ++ c :: rest)).findIdx? isLowercase = some (more.length + 2) := by
    simp [List.findIdx?_cons, List.findIdx?_append, ha, hlower, hc,
      List.findIdx?_eq_none_iff.mpr hmore]
  have hinside : more.length + 1 ≤ (a :: b :: more).length := by
    simp
  have htake : (a :: b :: (more ++ c :: rest)).take (more.length + 2 - 1) =
      (a :: b :: more).take (more.length + 1) :=
    List.take_append_of_le_length hinside
  simp only [firstSubWord, ha, hb, hfound, htake, Bool.false_and, Bool.not_true,
    Bool.false_eq_true, if_false]
  rw [List.dropLast_eq_take]
  rfl

theorem begins_firstSubWord {token : List Char} (hne : token ≠ []) :
    exists rest, token = firstSubWord token ++ rest ∧ Begins (firstSubWord token) rest := by
  match token, hne with
  | [a], _ =>
      exact ⟨[], rfl, .letter a⟩
  | a :: b :: tail, _ =>
      cases hb : isUppercase b with
      | false =>
          have hfirst : firstSubWord (a :: b :: tail) =
              a :: (b :: tail).takeWhile fun c => !isUppercase c := by
            simp [firstSubWord, hb]
          rw [hfirst]
          refine ⟨_, ?_, begins_plain a hb tail⟩
          rw [List.cons_append, List.takeWhile_append_dropWhile]
      | true =>
          cases ha : isLowercase a with
          | true =>
              have hfirst : firstSubWord (a :: b :: tail) = [a] := by
                simp [firstSubWord, ha, hb]
              rw [hfirst]
              exact ⟨b :: tail, rfl, .small ha hb tail⟩
          | false =>
              cases hfind : tail.find? isLowercase with
              | none =>
                  have hmore : forall c, c ∈ tail -> isLowercase c = false := by
                    simpa using hfind
                  rw [firstSubWord_acronym ha hb hmore]
                  exact ⟨[], (List.append_nil _).symm, .acronym ha hb hmore⟩
              | some c =>
                  rcases List.find?_eq_some_iff_append.mp hfind with ⟨hc, more, rest, htail, hnot⟩
                  have hmore : forall c, c ∈ more -> isLowercase c = false := by
                    simpa using hnot
                  have hlast := List.dropLast_concat_getLast (List.cons_ne_nil a (b :: more))
                  rw [htail, firstSubWord_capital ha hb hmore hc rest]
                  refine ⟨_, ?_, .capital ha hb hmore hlast.symm hc rest⟩
                  rw [List.append_cons (a :: b :: more).dropLast, hlast]
                  rfl

theorem exists_begins {token : List Char} (hne : token ≠ []) :
    exists first rest, token = first ++ rest ∧ Begins first rest := by
  rcases begins_firstSubWord hne with ⟨rest, htoken, hbegins⟩
  exact ⟨firstSubWord token, rest, htoken, hbegins⟩

/-- What holds of the empty token and carries over to a first sub-word in front holds of all
tokens. -/
theorem tokenInduction {motive : List Char -> Prop} (nil : motive [])
    (cut : forall first rest, Begins first rest -> motive rest -> motive (first ++ rest))
    (token : List Char) : motive token := by
  by_cases hne : token = []
  · rw [hne]
    exact nil
  · rcases exists_begins hne with ⟨first, rest, htoken, hbegins⟩
    have hshorter : rest.length < token.length := by
      have hlength := List.length_pos_iff.mpr hbegins.ne_nil
      rw [htoken, List.length_append]
      omega
    rw [htoken]
    exact cut first rest hbegins (tokenInduction nil cut rest)
termination_by token.length

/-!
# Splitting by first sub-words

A sub-word that is a token of its own is not cut again, and its offset is the number of characters
of the sub-words before it.
-/

theorem splitToken_text {token : List Char} {part : SubWord} (h : part ∈ splitToken token) :
    splitToken part.text = [⟨part.text, 0⟩] := by
  induction token using tokenInduction generalizing part with
  | nil =>
      cases h
  | cut first rest hbegins ih =>
      rw [hbegins.splitToken_append] at h
      rcases List.mem_cons.mp h with hfirst | hrest
      · have halone := hbegins.alone.splitToken_append
        rw [List.append_nil] at halone
        rw [hfirst]
        exact halone
      · rcases List.mem_map.mp hrest with ⟨other, hother, hshift⟩
        rw [<- hshift]
        show splitToken other.text = [⟨other.text, 0⟩]
        exact ih hother

theorem placed_texts (offset : Nat) (texts : List (List Char)) :
    (placed offset texts).map SubWord.text = texts := by
  induction texts generalizing offset with
  | nil =>
      rfl
  | cons text rest ih =>
      simp [placed, ih]

theorem offset_of_placed {offset : Nat} {texts : List (List Char)} {before after : List SubWord}
    {part : SubWord} (h : placed offset texts = before ++ part :: after) :
    part.offset = offset + (before.flatMap SubWord.text).length := by
  induction texts generalizing offset before with
  | nil =>
      cases before <;> cases h
  | cons text rest ih =>
      cases before with
      | nil =>
          cases h
          rfl
      | cons first others =>
          simp only [placed, List.cons_append, List.cons.injEq] at h
          rcases h with ⟨hfirst, hrest⟩
          rw [ih hrest, <- hfirst]
          simp [Nat.add_assoc]

theorem flatten_splitToken (token : List Char) :
    ((splitToken token).map SubWord.text).flatten = token := by
  rcases exists_placed_eq_splitToken token with ⟨texts, hsplit, hflatten, _⟩
  rw [hsplit, placed_texts, hflatten]

/-- A token is split into its first sub-word and, behind that, the sub-words of what is left, which
is split as a token of its own.  The sub-words make up the token, none is empty, each begins where
the ones before it end, and none is cut when it is split again. -/
theorem splitToken_firstSubWord {token : List Char} (hne : token ≠ []) :
    splitToken token = ⟨firstSubWord token, 0⟩ ::
      (splitToken (token.drop (firstSubWord token).length)).map
        (SubWord.shift (firstSubWord token).length) ∧
    ((splitToken token).map SubWord.text).flatten = token ∧
    (forall part, part ∈ splitToken token -> part.text ≠ []) ∧
    (forall before part after, splitToken token = before ++ part :: after ->
      part.offset = (before.flatMap SubWord.text).length) ∧
    (forall part, part ∈ splitToken token -> splitToken part.text = [⟨part.text, 0⟩]) := by
  refine ⟨?_, flatten_splitToken token, ?_, ?_, ?_⟩
  · rcases begins_firstSubWord hne with ⟨rest, htoken, hbegins⟩
    have hdrop := @List.drop_left Char (firstSubWord token) rest
    rw [<- htoken] at hdrop
    rw [hdrop, <- hbegins.splitToken_append, <- htoken]
  · exact fun part hpart => text_ne_nil_of_mem_splitToken hpart
  · intro before part after hsplit
    rcases exists_placed_eq_splitToken token with ⟨texts, hplaced, _⟩
    rw [hplaced] at hsplit
    rw [offset_of_placed hsplit, Nat.zero_add]
  · exact fun part hpart => splitToken_text hpart

theorem splitToken_firstSubWord_caseless :
    "ABC'dX語Y".toList ≠ [] ∧
      splitToken "ABC'dX語Y".toList =
        ⟨"ABC".toList, 0⟩ :: (splitToken "'dX語Y".toList).map (SubWord.shift 3) ∧
      splitToken "X語".toList = [⟨"X語".toList, 0⟩] := by
  have hne : "ABC'dX語Y".toList ≠ [] := by decide
  have hfirst : firstSubWord "ABC'dX語Y".toList = "ABC".toList := by decide +kernel
  have hpart : ⟨"X語".toList, 5⟩ ∈ splitToken "ABC'dX語Y".toList := by decide +kernel
  have hsplit := splitToken_firstSubWord hne
  rw [hfirst] at hsplit
  exact ⟨hne, hsplit.1, hsplit.2.2.2.2 ⟨"X語".toList, 5⟩ hpart⟩

end CamelSpell
