import CamelSpell.Token

/-!
# Sub-words cover their token

However a token is split, its sub-words are not empty and stand one after another without a gap: put
together again they are the token, and each begins where the ones before it end.
-/

namespace CamelSpell

/-!
# Texts in a row

A text in a row stands in the whole at its offset, and behind the end of the texts before it.
-/

/-- Texts one after another, each with the number of characters before it. -/
def placed (offset : Nat) : List (List Char) -> List SubWord
  | [] => []
  | text :: rest => ⟨text, offset⟩ :: placed (offset + text.length) rest

theorem placed_append (offset : Nat) (texts others : List (List Char)) :
    placed offset (texts ++ others) =
      placed offset texts ++ placed (offset + texts.flatten.length) others := by
  induction texts generalizing offset with
  | nil =>
      simp [placed]
  | cons text rest ih =>
      simp [placed, ih, Nat.add_assoc]

theorem exists_append_of_mem_placed {offset : Nat} {texts : List (List Char)} {part : SubWord}
    (h : part ∈ placed offset texts) :
    part.text ∈ texts ∧ exists before after,
      texts.flatten = before ++ part.text ++ after ∧ part.offset = offset + before.length := by
  induction texts generalizing offset with
  | nil =>
      cases h
  | cons text rest ih =>
      rcases List.mem_cons.mp h with hfirst | hrest
      · subst hfirst
        exact ⟨List.mem_cons_self, [], rest.flatten, rfl, rfl⟩
      · rcases ih hrest with ⟨hmem, before, after, hflatten, hoffset⟩
        refine ⟨List.mem_cons_of_mem text hmem, text ++ before, after, ?_, ?_⟩
        · rw [List.flatten_cons, hflatten]
          simp only [List.append_assoc]
        · rw [hoffset, List.length_append, Nat.add_assoc]

theorem le_offset_of_mem_placed {offset : Nat} {texts : List (List Char)} {part : SubWord}
    (h : part ∈ placed offset texts) : offset ≤ part.offset := by
  rcases (exists_append_of_mem_placed h).2 with ⟨before, _, _, hoffset⟩
  rw [hoffset]
  exact Nat.le_add_right offset before.length

theorem pairwise_placed (offset : Nat) (texts : List (List Char)) :
    (placed offset texts).Pairwise fun a b => a.offset + a.text.length ≤ b.offset := by
  induction texts generalizing offset with
  | nil =>
      exact List.Pairwise.nil
  | cons text rest ih =>
      refine List.Pairwise.cons ?_ (ih _)
      intro part hpart
      exact le_offset_of_mem_placed hpart

/-!
# Reading a token

The invariant: the characters read so far are the closed sub-words and the open one.  A character
joins the open sub-word, or a part of that is closed and the rest of it stays open.
-/

namespace Reading

def Proper : Reading -> Prop
  | nothing => True
  | single _ => True
  | plain read => read ≠ []
  | acronym _ before => before ≠ []

end Reading

namespace Splitter

structure Cuts (s : Splitter) (read : List Char) (texts : List (List Char)) : Prop where
  closed_eq : s.closed.reverse = placed 0 texts
  start_eq : s.start = texts.flatten.length
  read_eq : read = texts.flatten ++ s.reading.reversed.reverse
  ne_nil : forall text, text ∈ texts -> text ≠ []
  proper : s.reading.Proper

theorem cuts_empty : Cuts empty [] [] := by
  constructor
  · rfl
  · rfl
  · rfl
  · intro text htext
    cases htext
  · trivial

section Step

variable {s : Splitter} {read : List Char} {texts : List (List Char)} {c : Char}
  {reading : Reading}

theorem Cuts.join (h : s.Cuts read texts) (hproper : reading.Proper)
    (hreversed : reading.reversed = c :: s.reading.reversed) :
    Cuts { s with reading := reading } (read ++ [c]) texts := by
  constructor
  · exact h.closed_eq
  · exact h.start_eq
  · show _ = texts.flatten ++ reading.reversed.reverse
    rw [h.read_eq, hreversed, List.reverse_cons, List.append_assoc]
  · exact h.ne_nil
  · exact hproper

theorem Cuts.close (h : s.Cuts read texts) (hproper : reading.Proper) {part : List Char}
    (hpart : part ≠ []) (hreversed : reading.reversed ++ part = c :: s.reading.reversed) :
    Cuts (s.close part reading) (read ++ [c]) (texts ++ [part.reverse]) := by
  constructor
  · show (⟨part.reverse, s.start⟩ :: s.closed).reverse = _
    rw [List.reverse_cons, h.closed_eq, placed_append, h.start_eq, Nat.zero_add]
    rfl
  · show s.start + part.length = _
    rw [h.start_eq]
    simp
  · have hjoined := congrArg List.reverse hreversed
    rw [List.reverse_append, List.reverse_cons] at hjoined
    show _ = (texts ++ [part.reverse]).flatten ++ reading.reversed.reverse
    rw [h.read_eq, List.append_assoc, <- hjoined]
    simp
  · intro text htext
    rcases List.mem_append.mp htext with hmem | hlast
    · exact h.ne_nil text hmem
    · rw [List.mem_singleton.mp hlast]
      exact mt List.reverse_eq_nil_iff.mp hpart
  · exact hproper

theorem Cuts.step (h : s.Cuts read texts) (c : Char) :
    exists texts', Cuts (s.step c) (read ++ [c]) texts' := by
  have hproper := h.proper
  unfold Splitter.step
  cases hreading : s.reading with
  | nothing =>
      have hsingle : (Reading.single c).Proper := trivial
      exact ⟨texts, h.join hsingle (by rw [hreading]; rfl)⟩
  | single a =>
      have hsingle : (Reading.single c).Proper := trivial
      have hplain : (Reading.plain [c, a]).Proper := List.cons_ne_nil c [a]
      have hacronym : (Reading.acronym c [a]).Proper := List.cons_ne_nil a []
      simp only
      split
      · split
        · exact ⟨_, h.close hsingle (List.cons_ne_nil a []) (by rw [hreading]; rfl)⟩
        · exact ⟨texts, h.join hacronym (by rw [hreading]; rfl)⟩
      · exact ⟨texts, h.join hplain (by rw [hreading]; rfl)⟩
  | plain letters =>
      rw [hreading] at hproper
      have hsingle : (Reading.single c).Proper := trivial
      have hplain : (Reading.plain (c :: letters)).Proper := List.cons_ne_nil c letters
      simp only
      split
      · exact ⟨_, h.close hsingle hproper (by rw [hreading]; rfl)⟩
      · exact ⟨texts, h.join hplain (by rw [hreading]; rfl)⟩
  | acronym last before =>
      rw [hreading] at hproper
      have hplain : (Reading.plain [c, last]).Proper := List.cons_ne_nil c [last]
      have hacronym : (Reading.acronym c (last :: before)).Proper := List.cons_ne_nil last before
      simp only
      split
      · exact ⟨_, h.close hplain hproper (by rw [hreading]; rfl)⟩
      · exact ⟨texts, h.join hacronym (by rw [hreading]; rfl)⟩

theorem Cuts.foldl_step (h : s.Cuts read texts) (token : List Char) :
    exists texts', Cuts (token.foldl Splitter.step s) (read ++ token) texts' := by
  induction token generalizing s read texts with
  | nil =>
      exact ⟨texts, by simpa using h⟩
  | cons c rest ih =>
      rcases h.step c with ⟨texts', hstep⟩
      rcases ih hstep with ⟨texts'', hrest⟩
      refine ⟨texts'', ?_⟩
      rwa [List.append_assoc, List.singleton_append] at hrest

theorem Cuts.finish (h : s.Cuts read texts) :
    exists texts', s.finish = placed 0 texts' ∧ texts'.flatten = read ∧
      forall text, text ∈ texts' -> text ≠ [] := by
  have hread := h.read_eq
  unfold Splitter.finish
  cases hopen : s.reading.reversed with
  | nil =>
      rw [hopen, List.reverse_nil, List.append_nil] at hread
      exact ⟨texts, h.closed_eq, hread.symm, h.ne_nil⟩
  | cons c rest =>
      rw [hopen] at hread
      refine ⟨texts ++ [(c :: rest).reverse], ?_, ?_, ?_⟩
      · show (SubWord.mk (c :: rest).reverse s.start :: s.closed).reverse = _
        rw [List.reverse_cons, h.closed_eq, placed_append, h.start_eq, Nat.zero_add]
        rfl
      · rw [hread, List.flatten_append, List.flatten_singleton]
      · intro text htext
        rcases List.mem_append.mp htext with hmem | hlast
        · exact h.ne_nil text hmem
        · rw [List.mem_singleton.mp hlast]
          exact mt List.reverse_eq_nil_iff.mp (List.cons_ne_nil c rest)

end Step

end Splitter

/-!
# Split tokens

The sub-words of a token are texts in a row that make up the token.
-/

theorem exists_placed_eq_splitToken (token : List Char) :
    exists texts, splitToken token = placed 0 texts ∧ texts.flatten = token ∧
      forall text, text ∈ texts -> text ≠ [] := by
  rcases Splitter.cuts_empty.foldl_step token with ⟨texts, h⟩
  exact h.finish

theorem text_ne_nil_of_mem_splitToken {token : List Char} {part : SubWord}
    (h : part ∈ splitToken token) : part.text ≠ [] := by
  rcases exists_placed_eq_splitToken token with ⟨texts, hsplit, _, hne⟩
  rw [hsplit] at h
  exact hne part.text (exists_append_of_mem_placed h).1

theorem exists_append_of_mem_splitToken {token : List Char} {part : SubWord}
    (h : part ∈ splitToken token) :
    exists before after, token = before ++ part.text ++ after ∧ part.offset = before.length := by
  rcases exists_placed_eq_splitToken token with ⟨texts, hsplit, hflatten, _⟩
  rw [hsplit] at h
  rcases (exists_append_of_mem_placed h).2 with ⟨before, after, htoken, hoffset⟩
  refine ⟨before, after, ?_, ?_⟩
  · rw [<- hflatten, htoken]
  · rw [hoffset, Nat.zero_add]

theorem pairwise_splitToken (token : List Char) :
    (splitToken token).Pairwise fun a b => a.offset + a.text.length ≤ b.offset := by
  rcases exists_placed_eq_splitToken token with ⟨texts, hsplit, _⟩
  rw [hsplit]
  exact pairwise_placed 0 texts

end CamelSpell
