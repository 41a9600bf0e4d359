import CamelSpell.Proofs.FirstSubWord

/-!
# How sub-words begin

A sub-word behind the first one begins with a capital, unless an acronym has taken in a character
without a case.  If a lower-case letter follows such a character, the acronym gives the character
back, and the next sub-word begins with it.
-/

namespace CamelSpell

open Unicode

def SubWord.beginsWithCapital (part : SubWord) : Bool :=
  part.text.head?.any isUppercase

/-- What has been read of a token ends in an open acronym: two capitals in a row, the first of which
may be any character but a lower-case letter where the token begins, and no lower-case letter since
then. -/
def EndsInAcronym (read : List Char) : Prop :=
  exists before a b run, read = before ++ a :: b :: run ∧ isUppercase b = true ∧
    (isUppercase a = true ∨ before = [] ∧ isLowercase a = false) ∧
    forall c, c ∈ run -> isLowercase c = false

/-- At the given place of a token a character without a case stands between an open acronym and a
lower-case letter. -/
def IsCaselessStart (token : List Char) (i : Nat) : Prop :=
  exists before x c after, token = before ++ x :: c :: after ∧ before.length = i ∧
    EndsInAcronym before ∧ isUppercase x = false ∧ isLowercase x = false ∧ isLowercase c = true

/-!
# Behind the first sub-word

Behind the first sub-word of a token comes a capital, or the character that an acronym gives back
to a lower-case letter.
-/

section Behind

variable {first rest : List Char}

theorem Begins.rest_cases (h : Begins first rest) :
    (forall u, rest.head? = some u -> isUppercase u = true) ∨
      exists a b more x c others, a :: b :: more = first ++ [x] ∧ rest = x :: c :: others ∧
        isUppercase b = true ∧ isLowercase c = true ∧
        forall d, d ∈ a :: b :: more -> isLowercase d = false := by
  cases h with
  | letter a =>
      exact Or.inl fun u hu => by cases hu
  | small ha hu rest =>
      exact Or.inl fun v hv => by rw [<- Option.some.inj hv]; exact hu
  | plain a hb hmore hrest =>
      exact Or.inl hrest
  | acronym ha hb hmore =>
      exact Or.inl fun u hu => by cases hu
  | @capital a b x c more first ha hb hmore hrun hc others =>
      exact Or.inr ⟨a, b, more, x, c, others, hrun, rfl, hb, hc,
        forall_not_isLowercase ha hb hmore⟩

theorem Begins.isCaselessStart {x : Char} (h : Begins first (x :: rest))
    (hx : isUppercase x = false) : IsCaselessStart (first ++ x :: rest) first.length := by
  rcases h.rest_cases with hcapital | ⟨a, b, more, y, c, others, hrun, hrest, hb, hc, hlower⟩
  · rw [hcapital x rfl] at hx
    cases hx
  · rcases List.cons.inj hrest with ⟨hxy, hothers⟩
    rw [<- hxy] at hrun
    have hcase : isLowercase x = false := by
      apply hlower
      rw [hrun]
      exact List.mem_append_right first List.mem_cons_self
    refine ⟨first, x, c, others, by rw [hothers], rfl, ?_, hx, hcase, hc⟩
    match first, hrun with
    | [a'], hrun =>
        -- the second character of an acronym is a capital, so it is not the one given back
        simp only [List.cons_append, List.nil_append, List.cons.injEq] at hrun
        rw [hrun.2.1, hx] at hb
        cases hb
    | a' :: b' :: run, hrun =>
        simp only [List.cons_append, List.cons.injEq] at hrun
        rcases hrun with ⟨haa, hbb, hmore⟩
        subst haa hbb hmore
        refine ⟨[], a, b, run, rfl, hb, Or.inr ⟨rfl, hlower a List.mem_cons_self⟩, ?_⟩
        intro d hd
        apply hlower
        exact List.mem_cons_of_mem a (List.mem_cons_of_mem b (List.mem_append_left [x] hd))

theorem EndsInAcronym.append {read : List Char} (h : EndsInAcronym read)
    (hbegins : Begins first (read ++ rest)) : EndsInAcronym (first ++ read) := by
  rcases h with ⟨before, a, b, run, hread, hb, ha, hrun⟩
  refine ⟨first ++ before, a, b, run, by rw [hread, List.append_assoc], hb, ?_, hrun⟩
  rcases ha with hupper | ⟨hnil, hlower⟩
  · exact Or.inl hupper
  · rw [hread, hnil] at hbegins
    rcases hbegins.rest_cases with hcapital | ⟨_, _, _, x, c, others, _, hrest, _, hc, _⟩
    · exact Or.inl (hcapital a rfl)
    · -- a capital stands where the lower-case letter would be that ends the first sub-word
      simp only [List.nil_append, List.cons_append, List.cons.injEq] at hrest
      rw [hrest.2.1, isUppercase_of_isLowercase hc] at hb
      cases hb

theorem IsCaselessStart.append {i : Nat} (h : IsCaselessStart rest i)
    (hbegins : Begins first rest) : IsCaselessStart (first ++ rest) (first.length + i) := by
  rcases h with ⟨before, x, c, after, hrest, hlength, hacronym, hcaseless⟩
  rw [hrest] at hbegins
  refine ⟨first ++ before, x, c, after, ?_, ?_, hacronym.append hbegins, hcaseless⟩
  · rw [hrest, List.append_assoc]
  · rw [List.length_append, hlength]

end Behind

theorem exists_splitToken_cons (x : Char) (rest : List Char) :
    exists tail others, splitToken (x :: rest) = ⟨x :: tail, 0⟩ :: others := by
  rcases exists_begins (List.cons_ne_nil x rest) with ⟨first, others, htoken, hbegins⟩
  match first, hbegins.ne_nil with
  | y :: tail, _ =>
      rw [htoken, hbegins.splitToken_append]
      rw [List.cons_append, List.cons.injEq] at htoken
      rw [htoken.1]
      exact ⟨tail, _, rfl⟩

theorem isCaselessStart_of_mem {token : List Char} {part : SubWord}
    (h : part ∈ (splitToken token).tail) (hcapital : part.beginsWithCapital = false) :
    IsCaselessStart token part.offset := by
  induction token using tokenInduction generalizing part with
  | nil =>
      cases h
  | cut first rest hbegins ih =>
      rw [hbegins.splitToken_append, List.tail_cons] at h
      rcases List.mem_map.mp h with ⟨other, hother, hshift⟩
      subst hshift
      cases rest with
      | nil =>
          cases hother
      | cons x rest =>
          rcases exists_splitToken_cons x rest with ⟨tail, others, hsplit⟩
          rw [hsplit] at hother ih
          rcases List.mem_cons.mp hother with hhead | htail
          · rw [hhead] at hcapital ⊢
            exact hbegins.isCaselessStart hcapital
          · exact (ih htail hcapital).append hbegins

/-!
# Open acronyms

A capital behind a character that is no lower-case letter leaves an acronym open, and so the
character in front of the next lower-case letter is given back, whether it is a capital or not.
-/

namespace Splitter

theorem start_add_length (read : List Char) :
    (read.foldl step empty).start + (read.foldl step empty).reading.reversed.length =
      read.length := by
  rcases cuts_empty.foldl_step read with ⟨texts, hcuts⟩
  have hread := congrArg List.length hcuts.read_eq
  rw [List.nil_append, List.length_append, List.length_reverse, <- hcuts.start_eq] at hread
  exact hread.symm

theorem exists_acronym_of_capital {s : Splitter} {a b : Char} (hb : isUppercase b = true)
    (ha : isUppercase a = true ∨ s.reading = .nothing ∧ isLowercase a = false) :
    exists start before closed, step (step s a) b = ⟨start, .acronym b before, closed⟩ := by
  have hlower : isLowercase a = false := by
    rcases ha with hupper | ⟨_, hlower⟩
    · exact isLowercase_of_isUppercase hupper
    · exact hlower
  have hupper : s.reading ≠ .nothing -> isUppercase a = true := by
    intro hopen
    rcases ha with hupper | ⟨hnothing, _⟩
    · exact hupper
    · exact absurd hnothing hopen
  -- once the first character is read, it stands alone or belongs to an acronym already
  have hsingle : forall (start : Nat) (closed : List SubWord),
      step ⟨start, .single a, closed⟩ b = ⟨start, .acronym b [a], closed⟩ := by
    intro start closed
    simp [step, hb, hlower]
  have hacronym : forall (start : Nat) (last : Char) (before : List Char) (closed : List SubWord),
      step ⟨start, .acronym last before, closed⟩ b =
        ⟨start, .acronym b (last :: before), closed⟩ := by
    intro start last before closed
    simp [step, isLowercase_of_isUppercase hb]
  rcases s with ⟨start, reading, closed⟩
  cases reading with
  | nothing =>
      exact ⟨_, _, _, hsingle start closed⟩
  | single z =>
      have ha := hupper (fun h => by cases h)
      cases hz : isLowercase z with
      | true =>
          have hstep : step ⟨start, .single z, closed⟩ a =
              ⟨start + 1, .single a, ⟨[z], start⟩ :: closed⟩ := by
            simp [step, close, ha, hz]
          exact ⟨_, _, _, by rw [hstep, hsingle]⟩
      | false =>
          have hstep : step ⟨start, .single z, closed⟩ a = ⟨start, .acronym a [z], closed⟩ := by
            simp [step, ha, hz]
          exact ⟨_, _, _, by rw [hstep, hacronym]⟩
  | plain read =>
      have ha := hupper (fun h => by cases h)
      have hstep : step ⟨start, .plain read, closed⟩ a =
          ⟨start + read.length, .single a, ⟨read.reverse, start⟩ :: closed⟩ := by
        simp [step, close, ha]
      exact ⟨_, _, _, by rw [hstep, hsingle]⟩
  | acronym last before =>
      have hstep : step ⟨start, .acronym last before, closed⟩ a =
          ⟨start, .acronym a (last :: before), closed⟩ := by
        simp [step, hlower]
      exact ⟨_, _, _, by rw [hstep, hacronym]⟩

theorem foldl_step_of_endsInAcronym {read : List Char} (h : EndsInAcronym read) :
    exists start last before closed,
      read.foldl step empty = ⟨start, .acronym last before, closed⟩ := by
  rcases h with ⟨before, a, b, run, hread, hb, ha, hrun⟩
  have hstart : isUppercase a = true ∨
      (before.foldl step empty).reading = .nothing ∧ isLowercase a = false := by
    rcases ha with hupper | ⟨hnil, hlower⟩
    · exact Or.inl hupper
    · rw [hnil]
      exact Or.inr ⟨rfl, hlower⟩
  rcases exists_acronym_of_capital hb hstart with ⟨start, read', closed, hstep⟩
  rcases foldl_acronym start b read' closed hrun with ⟨last, before', _, hfold⟩
  refine ⟨start, last, before', closed, ?_⟩
  rw [hread, List.foldl_append, List.foldl_cons, List.foldl_cons, hstep, hfold]

end Splitter

theorem exists_mem_of_isCaselessStart {token : List Char} {i : Nat} (h : IsCaselessStart token i) :
    exists part, part ∈ (splitToken token).tail ∧ part.offset = i ∧
      part.beginsWithCapital = false := by
  rcases h with ⟨before, x, c, after, htoken, hlength, hacronym, hx, hxlower, hc⟩
  rcases Splitter.foldl_step_of_endsInAcronym hacronym with ⟨start, last, read, closed, hfold⟩
  have hupper := isUppercase_of_isLowercase hc
  have hplace := Splitter.start_add_length before
  rw [hfold, hlength] at hplace
  have hclosed : (before ++ [x, c]).foldl Splitter.step .empty =
      ([x, c].foldl Splitter.step .empty).behind i (⟨(last :: read).reverse, start⟩ :: closed) := by
    rw [List.foldl_append, hfold, <- hplace]
    simp [Splitter.step, Splitter.behind, Splitter.close, Splitter.empty, hxlower, hc, hupper,
      Reading.reversed]
  have htail : (⟨(last :: read).reverse, start⟩ :: closed).reverse ≠ [] :=
    mt List.reverse_eq_nil_iff.mp (List.cons_ne_nil _ _)
  rcases exists_splitToken_cons x (c :: after) with ⟨tail, others, hsplit⟩
  refine ⟨SubWord.shift i ⟨x :: tail, 0⟩, ?_, rfl, hx⟩
  have htoken' : before ++ x :: c :: after = before ++ ([x, c] ++ after) := rfl
  rw [htoken, htoken', Splitter.splitToken_of_closed hclosed after,
    List.tail_append_of_ne_nil htail]
  apply List.mem_append_right
  exact List.mem_map_of_mem (hsplit ▸ List.mem_cons_self)

/-- The sub-words behind the first one that do not begin with a capital are those that an acronym
gives a character without a case to. -/
theorem splitToken_capital_iff (token : List Char) (i : Nat) :
    (exists part, part ∈ (splitToken token).tail ∧ part.offset = i ∧
      part.beginsWithCapital = false) <-> IsCaselessStart token i := by
  constructor
  · intro hexists
    rcases hexists with ⟨part, hpart, hoffset, hcapital⟩
    rw [<- hoffset]
    exact isCaselessStart_of_mem hpart hcapital
  · exact exists_mem_of_isCaselessStart

example : splitToken "CAN't".toList = [⟨"CAN".toList, 0⟩, ⟨"'t".toList, 3⟩] := by
  decide +kernel

end CamelSpell
