import CamelSpell.Proofs.Config.Validation
import CamelSpell.Proofs.MistakenFile

/-!
# Words of one character

Sub-words of one character come out of the splitter all the time.  They are exempt from being looked
up by their length alone, so that settings which accept any length take the exemption away.
-/

namespace CamelSpell

open Unicode

namespace Config

variable {source : Path} {value : Value} {c : Config}

/-- With settings that have been read, a word of one character is reported only if they set the
least length to one, and then for every sub-word of one character that is not accepted. -/
theorem checkText_oneCharacter_iff (hread : (ofValue source value).result = .ok c)
    {d : Dictionary} (hd : d.Built) (text : List Char) :
    (exists m, m ∈ checkText ⟨d, c.minLength⟩ text ∧ m.word.length = 1) <->
      c.minLength = 1 ∧ exists a, d.IsSubWord text [a] ∧ d.has (lower [a]) = false := by
  have hleast : 1 ≤ c.minLength := one_le_minLength hread
  have hreported : forall a : Char,
      (exists m, m ∈ checkText ⟨d, c.minLength⟩ text ∧ m.word = [a]) <->
        d.IsSubWord text [a] ∧ c.minLength ≤ 1 ∧ d.has (lower [a]) = false :=
    fun a => exists_word_checkText_iff (r := ⟨d, c.minLength⟩) hd.isWordCharacter_newline
  constructor
  · rintro ⟨m, hm, hlength⟩
    rcases List.length_eq_one_iff.mp hlength with ⟨a, ha⟩
    rcases (hreported a).mp ⟨m, hm, ha⟩ with ⟨hsubWord, hshort, hhas⟩
    exact ⟨Nat.le_antisymm hshort hleast, a, hsubWord, hhas⟩
  · rintro ⟨hone, a, hsubWord, hhas⟩
    rcases (hreported a).mpr ⟨hsubWord, hone.le, hhas⟩ with ⟨m, hm, ha⟩
    exact ⟨m, hm, by rw [ha]; rfl⟩

def withLength (k : Nat) : Value :=
  .table [("min-word-length", .number (Number.ofNat k))]

theorem checkText_oneCharacter_iff_configured :
    (exists m, m ∈ checkText ⟨Dictionary.ofEntries ["big".toList], 1⟩ "xBig".toList ∧
      m.word.length = 1) ∧
    ¬ exists m, m ∈ checkText ⟨Dictionary.ofEntries ["big".toList], 2⟩ "xBig".toList ∧
      m.word.length = 1 := by
  have hone : (ofValue [] (withLength 1)).result = .ok ⟨[], [], 1⟩ := rfl
  have htwo : (ofValue [] (withLength 2)).result = .ok ⟨[], [], 2⟩ := rfl
  have hbuilt := Dictionary.Built.ofEntries ["big".toList]
  have hx : ("xBig".toList ∈ "xBig".toList.splitOn '\n' ∧
      (0, "xBig".toList) ∈
        maximalRuns (Dictionary.ofEntries ["big".toList]).isWordCharacter "xBig".toList ∧
      ⟨['x'], 0⟩ ∈ splitToken "xBig".toList) ∧
      (Dictionary.ofEntries ["big".toList]).has (lower ['x']) = false := by
    decide +kernel
  rcases hx with ⟨⟨hline, hrun, hpart⟩, hhas⟩
  constructor
  · rw [checkText_oneCharacter_iff hone hbuilt]
    exact ⟨rfl, 'x', ⟨_, _, _, _, hline, hrun, hpart, rfl⟩, hhas⟩
  · rw [checkText_oneCharacter_iff htwo hbuilt]
    exact fun h => absurd h.1 (by decide)

theorem checkText_oneCharacter_reported :
    ¬ forall (source : Path) (value : Value) (c : Config) (d : Dictionary) (text : List Char),
      (ofValue source value).result = .ok c -> d.Built ->
        forall m, m ∈ checkText ⟨d, c.minLength⟩ text -> m.word.length ≠ 1 := by
  intro h
  have hread : (ofValue [] (withLength 1)).result = .ok ⟨[], [], 1⟩ := rfl
  have hfound : ⟨['x'], 1, 1⟩ ∈
      checkText ⟨Dictionary.ofEntries ["big".toList], 1⟩ "xBig".toList := by
    decide +kernel
  exact h [] _ _ _ _ hread (.ofEntries _) _ hfound rfl

end Config
end CamelSpell
