import CamelSpell.Glob.Pattern
import CamelSpell.Path

/-!
# Exclusion rules

Each rule is a pattern.  An entry is excluded if a rule matches its full path or its name alone.
Rules that are no patterns are set aside with the reason and exclude nothing.
-/

namespace CamelSpell

abbrev Exclusion := Path -> Bool

structure RejectedRule where
  rule : String
  error : Glob.PatternError
deriving DecidableEq, Repr

structure ExclusionRules where
  accepted : List Glob.Pattern
  rejected : List RejectedRule

namespace ExclusionRules

def readRule (rule : String) : Except RejectedRule Glob.Pattern :=
  (Glob.Pattern.read rule).mapError fun e => ⟨rule, e⟩

def read (rules : List String) : ExclusionRules :=
  let outcomes := rules.map readRule
  { accepted := outcomes.filterMap fun
      | .ok p => some p
      | .error _ => none
    rejected := outcomes.filterMap fun
      | .ok _ => none
      | .error r => some r }

def excludes (rules : ExclusionRules) : Exclusion := fun p =>
  let path := Unicode.units p
  let name := Unicode.units (Path.baseName p)
  rules.accepted.any fun pattern => pattern.accepts path || pattern.accepts name

end ExclusionRules
end CamelSpell
