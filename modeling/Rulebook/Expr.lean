import Rulebook.Literal
import Rulebook.Members

/-!
Expressions and the places inside them.

An expression is a literal, a reference to a name, or a branch: a conditional, a
chain of rules, or a dispatch on a value. Every direct part of a branch has a
`Step`, in declaration order, and a `Path` of steps names a place in a tree.
Equality is structural, with literals compared by value.
-/

namespace Rulebook

/-- An expression. The pairs of a rule chain are a condition and a result, those
of a finite branch a key and a result. -/
inductive Expr where
  | literal (value : Literal)
  | reference (name : String)
  | ifThenElse (condition thenArm elseArm : Expr)
  | ruleChain (rules : List (Expr × Expr)) (otherwise : Option Expr)
  | finiteBranch (subject : Expr) (cases : List (Expr × Expr)) (otherwise : Option Expr)

/-- What an expression is bound to, by name. -/
abbrev Context := List (String × Expr)

/-- A direct part of a branch. -/
inductive Step where
  | condition
  | thenArm
  | elseArm
  | ruleCondition (index : Nat)
  | ruleResult (index : Nat)
  | subject
  | caseKey (index : Nat)
  | caseResult (index : Nat)
  | otherwise
deriving DecidableEq

/-- A place in a tree: the steps that lead to it from the root. -/
abbrev Path := List Step

namespace Expr

/-! ### Parts -/

/-- Not a leaf. -/
def isBranch : Expr → Bool
  | .literal _ | .reference _ => false
  | _ => true

/-- The parts of pairs, numbered from `index`, each pair under two steps. -/
def pairParts (first second : Nat → Step) : (index : Nat) → List (Expr × Expr) →
    List (Step × Expr)
  | _, [] => []
  | index, (a, b) :: rest =>
    (first index, a) :: (second index, b) :: pairParts first second (index + 1) rest

/-- The part of a fallback, if there is one. -/
def fallbackPart : Option Expr → List (Step × Expr)
  | some e => [(.otherwise, e)]
  | none => []

/-- The direct parts, in declaration order. -/
def parts : Expr → List (Step × Expr)
  | .literal _ | .reference _ => []
  | .ifThenElse c t e => [(.condition, c), (.thenArm, t), (.elseArm, e)]
  | .ruleChain rules o => pairParts .ruleCondition .ruleResult 0 rules ++ fallbackPart o
  | .finiteBranch s cases o =>
    (.subject, s) :: (pairParts .caseKey .caseResult 0 cases ++ fallbackPart o)

/-- The direct part under a step. -/
def part? (e : Expr) (step : Step) : Option Expr :=
  (e.parts.find? (·.1 == step)).map (·.2)

/-- The expression at a place. -/
def at? (e : Expr) : Path → Option Expr
  | [] => some e
  | step :: path => (e.part? step).bind (·.at? path)

/-! ### Equality -/

mutual

/-- Structural equality, literals by kind and value. -/
def same : Expr → Expr → Bool
  | .literal v, .literal w => v.same w
  | .reference n, .reference m => n == m
  | .ifThenElse c t e, .ifThenElse c' t' e' => c.same c' && t.same t' && e.same e'
  | .ruleChain rules o, .ruleChain rules' o' => samePairs rules rules' && sameFallback o o'
  | .finiteBranch s cases o, .finiteBranch s' cases' o' =>
    s.same s' && samePairs cases cases' && sameFallback o o'
  | _, _ => false

/-- Equality of pairs, in order. -/
def samePairs : List (Expr × Expr) → List (Expr × Expr) → Bool
  | [], [] => true
  | (a, b) :: rest, (a', b') :: rest' => a.same a' && b.same b' && samePairs rest rest'
  | _, _ => false

/-- Equality of fallbacks, given or not. -/
def sameFallback : Option Expr → Option Expr → Bool
  | none, none => true
  | some e, some e' => e.same e'
  | _, _ => false

end

/-- Whether two leaves match as a value and a key: literals by kind and value,
references by name. A branch matches nothing. -/
def matchesLeaf : Expr → Expr → Bool
  | .literal v, .literal w => v.same w
  | .reference n, .reference m => n == m
  | _, _ => false

/-- For each expression, the place of the first one equal to it. -/
def firstEqual (es : List Expr) : List Nat :=
  es.map fun e => es.findIdx (·.same e)

/-- How many different expressions are listed. -/
def distinctCount (es : List Expr) : Nat :=
  (firstEqual es).eraseDups.length

/-! ### Height and names -/

mutual

/-- Levels below the root: none under a leaf, one more than the highest part of
a branch. -/
def height : Expr → Nat
  | .literal _ | .reference _ => 0
  | .ifThenElse c t e => 1 + max c.height (max t.height e.height)
  | .ruleChain rules o => 1 + max (pairsHeight rules) (fallbackHeight o)
  | .finiteBranch s cases o => 1 + max s.height (max (pairsHeight cases) (fallbackHeight o))

/-- The greatest height in a list of pairs. -/
def pairsHeight : List (Expr × Expr) → Nat
  | [] => 0
  | (a, b) :: rest => max a.height (max b.height (pairsHeight rest))

/-- The height of a fallback. -/
def fallbackHeight : Option Expr → Nat
  | none => 0
  | some e => e.height

end

mutual

/-- Every name referred to, once per occurrence, in order. -/
def references : Expr → List String
  | .literal _ => []
  | .reference name => [name]
  | .ifThenElse c t e => c.references ++ (t.references ++ e.references)
  | .ruleChain rules o => pairsReferences rules ++ fallbackReferences o
  | .finiteBranch s cases o => s.references ++ (pairsReferences cases ++ fallbackReferences o)

/-- The names referred to in pairs. -/
def pairsReferences : List (Expr × Expr) → List String
  | [] => []
  | (a, b) :: rest => a.references ++ (b.references ++ pairsReferences rest)

/-- The names referred to in a fallback. -/
def fallbackReferences : Option Expr → List String
  | none => []
  | some e => e.references

end

/-! ### What is shown on one line -/

/-- The text of a leaf: a literal as it is shown, a reference by its name. -/
def leafText? : Expr → Option String
  | .literal v => some v.text
  | .reference name => some name
  | _ => none

end Expr

end Rulebook
