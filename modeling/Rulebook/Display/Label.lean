import Rulebook.Display.Tree
import Rulebook.Markup
import Rulebook.Scope
import Rulebook.Trace

/-!
Expressions and scopes as labelled trees.

Where a selection is known for a branch, the arm it took is marked and the arms
it passed over are dimmed, with everything below them; nothing below a dimmed arm
is marked. Labels keep what they stand for, and `Label.markup` is their wording.
-/

namespace Rulebook

/-- One line for an expression, with markup: a leaf as it is shown, a branch by
its form and the number of its rules or cases. -/
def Expr.summary : Expr → String
  | .literal v => Markup.styled "cyan" (Markup.escape v.text)
  | .reference name => Markup.styled "magenta" ("@" ++ Markup.escape name)
  | .ifThenElse _ _ _ => Markup.styled "bold" "if"
  | .ruleChain rules _ =>
    Markup.styled "bold" "rules" ++ " " ++ Markup.styled "dim" s!"({rules.length})"
  | .finiteBranch _ cases _ =>
    Markup.styled "bold" "branch on" ++ " " ++ Markup.styled "dim" s!"({cases.length} cases)"

namespace Display

/-! ### Labels -/

/-- How an arm stands to the selection of its branch. -/
inductive Mark where
  | plain
  | taken
  | dimmed
deriving DecidableEq

/-- A group of parts of a branch: what decides, or an arm that leads to a
result. -/
inductive Group where
  | condition
  | subject
  | arm (arm : Arm)
deriving DecidableEq

/-- The name of a group. -/
def Group.name : Group → String
  | .condition => "if"
  | .subject => "branchOn"
  | .arm taken => taken.label

/-- What stands at a node of a tree. -/
inductive Label where
  | title (text : String)
  | heading (text : String) (count : Nat)
  | part (name : String) (expr : Expr) (dimmed : Bool)
  | group (group : Group) (mark : Mark)
  | input (name : String) (kind : Kind)
  | output (name : String)

/-- The wording of a label, with markup. -/
def Label.markup : Label → String
  | .title text => Markup.styled "bold" (Markup.escape text)
  | .heading text count =>
    Markup.styled "bold cyan" text ++ " " ++ Markup.styled "dim" s!"({count})"
  | .part name expr dimmed =>
    let named := if name.isEmpty then expr.summary else Markup.escape name ++ ": " ++ expr.summary
    if dimmed then Markup.styled "dim" named else named
  | .group g .plain => Markup.escape g.name
  | .group g .taken => Markup.styled "bold green" ("✓ " ++ Markup.escape g.name)
  | .group g .dimmed => Markup.styled "dim" (Markup.escape g.name)
  | .input name kind => Markup.escape name ++ ": " ++ Markup.styled "yellow" kind.word
  | .output name => Markup.escape name

/-! ### Expressions -/

/-- The mark of a group that decides. -/
def decidingMark (dimmed : Bool) : Mark := if dimmed then .dimmed else .plain

/-- The mark of an arm of a branch with the given selection. -/
def armMark (dimmed : Bool) (selection : Option Arm) (arm : Arm) : Mark :=
  if dimmed then .dimmed
  else
    match selection with
    | none => .plain
    | some taken => if taken = arm then .taken else .dimmed

/-- A group and the trees of its parts, which are dimmed if it is. -/
def groupTree (group : Group) (mark : Mark) (parts : Bool → List (Tree Label)) : Tree Label :=
  .node (.group group mark) (parts (mark = .dimmed))

/-- The selections of branches in one tree, by path. -/
abbrev Selections := Path → Option Arm

/-- The selections below a step. -/
def Selections.below (selections : Selections) (step : Step) : Selections :=
  fun path => selections (step :: path)

mutual

/-- The tree of an expression under a name. -/
def exprTree (selections : Selections) (name : String) (dimmed : Bool) : Expr → Tree Label
  | .literal v => .node (.part name (.literal v) dimmed) []
  | .reference other => .node (.part name (.reference other) dimmed) []
  | .ifThenElse c t e =>
    .node (.part name (.ifThenElse c t e) dimmed)
      [groupTree .condition (decidingMark dimmed)
          (fun dim => [exprTree (selections.below .condition) "" dim c]),
        groupTree (.arm .thenArm) (armMark dimmed (selections []) .thenArm)
          (fun dim => [exprTree (selections.below .thenArm) "" dim t]),
        groupTree (.arm .elseArm) (armMark dimmed (selections []) .elseArm)
          (fun dim => [exprTree (selections.below .elseArm) "" dim e])]
  | .ruleChain rules o =>
    .node (.part name (.ruleChain rules o) dimmed)
      (ruleTrees selections dimmed 0 rules ++ fallbackTrees selections dimmed o)
  | .finiteBranch s cases o =>
    .node (.part name (.finiteBranch s cases o) dimmed)
      (groupTree .subject (decidingMark dimmed)
          (fun dim => [exprTree (selections.below .subject) "" dim s])
        :: (caseTrees selections dimmed 0 cases ++ fallbackTrees selections dimmed o))

/-- The trees of rules from `index` on. -/
def ruleTrees (selections : Selections) (dimmed : Bool) :
    (index : Nat) → List (Expr × Expr) → List (Tree Label)
  | _, [] => []
  | index, (condition, result) :: rest =>
    groupTree (.arm (.rule index)) (armMark dimmed (selections []) (.rule index))
        (fun dim =>
          [exprTree (selections.below (.ruleCondition index)) "when" dim condition,
            exprTree (selections.below (.ruleResult index)) "then" dim result])
      :: ruleTrees selections dimmed (index + 1) rest

/-- The trees of cases from `index` on. -/
def caseTrees (selections : Selections) (dimmed : Bool) :
    (index : Nat) → List (Expr × Expr) → List (Tree Label)
  | _, [] => []
  | index, (key, result) :: rest =>
    groupTree (.arm (.case index)) (armMark dimmed (selections []) (.case index))
        (fun dim =>
          [exprTree (selections.below (.caseKey index)) "key" dim key,
            exprTree (selections.below (.caseResult index)) "value" dim result])
      :: caseTrees selections dimmed (index + 1) rest

/-- The tree of a fallback, if there is one. -/
def fallbackTrees (selections : Selections) (dimmed : Bool) : Option Expr → List (Tree Label)
  | none => []
  | some e =>
    [groupTree (.arm .otherwise) (armMark dimmed (selections []) .otherwise)
      (fun dim => [exprTree (selections.below .otherwise) "" dim e])]

end

/-- The tree of an expression under a title. -/
def titledTree (title : String) (selections : Selections) (e : Expr) : Tree Label :=
  .node (.title title) [exprTree selections "" false e]

/-! ### Scopes -/

/-- The tree of a scope: its inputs, its calculations with the selections in each
one, and its outputs. -/
def scopeTree (selections : (calculation : String) → Selections) (scope : Scope) : Tree Label :=
  .node (.title "Scope")
    [.node (.heading "Inputs" scope.inputs.length)
        (scope.inputs.map fun (name, kind) => .node (.input name kind) []),
      .node (.heading "Calculations" scope.calculations.length)
        (scope.calculations.map fun (name, e) => exprTree (selections name) name false e),
      .node (.heading "Outputs" scope.outputs.length)
        (scope.outputs.map fun name => .node (.output name) [])]

/-- The selections of a tree in a trace. -/
def selectionsIn {ω : Type} [DecidableEq ω] (trace : Trace ω) (origin : ω) : Selections :=
  fun path => trace.selection? ⟨origin, path⟩

/-- No selection at all. -/
def noSelections : Selections := fun _ => none

end Display

end Rulebook
