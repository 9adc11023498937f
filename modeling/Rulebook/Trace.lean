import Rulebook.Expr

/-!
Traces: which arm each branch took.

A branch is identified by the tree it stands in and its path there, so equal
copies in different places are told apart. A trace is the list of decisions in
the order they were made; the latest one for a branch is its selection.

`Expr.selections` lists the selections of all branches of one tree in the order
of their first mention, parents before parts, and `Expr.branchNumber?` gives the
place of a branch in that list.
-/

namespace Rulebook

/-- An arm of a branch that leads to a result. -/
inductive Arm where
  | thenArm
  | elseArm
  | rule (index : Nat)
  | case (index : Nat)
  | otherwise
deriving DecidableEq

/-- The label of an arm. -/
def Arm.label : Arm → String
  | .thenArm => "then"
  | .elseArm => "else"
  | .rule index => s!"rules[{index}]"
  | .case index => s!"cases[{index}]"
  | .otherwise => "otherwise"

/-- The step from a branch to the result of one of its arms. -/
def Arm.step : Arm → Step
  | .thenArm => .thenArm
  | .elseArm => .elseArm
  | .rule index => .ruleResult index
  | .case index => .caseResult index
  | .otherwise => .otherwise

/-- A place in one of several trees, told apart by `ω`. -/
structure Site (ω : Type) where
  origin : ω
  path : Path
deriving DecidableEq

/-- The site of a direct part. -/
def Site.child {ω : Type} (site : Site ω) (step : Step) : Site ω :=
  { site with path := site.path ++ [step] }

/-- The arm that a branch took once. -/
structure Decision (ω : Type) where
  site : Site ω
  arm : Arm
deriving DecidableEq

/-- Decisions in the order they were made. -/
abbrev Trace (ω : Type) := List (Decision ω)

namespace Trace

variable {ω : Type}

/-- The arm most recently taken at a site. -/
def selection? [DecidableEq ω] (trace : Trace ω) (site : Site ω) : Option Arm :=
  (trace.reverse.find? (fun d => decide (d.site = site))).map (·.arm)

/-- The same decisions in trees known by other names; those in trees that have
no name are left out. -/
def relabel {ω' : Type} (rename : ω → Option ω') (trace : Trace ω) : Trace ω' :=
  trace.filterMap fun d =>
    (rename d.site.origin).map fun origin => ⟨⟨origin, d.site.path⟩, d.arm⟩

/-- The decisions in one tree, by path. -/
def within [DecidableEq ω] (trace : Trace ω) (origin : ω) : List (Path × Arm) :=
  trace.filterMap fun d =>
    if d.site.origin = origin then some (d.site.path, d.arm) else none

end Trace

/-! ### One tree -/

/-- The latest decision at the root. -/
def latestHere (decisions : List (Path × Arm)) : Option Arm :=
  (decisions.reverse.find? (·.1.isEmpty)).map (·.2)

/-- The decisions below a step, by path from there. -/
def decisionsBelow (step : Step) (decisions : List (Path × Arm)) : List (Path × Arm) :=
  decisions.filterMap fun (path, arm) =>
    match path with
    | first :: rest => if first = step then some (rest, arm) else none
    | [] => none

namespace Expr

mutual

/-- The selection of every branch, a branch before its parts. -/
def selections (decisions : List (Path × Arm)) : Expr → List (Option Arm)
  | .literal _ | .reference _ => []
  | .ifThenElse c t e =>
    latestHere decisions ::
      (selections (decisionsBelow .condition decisions) c
        ++ (selections (decisionsBelow .thenArm decisions) t
          ++ selections (decisionsBelow .elseArm decisions) e))
  | .ruleChain rules o =>
    latestHere decisions ::
      (pairSelections .ruleCondition .ruleResult decisions 0 rules
        ++ fallbackSelections decisions o)
  | .finiteBranch s cases o =>
    latestHere decisions ::
      (selections (decisionsBelow .subject decisions) s
        ++ (pairSelections .caseKey .caseResult decisions 0 cases
          ++ fallbackSelections decisions o))

/-- The selections in pairs numbered from `index`. -/
def pairSelections (first second : Nat → Step) (decisions : List (Path × Arm)) :
    (index : Nat) → List (Expr × Expr) → List (Option Arm)
  | _, [] => []
  | index, (a, b) :: rest =>
    selections (decisionsBelow (first index) decisions) a
      ++ (selections (decisionsBelow (second index) decisions) b
        ++ pairSelections first second decisions (index + 1) rest)

/-- The selections in a fallback. -/
def fallbackSelections (decisions : List (Path × Arm)) : Option Expr → List (Option Arm)
  | none => []
  | some e => selections (decisionsBelow .otherwise decisions) e

end

/-- How many branches a tree has. -/
def branchCount (e : Expr) : Nat := (e.selections []).length

/-- Walk over parts up to the one under `step`, counting the branches passed. -/
def partNumber? (step : Step) : (passed : Nat) → List (Step × Expr) → Option (Nat × Expr)
  | _, [] => none
  | passed, (s, e) :: rest =>
    if s = step then some (passed, e) else partNumber? step (passed + e.branchCount) rest

/-- The place of the branch at a path in the list of all branches of a tree. -/
def branchNumber? (e : Expr) : Path → Option Nat
  | [] => if e.isBranch then some 0 else none
  | step :: path => do
    let (passed, sub) ← partNumber? step 1 e.parts
    let below ← sub.branchNumber? path
    pure (passed + below)

end Expr

/-! ### Several trees -/

/-- A trace over listed trees: decisions by branch number, and the selection of
every branch. Branches are numbered through all trees in order. -/
structure TraceRecord where
  decisions : List (Nat × Arm)
  selections : List (Option Arm)
deriving DecidableEq

namespace TraceRecord

variable {ω : Type} [DecidableEq ω]

/-- The number of the branch at a site, `base` branches having been passed. -/
def branchNumber? (site : Site ω) : (base : Nat) → List (ω × Expr) → Option Nat
  | _, [] => none
  | base, (origin, e) :: rest =>
    if origin = site.origin then (e.branchNumber? site.path).map (base + ·)
    else branchNumber? site (base + e.branchCount) rest

/-- The record of a trace over listed trees. -/
def of (trees : List (ω × Expr)) (trace : Trace ω) : TraceRecord where
  decisions := trace.filterMap fun d =>
    (branchNumber? d.site 0 trees).map fun number => (number, d.arm)
  selections := trees.flatMap fun (origin, e) => e.selections (trace.within origin)

end TraceRecord

end Rulebook
