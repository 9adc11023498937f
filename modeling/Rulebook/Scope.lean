import Rulebook.Expr

/-!
Scopes: typed inputs, ordered calculations, and the names to publish.

Inputs and calculations have unique names, each among their own; a calculation
may reuse the name of an input. Outputs are a set, kept sorted.
-/

namespace Rulebook

/-- A scope. -/
structure Scope where
  inputs : List (String × Kind)
  calculations : List (String × Expr)
  outputs : List String
  nodup_inputs : (Members.names inputs).Nodup
  nodup_calculations : (Members.names calculations).Nodup
  pairwise_outputs : outputs.Pairwise (· < ·)

/-- Names given more than once, either to inputs or to calculations. -/
inductive DuplicateNames where
  | inputs (names : List String)
  | calculations (names : List String)
deriving DecidableEq

/-- The wording of the refusal of repeated names. -/
def DuplicateNames.message : DuplicateNames → String
  | .inputs names => "Duplicate input name(s): " ++ ", ".intercalate names
  | .calculations names => "Duplicate calculation name(s): " ++ ", ".intercalate names

namespace Scope

/-- The scope without inputs, calculations and outputs. -/
def empty : Scope := ⟨[], [], [], List.nodup_nil, List.nodup_nil, List.Pairwise.nil⟩

instance : Inhabited Scope := ⟨empty⟩

/-- The scope of listed inputs, calculations and outputs, unless a name is
repeated. -/
def build (inputs : List (String × Kind)) (calculations : List (String × Expr))
    (outputs : List String) : Except DuplicateNames Scope :=
  if hi : (Members.names inputs).Nodup then
    if hc : (Members.names calculations).Nodup then
      .ok ⟨inputs, calculations, sortedNames outputs, hi, hc, pairwise_sortedNames outputs⟩
    else .error (.calculations (Members.repeated calculations))
  else .error (.inputs (Members.repeated inputs))

/-- The declared kind of an input. -/
def input? (scope : Scope) (name : String) : Option Kind :=
  Members.get? scope.inputs name

/-- The expression of a calculation. -/
def calculation? (scope : Scope) (name : String) : Option Expr :=
  Members.get? scope.calculations name

/-- All names referred to by calculations, sorted. -/
def references (scope : Scope) : List String :=
  sortedNames (scope.calculations.flatMap (·.2.references))

/-- Equality of calculations, in order. -/
def sameCalculations : List (String × Expr) → List (String × Expr) → Bool
  | [], [] => true
  | (n, e) :: rest, (m, f) :: rest' => n == m && e.same f && sameCalculations rest rest'
  | _, _ => false

/-- Equality: the same inputs and calculations in order, and the same outputs. -/
def same (s t : Scope) : Bool :=
  s.inputs == t.inputs && sameCalculations s.calculations t.calculations
    && s.outputs == t.outputs

end Scope

end Rulebook
