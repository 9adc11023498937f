import Rulebook.Machine

/-!
The document form of an expression.

A literal is a bare string, number or truth value; a reference is an object with
the member `ref`; a branch is an object of type `branch` whose value holds the
parts of one of the three forms. Integral numbers up to `2^53` are written as
integers, which makes the form of a number unique.
-/

namespace Rulebook

/-- The greatest magnitude up to which every integer is a number of its own. -/
def maxExactInt : Nat := Nat.pow 2 53

/-- The document form of a literal. -/
def Literal.encode : Literal → Data
  | .string s => .string s
  | .bool b => .bool b
  | .number x =>
    match x.toInt? with
    | some n => if n.natAbs ≤ maxExactInt then .int n else .float x
    | none => .float x

namespace Expr

/-- The document form of a branch around its value. -/
def branchData (value : List (String × Data)) : Data :=
  .object [("type", .string "branch"), ("value", .object value)]

mutual

/-- The document form of an expression. -/
def encode : Expr → Data
  | .literal v => v.encode
  | .reference name => .object [("ref", .string name)]
  | .ifThenElse c t e =>
    branchData [("if", c.encode), ("then", t.encode), ("else", e.encode)]
  | .ruleChain rules o =>
    branchData (("rules", .array (encodeRules rules)) :: encodeFallback o)
  | .finiteBranch s cases o =>
    branchData (("branchOn", s.encode) :: ("when", .array (encodeCases cases)) ::
      encodeFallback o)

/-- Rules as objects of a condition and a result. -/
def encodeRules : List (Expr × Expr) → List Data
  | [] => []
  | (condition, result) :: rest =>
    .object [("when", condition.encode), ("then", result.encode)] :: encodeRules rest

/-- Cases as arrays of a key and a result. -/
def encodeCases : List (Expr × Expr) → List Data
  | [] => []
  | (key, result) :: rest => .array [key.encode, result.encode] :: encodeCases rest

/-- A fallback as a member, if there is one. -/
def encodeFallback : Option Expr → List (String × Data)
  | none => []
  | some e => [("otherwise", e.encode)]

end

/-- The document form of an expression, if the stack reaches its leaves. -/
def encode? (machine : Machine) (e : Expr) : Option Data :=
  if machine.encodes e.encode then some e.encode else none

/-- Write an expression as JSON text under an indentation. -/
def toJson (machine : Machine) (indent : Option Int) (e : Expr) : Except WriteFault String :=
  machine.writeDocument indent (e.encode? machine)

end Expr

end Rulebook
