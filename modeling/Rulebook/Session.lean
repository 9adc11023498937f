import Rulebook.Display.Label
import Rulebook.Scope.Evaluation

/-!
A session: a context, a scope and a trace that outlive single evaluations.

Every expression the session is given becomes a tree with a number of its own, so
the decisions of all evaluations go into one trace. A name keeps the number of the
tree bound to it until it is bound again; a literal that was not given as an
expression needs no number, since it has no branches.
-/

namespace Rulebook

/-- What a name is bound to, and the number of its tree if it has one. -/
structure Binding where
  expr : Expr
  tree : Option Nat

/-- A session. The trees are numbered by their places in the list. -/
structure Session where
  trees : List Expr
  bindings : List (String × Binding)
  scope : Scope
  calculationTrees : List (String × Nat)
  trace : Trace Nat

namespace Session

/-- The session that was given nothing yet. -/
def empty : Session := ⟨[], [], Scope.empty, [], []⟩

/-- The context of a session. -/
def context (session : Session) : Context :=
  session.bindings.map fun (name, bound) => (name, bound.expr)

/-- The number of the tree bound to a name. -/
def boundTree? (session : Session) (name : String) : Option Nat :=
  (Members.get? session.bindings name).bind (·.tree)

/-! ### Bindings -/

/-- Bind a name to an expression, which becomes a tree. -/
def bind (session : Session) (name : String) (e : Expr) : Session :=
  { session with
    trees := session.trees ++ [e]
    bindings := Members.put session.bindings name ⟨e, some session.trees.length⟩ }

/-- Bind a name to a literal. -/
def bindLiteral (session : Session) (name : String) (value : Literal) : Session :=
  { session with bindings := Members.put session.bindings name ⟨.literal value, none⟩ }

/-- Bind names to expressions, one after another. -/
def bindAll (session : Session) (named : Context) : Session :=
  named.foldl (fun session (name, e) => session.bind name e) session

/-- Bind names to leaves that need no number, one after another. -/
def bindLeaves (session : Session) (named : Context) : Session :=
  { session with
    bindings := named.foldl (fun bindings (name, e) => Members.put bindings name ⟨e, none⟩)
      session.bindings }

/-- Whether a name is bound. -/
def binds (session : Session) (name : String) : Bool :=
  Members.has session.bindings name

/-- Take back the binding of a name. -/
def unbind (session : Session) (name : String) : Session :=
  { session with bindings := Members.erase session.bindings name }

/-! ### The scope -/

/-- Names numbered one after another from `next` on. -/
def numbered {α : Type} : (next : Nat) → List (String × α) → List (String × Nat)
  | _, [] => []
  | next, (name, _) :: rest => (name, next) :: numbered (next + 1) rest

/-- Take a scope in place of the one before; its calculations become trees. -/
def withScope (session : Session) (scope : Scope) : Session :=
  { session with
    trees := session.trees ++ scope.calculations.map (·.2)
    scope := scope
    calculationTrees := numbered session.trees.length scope.calculations }

/-- The number of the tree that an evaluation of the scope met. -/
def scopeTree? (session : Session) : ScopeOrigin → Option Nat
  | .calculation name => Members.get? session.calculationTrees name
  | .binding name => session.boundTree? name

/-! ### Evaluation -/

/-- Note decisions in trees known by other names. -/
def note {ω : Type} (session : Session) (tree? : ω → Option Nat) (decisions : Trace ω) : Session :=
  { session with trace := session.trace ++ decisions.relabel tree? }

/-- Evaluate an expression, which becomes a tree. -/
def evaluate (session : Session) (maxDepth : Int) (e : Expr) : Session × Except EvalError Literal :=
  let run := Rulebook.evaluate session.context maxDepth e
  let tree? : Origin → Option Nat
    | .subject => some session.trees.length
    | .binding name => session.boundTree? name
  ({ session with trees := session.trees ++ [e] }.note tree? run.decisions, run.outcome)

/-- Evaluate the scope. -/
def run (session : Session) (maxDepth : Int) :
    Session × Except ScopeError (List (String × Expr)) :=
  let run := session.scope.evaluate session.context maxDepth
  (session.note session.scopeTree? run.decisions, run.outcome)

/-- Bind the results of the scope. A result that no calculation made is bound
already and stays as it is. -/
def keep (session : Session) (results : List (String × Expr)) : Session :=
  session.bindLeaves
    (results.filter fun result => Members.has session.scope.calculations result.1)

/-! ### The trace -/

/-- The trace over all trees of the session. -/
def traceRecord (session : Session) : TraceRecord :=
  TraceRecord.of (session.trees.zipIdx.map fun (e, number) => (number, e)) session.trace

/-- Begin a new trace. -/
def forget (session : Session) : Session := { session with trace := [] }

/-- The tree of the scope with the selections made so far. -/
def scopeTree (session : Session) : Display.Tree Display.Label :=
  Display.scopeTree
    (fun name => match Members.get? session.calculationTrees name with
      | some number => Display.selectionsIn session.trace number
      | none => Display.noSelections)
    session.scope

end Session

end Rulebook
