import Rulebook.DecodeError
import Rulebook.Evaluation
import Rulebook.Machine

/-!
Reading expressions from documents.

A value is read as the first of literal, reference and branch that it has the
shape of, and a branch as the first of its forms whose leading field it has. The
first fault met is reported, with its place. Documents may not nest deeper than
an evaluation may by default, nor deeper than the stack reaches.
-/

namespace Rulebook

/-- A reading that reports a fault at a place. -/
def faultAt {α : Type} (fault : DecodeFault) (path : DataPath) : Except DecodeError α :=
  .error ⟨fault, path⟩

/-- A member that must be there. -/
def requiredField (members : List (String × Data)) (name : String) (path : DataPath) :
    Except DecodeError Data :=
  match Members.get? members name with
  | some value => .ok value
  | none => faultAt (.missingField name) path

/-- The literal of a finite number. -/
def finiteLiteral (x : Number) (path : DataPath) : Except DecodeError Literal :=
  if x.isFinite then .ok (.number x) else faultAt (.numberNotFinite x) path

/-- The literal of an integer in range. -/
def integerLiteral (n : Int) (path : DataPath) : Except DecodeError Literal :=
  (Literal.ofInt? n).elim (faultAt .numberOutOfRange path) .ok

namespace Expr

/-- How the parts of a branch are read: the place of a value and the value. -/
abbrev Reader := DataPath → Data → Except DecodeError Expr

/-- A member that must be there, read as an expression. -/
def readField (read : Reader) (members : List (String × Data)) (name : String)
    (path : DataPath) : Except DecodeError Expr := do
  let value ← requiredField members name path
  read (path ++ [.key name]) value

/-- The fallback, if there is one. -/
def readFallback (read : Reader) (members : List (String × Data)) (path : DataPath) :
    Except DecodeError (Option Expr) :=
  match Members.get? members "otherwise" with
  | some value => some <$> read (path ++ [.key "otherwise"]) value
  | none => .ok none

/-- A rule: a condition and a result. -/
def readRule (read : Reader) (path : DataPath) : Data → Except DecodeError (Expr × Expr)
  | .object members => do
    let condition ← readField read members "when" path
    let result ← readField read members "then" path
    pure (condition, result)
  | _ => faultAt .ruleNotObject path

/-- A case: a key and a result. -/
def readCase (read : Reader) (path : DataPath) : Data → Except DecodeError (Expr × Expr)
  | .array [key, value] => do
    let key ← read (path ++ [.index 0]) key
    let value ← read (path ++ [.index 1]) value
    pure (key, value)
  | _ => faultAt .caseNotPair path

/-- Items numbered from `index`, each at its place. -/
def readItems {α : Type} (read : DataPath → Data → Except DecodeError α) (path : DataPath) :
    (index : Nat) → List Data → Except DecodeError (List α)
  | _, [] => .ok []
  | index, item :: rest => do
    let first ← read (path ++ [.index index]) item
    let others ← readItems read path (index + 1) rest
    pure (first :: others)

/-- A conditional. -/
def readIfThenElse (read : Reader) (members : List (String × Data)) (path : DataPath) :
    Except DecodeError Expr := do
  let condition ← readField read members "if" path
  let thenArm ← readField read members "then" path
  let elseArm ← readField read members "else" path
  pure (.ifThenElse condition thenArm elseArm)

/-- A chain of the given rules. -/
def readRuleChain (read : Reader) (members : List (String × Data)) (path : DataPath) :
    Data → Except DecodeError Expr
  | .array items => do
    let rules ← readItems (readRule read) (path ++ [.key "rules"]) 0 items
    let otherwise ← readFallback read members path
    pure (.ruleChain rules otherwise)
  | _ => faultAt .rulesNotList (path ++ [.key "rules"])

/-- A dispatch on the given subject. -/
def readFiniteBranch (read : Reader) (members : List (String × Data)) (path : DataPath)
    (subject : Data) : Except DecodeError Expr := do
  match ← requiredField members "when" path with
  | .array items =>
    let subject ← read (path ++ [.key "branchOn"]) subject
    let cases ← readItems (readCase read) (path ++ [.key "when"]) 0 items
    let otherwise ← readFallback read members path
    pure (.finiteBranch subject cases otherwise)
  | _ => faultAt .casesNotList (path ++ [.key "when"])

/-- The value of a branch, by the first leading field it has. -/
def readBranchValue (read : Reader) (path : DataPath) : Data → Except DecodeError Expr
  | .object members =>
    if Members.has members "if" then readIfThenElse read members path
    else
      match Members.get? members "rules" with
      | some rules => readRuleChain read members path rules
      | none =>
        match Members.get? members "branchOn" with
        | some subject => readFiniteBranch read members path subject
        | none => faultAt .branchFormUnknown path
  | _ => faultAt .branchNotObject path

/-- An object: a reference if it has the member `ref`, else a branch if it has a
type. -/
def readObject (read : Reader) (members : List (String × Data)) (path : DataPath) :
    Except DecodeError Expr :=
  match Members.get? members "ref" with
  | some (.string name) => .ok (.reference name)
  | some got => faultAt (.referenceNotString got) (path ++ [.key "ref"])
  | none =>
    match Members.get? members "type" with
    | some (.string "branch") => do
      let value ← requiredField members "value" path
      readBranchValue read (path ++ [.key "value"]) value
    | some got => faultAt (.unknownType got) (path ++ [.key "type"])
    | none => faultAt .notExpression path

/-- Read a value at a place, with at most `levels` levels from there on. -/
def decodeWithin : (levels : Nat) → Reader
  | 0, path, _ => faultAt (.tooDeep defaultMaxDepth) path
  | levels + 1, path, value =>
    match value with
    | .string s => .ok (.literal (.string s))
    | .bool b => .ok (.literal (.bool b))
    | .int n => .literal <$> integerLiteral n path
    | .float x => .literal <$> finiteLiteral x path
    | .object members => readObject (decodeWithin levels) members path
    | .null | .moment _ | .array _ => faultAt .notExpression path

/-- Read a value at a place in an enclosing document. That the stack gives out is a fault
of the whole value. -/
def decodeAt (machine : Machine) (path : DataPath) (value : Data) : Except DecodeError Expr :=
  if machine.decodes value then decodeWithin (defaultMaxDepth + 1) path value
  else faultAt .outOfStack path

section Stack

variable {machine : Machine} {path : DataPath} {value : Data} {e : Expr}

theorem decodeAt_of_decodes (h : machine.decodes value = true) :
    decodeAt machine path value = decodeWithin (defaultMaxDepth + 1) path value :=
  if_pos h

theorem decodeAt_of_not_decodes (h : machine.decodes value = false) :
    decodeAt machine path value = faultAt .outOfStack path :=
  if_neg (ne_true_of_eq_false h)

theorem decodeAt_eq_ok_iff : decodeAt machine path value = .ok e ↔
    machine.decodes value = true ∧ decodeWithin (defaultMaxDepth + 1) path value = .ok e := by
  cases h : machine.decodes value with
  | true => simp [decodeAt_of_decodes h]
  | false => simp [decodeAt_of_not_decodes h, faultAt]

end Stack

/-- Read a document value as an expression. -/
def decode (machine : Machine) (value : Data) : Except DecodeError Expr :=
  decodeAt machine [] value

/-- Read a JSON text as an expression. -/
def ofJson (machine : Machine) (text : String) : Except LoadError Expr := do
  let value ← parseDocument machine.jsonRoom text
  (decode machine value).mapError .decode

end Expr

/-- The context of named values: each one read as an expression. -/
def Context.ofValues (machine : Machine) : List (String × Data) → Except DecodeError Context
  | [] => .ok []
  | (name, value) :: rest => do
    let bound ← Expr.decodeAt machine [.key name] value
    let others ← Context.ofValues machine rest
    pure ((name, bound) :: others)

end Rulebook
