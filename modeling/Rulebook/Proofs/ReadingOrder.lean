import Rulebook.Expr.Decoding

/-!
In which order a value is read.

Reading a value comes to tasks, one after another: a part is read as an expression, or a fault
is reported (`Data.tasks`). The first task that fails is what the reading reports, whatever
reads the parts (`errorOf_decodeWithin_succ`), so the place of an error is seen from wherever
the value stands (`errorOf_decodeWithin_path`).
-/

namespace Rulebook

/-! ### Tasks -/

namespace Data

/-- What reading a value comes to: reading a part of it at a place below, or reporting a
fault there. -/
inductive Task where
  | read (place : DataPath) (part : Data)
  | report (fault : DecodeFault) (place : DataPath)

/-- A task of a value that stands at a place below. -/
def Task.under (path : DataPath) : Task → Task
  | .read place part => .read (path ++ place) part
  | .report fault place => .report fault (path ++ place)

/-- A member that must be there is read. -/
def fieldTask (members : List (String × Data)) (name : String) : Task :=
  match Members.get? members name with
  | some part => .read [.key name] part
  | none => .report (.missingField name) []

/-- The fallback is read, if there is one. -/
def fallbackTasks (members : List (String × Data)) : List Task :=
  match Members.get? members "otherwise" with
  | some part => [.read [.key "otherwise"] part]
  | none => []

/-- Of a rule, the condition is read and then the result. -/
def ruleTasks : Data → List Task
  | .object members => [fieldTask members "when", fieldTask members "then"]
  | _ => [.report .ruleNotObject []]

/-- Of a case, the key is read and then the result. -/
def caseTasks : Data → List Task
  | .array [key, result] => [.read [.index 0] key, .read [.index 1] result]
  | _ => [.report .caseNotPair []]

/-- Items numbered from `index` are read one after another. -/
def itemTasks (tasks : Data → List Task) : (index : Nat) → List Data → List Task
  | _, [] => []
  | index, item :: rest =>
    (tasks item).map (.under [.index index]) ++ itemTasks tasks (index + 1) rest

/-- The rules are read, and then the fallback. -/
def ruleChainTasks (body : List (String × Data)) : (rules : Data) → List Task
  | .array items => (itemTasks ruleTasks 0 items).map (.under [.key "rules"]) ++ fallbackTasks body
  | _ => [.report .rulesNotList [.key "rules"]]

/-- The subject is read, then the cases, and then the fallback. Whether there is a list of
cases is seen before all. -/
def finiteBranchTasks (body : List (String × Data)) (subject : Data) : List Task :=
  match Members.get? body "when" with
  | some (.array items) =>
    .read [.key "branchOn"] subject ::
      ((itemTasks caseTasks 0 items).map (.under [.key "when"]) ++ fallbackTasks body)
  | some _ => [.report .casesNotList [.key "when"]]
  | none => [.report (.missingField "when") []]

/-- Of a branch, the parts of the first form are read whose leading field it has. -/
def branchTasks : (value : Data) → List Task
  | .object body =>
    if Members.has body "if" then
      [fieldTask body "if", fieldTask body "then", fieldTask body "else"]
    else
      match Members.get? body "rules" with
      | some rules => ruleChainTasks body rules
      | none =>
        match Members.get? body "branchOn" with
        | some subject => finiteBranchTasks body subject
        | none => [.report .branchFormUnknown []]
  | _ => [.report .branchNotObject []]

/-- Of an object, the value is read as a branch, if it is no reference and its type is that
of a branch. -/
def objectTasks (members : List (String × Data)) : List Task :=
  match Members.get? members "ref" with
  | some (.string _) => []
  | some got => [.report (.referenceNotString got) [.key "ref"]]
  | none =>
    match Members.get? members "type" with
    | some (.string "branch") =>
      match Members.get? members "value" with
      | some value => (branchTasks value).map (.under [.key "value"])
      | none => [.report (.missingField "value") []]
    | some got => [.report (.unknownType got) [.key "type"]]
    | none => [.report .notExpression []]

/-- What reading a value as an expression comes to. -/
def tasks : Data → List Task
  | .string _ | .bool _ => []
  | .int n => if (Literal.ofInt? n).isSome then [] else [.report .numberOutOfRange []]
  | .float x => if x.isFinite then [] else [.report (.numberNotFinite x) []]
  | .object members => objectTasks members
  | .null | .moment _ | .array _ => [.report .notExpression []]

end Data

/-! ### Errors of tasks -/

/-- The error of a reading that fails. -/
def errorOf {α : Type} : Except DecodeError α → Option DecodeError
  | .ok _ => none
  | .error error => some error

/-- An error of a value that stands at a place below. -/
def DecodeError.under (path : DataPath) (error : DecodeError) : DecodeError :=
  ⟨error.fault, path ++ error.path⟩

/-- The error of a task of the value at a place, if it fails. -/
def Data.Task.error? (read : Expr.Reader) (path : DataPath) : Data.Task → Option DecodeError
  | .read place part => errorOf (read (path ++ place) part)
  | .report fault place => some ⟨fault, path ++ place⟩

/-- A reading of the value at a place reports the first task that fails. -/
def Follows {α : Type} (read : Expr.Reader) (path : DataPath) (reading : Except DecodeError α)
    (tasks : List Data.Task) : Prop :=
  errorOf reading = tasks.findSome? (Data.Task.error? read path)

section Follows

variable {α β : Type} {read : Expr.Reader} {path place : DataPath}
  {reading : Except DecodeError α} {tasks tasks' : List Data.Task}

theorem errorOf_eq_none_iff : errorOf reading = none ↔ ∃ value, reading = .ok value := by
  cases reading <;> simp [errorOf]

theorem errorOf_eq_some_iff {error : DecodeError} :
    errorOf reading = some error ↔ reading = .error error := by
  cases reading <;> simp [errorOf]

theorem errorOf_map (f : α → β) : errorOf (f <$> reading) = errorOf reading := by
  cases reading <;> rfl

theorem follows_ok (value : α) : Follows read path (.ok value) [] := rfl

theorem follows_fault (fault : DecodeFault) :
    Follows read path (faultAt (α := α) fault (path ++ place)) [.report fault place] := rfl

/-- A fault of the value itself is reported at its own place. -/
theorem follows_fault_here (fault : DecodeFault) :
    Follows read path (faultAt (α := α) fault path) [.report fault []] := by
  have hfault : Follows read path (faultAt (α := α) fault (path ++ [])) [.report fault []] :=
    follows_fault fault
  rwa [List.append_nil] at hfault

theorem follows_read (part : Data) :
    Follows read path (read (path ++ place) part) [.read place part] := by
  simp [Follows, Data.Task.error?]

theorem Follows.map (h : Follows read path reading tasks) (f : α → β) :
    Follows read path (f <$> reading) tasks := by
  rw [Follows, errorOf_map]
  exact h

/-- One reading after another follows the tasks of both. -/
theorem Follows.bind {next : α → Except DecodeError β} (h : Follows read path reading tasks)
    (hnext : ∀ value, Follows read path (next value) tasks') :
    Follows read path (reading >>= next) (tasks ++ tasks') := by
  rw [Follows, List.findSome?_append, ← h]
  cases reading with
  | error error => rfl
  | ok value => exact hnext value

theorem error?_under (task : Data.Task) :
    (task.under place).error? read path = task.error? read (path ++ place) := by
  cases task <;> simp [Data.Task.under, Data.Task.error?]

/-- What follows tasks at a place below follows them from above. -/
theorem Follows.under (h : Follows read (path ++ place) reading tasks) :
    Follows read path reading (tasks.map (.under place)) := by
  rw [Follows, h, List.findSome?_map]
  exact congrArg (List.findSome? · tasks) (funext fun task => (error?_under task).symm)

end Follows

/-! ### Readings -/

namespace Expr

open Data

section Level

variable (read : Reader) (path : DataPath)

theorem follows_readField (members : List (String × Data)) (name : String) :
    Follows read path (readField read members name path) [fieldTask members name] := by
  unfold readField requiredField fieldTask
  cases Members.get? members name with
  | none => exact follows_fault_here _
  | some part => exact follows_read part

theorem follows_readFallback (members : List (String × Data)) :
    Follows read path (readFallback read members path) (fallbackTasks members) := by
  unfold readFallback fallbackTasks
  cases Members.get? members "otherwise" with
  | none => exact follows_ok _
  | some part => exact (follows_read part).map some

theorem follows_readRule (item : Data) :
    Follows read path (readRule read path item) (ruleTasks item) := by
  cases item with
  | object members =>
      exact (follows_readField read path members "when").bind fun _ =>
        (follows_readField read path members "then").map _
  | _ => exact follows_fault_here _

theorem follows_readCase (item : Data) :
    Follows read path (readCase read path item) (caseTasks item) := by
  unfold readCase
  split
  · next key result =>
      exact (follows_read key).bind fun _ => (follows_read result).map _
  · next hnot =>
      rw [caseTasks]
      · exact follows_fault_here _
      · exact hnot

/-- Items are read one after another, each at its place. -/
theorem follows_readItems {α : Type} {readItem : DataPath → Data → Except DecodeError α}
    {tasks : Data → List Task}
    (hread : ∀ path item, Follows read path (readItem path item) (tasks item)) (index : Nat)
    (items : List Data) :
    Follows read path (readItems readItem path index items) (itemTasks tasks index items) := by
  induction items generalizing index with
  | nil => exact follows_ok _
  | cons item items ih =>
      exact (hread _ item).under.bind fun _ => (ih (index + 1)).map _

theorem follows_readIfThenElse (body : List (String × Data)) :
    Follows read path (readIfThenElse read body path)
      [fieldTask body "if", fieldTask body "then", fieldTask body "else"] :=
  (follows_readField read path body "if").bind fun _ =>
    (follows_readField read path body "then").bind fun _ =>
      (follows_readField read path body "else").map _

theorem follows_readRuleChain (body : List (String × Data)) (rules : Data) :
    Follows read path (readRuleChain read body path rules) (ruleChainTasks body rules) := by
  cases rules with
  | array items =>
      exact (follows_readItems read _ (follows_readRule read) 0 items).under.bind fun _ =>
        (follows_readFallback read path body).map _
  | _ => exact follows_fault _

theorem follows_readFiniteBranch (body : List (String × Data)) (subject : Data) :
    Follows read path (readFiniteBranch read body path subject)
      (finiteBranchTasks body subject) := by
  unfold readFiniteBranch requiredField finiteBranchTasks
  cases Members.get? body "when" with
  | none => exact follows_fault_here _
  | some cases =>
      cases cases with
      | array items =>
          exact (follows_read subject).bind fun _ =>
            (follows_readItems read _ (follows_readCase read) 0 items).under.bind fun _ =>
              (follows_readFallback read path body).map _
      | _ => exact follows_fault _

theorem follows_readBranchValue (value : Data) :
    Follows read path (readBranchValue read path value) (branchTasks value) := by
  cases value with
  | object body =>
      simp only [readBranchValue, branchTasks]
      cases Members.has body "if" with
      | true => exact follows_readIfThenElse read path body
      | false =>
          cases Members.get? body "rules" with
          | some rules => exact follows_readRuleChain read path body rules
          | none =>
              cases Members.get? body "branchOn" with
              | some subject => exact follows_readFiniteBranch read path body subject
              | none => exact follows_fault_here _
  | _ => exact follows_fault_here _

theorem follows_readObject (members : List (String × Data)) :
    Follows read path (readObject read members path) (objectTasks members) := by
  unfold readObject
  split
  · next name href =>
      simp only [objectTasks, href]
      exact follows_ok _
  · next got hnot href =>
      simp only [objectTasks, href]
      exact follows_fault _
  · next href =>
      split
      · next htype =>
          simp only [objectTasks, href, htype, requiredField]
          cases Members.get? members "value" with
          | none => exact follows_fault_here _
          | some value => exact (follows_readBranchValue read _ value).under
      · next got hnot htype =>
          simp only [objectTasks, href, htype]
          exact follows_fault _
      · next htype =>
          simp only [objectTasks, href, htype]
          exact follows_fault_here _

end Level

/-- Reading a value reports the first of its tasks that fails with a level less. -/
theorem errorOf_decodeWithin_succ (levels : Nat) (path : DataPath) (value : Data) :
    errorOf (decodeWithin (levels + 1) path value) =
      value.tasks.findSome? (Task.error? (decodeWithin levels) path) := by
  cases value with
  | string s => rfl
  | bool b => rfl
  | null => exact follows_fault_here _
  | moment m => exact follows_fault_here _
  | array items => exact follows_fault_here _
  | object members => exact follows_readObject (decodeWithin levels) path members
  | int n =>
      have hfollows : Follows (decodeWithin levels) path (integerLiteral n path)
          (Data.int n).tasks := by
        simp only [integerLiteral, tasks]
        cases Literal.ofInt? n with
        | none => exact follows_fault_here _
        | some v => exact follows_ok v
      exact hfollows.map _
  | float x =>
      have hfollows : Follows (decodeWithin levels) path (finiteLiteral x path)
          (Data.float x).tasks := by
        simp only [finiteLiteral, tasks]
        cases x.isFinite with
        | true => exact follows_ok _
        | false => exact follows_fault_here _
      exact hfollows.map _

/-- The error of a value is the one it has by itself, seen from where the value stands. -/
theorem errorOf_decodeWithin_path (levels : Nat) (path : DataPath) (value : Data) :
    errorOf (decodeWithin levels path value) =
      (errorOf (decodeWithin levels [] value)).map (.under path) := by
  induction levels generalizing path value with
  | zero => simp [decodeWithin, faultAt, errorOf, DecodeError.under]
  | succ levels ih =>
      rw [errorOf_decodeWithin_succ, errorOf_decodeWithin_succ, List.map_findSome?]
      refine congrArg (List.findSome? · value.tasks) (funext fun task => ?_)
      cases task with
      | read place part =>
          simp only [Task.error?, Function.comp_apply, List.nil_append]
          rw [ih (path ++ place), ih place, Option.map_map]
          refine congrArg (Option.map · _) (funext fun error => ?_)
          simp [DecodeError.under]
      | report fault place => simp [Task.error?, DecodeError.under]

end Expr

end Rulebook
