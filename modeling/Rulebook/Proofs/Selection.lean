import Rulebook.Proofs.Run

/-!
What the reduction of a branch asks for.

The parts of a branch are reduced one after another, and what one of them reduces to
decides which comes next (`Selects`). Where a selected part fails the branch fails with
the same error (`Selects.outcome_error`). The other way round, one level ends as a literal, as
the name that is resolved, or as one of the selected parts, unless the branch refuses
the values of its parts (`reduceLevel_ends`).
-/

namespace Rulebook

/-! ### Selected parts -/

/-- A part of the rules from `index` on, or the fallback, that is asked for: every
condition before it does not hold, and that of a result does. -/
inductive SelectsRule (part : Step → Expr → EvalRun Literal) :
    (index : Nat) → List (Expr × Expr) → Option Expr → Step → Expr → Prop where
  | condition {index : Nat} {condition result : Expr} {rest : List (Expr × Expr)}
      {otherwise : Option Expr} :
      SelectsRule part index ((condition, result) :: rest) otherwise (.ruleCondition index)
        condition
  | result {index : Nat} {condition result : Expr} {rest : List (Expr × Expr)}
      {otherwise : Option Expr} :
      (part (.ruleCondition index) condition).outcome = .ok (.bool true) →
      SelectsRule part index ((condition, result) :: rest) otherwise (.ruleResult index) result
  | later {index : Nat} {condition result : Expr} {rest : List (Expr × Expr)}
      {otherwise : Option Expr} {step : Step} {sub : Expr} :
      (part (.ruleCondition index) condition).outcome = .ok (.bool false) →
      SelectsRule part (index + 1) rest otherwise step sub →
      SelectsRule part index ((condition, result) :: rest) otherwise step sub
  | otherwise {index : Nat} {e : Expr} : SelectsRule part index [] (some e) .otherwise e

/-- A part of the cases from `index` on, or the fallback, that is asked for: every key
before it is another value, and that of a result is the value. -/
inductive SelectsCase (part : Step → Expr → EvalRun Literal) (value : Literal) :
    (index : Nat) → List (Expr × Expr) → Option Expr → Step → Expr → Prop where
  | key {index : Nat} {key result : Expr} {rest : List (Expr × Expr)} {otherwise : Option Expr} :
      SelectsCase part value index ((key, result) :: rest) otherwise (.caseKey index) key
  | result {index : Nat} {key result : Expr} {rest : List (Expr × Expr)}
      {otherwise : Option Expr} {candidate : Literal} :
      (part (.caseKey index) key).outcome = .ok candidate → candidate.same value = true →
      SelectsCase part value index ((key, result) :: rest) otherwise (.caseResult index) result
  | later {index : Nat} {key result : Expr} {rest : List (Expr × Expr)}
      {otherwise : Option Expr} {candidate : Literal} {step : Step} {sub : Expr} :
      (part (.caseKey index) key).outcome = .ok candidate → candidate.same value = false →
      SelectsCase part value (index + 1) rest otherwise step sub →
      SelectsCase part value index ((key, result) :: rest) otherwise step sub
  | otherwise {index : Nat} {e : Expr} : SelectsCase part value index [] (some e) .otherwise e

/-- A direct part that the reduction of a branch asks for, given what the parts reduce
to. -/
inductive Selects (part : Step → Expr → EvalRun Literal) : Expr → Step → Expr → Prop where
  | condition {condition thenArm elseArm : Expr} :
      Selects part (.ifThenElse condition thenArm elseArm) .condition condition
  | thenArm {condition thenArm elseArm : Expr} :
      (part .condition condition).outcome = .ok (.bool true) →
      Selects part (.ifThenElse condition thenArm elseArm) .thenArm thenArm
  | elseArm {condition thenArm elseArm : Expr} :
      (part .condition condition).outcome = .ok (.bool false) →
      Selects part (.ifThenElse condition thenArm elseArm) .elseArm elseArm
  | rule {rules : List (Expr × Expr)} {otherwise : Option Expr} {step : Step} {sub : Expr} :
      SelectsRule part 0 rules otherwise step sub →
      Selects part (.ruleChain rules otherwise) step sub
  | subject {subject : Expr} {cases : List (Expr × Expr)} {otherwise : Option Expr} :
      Selects part (.finiteBranch subject cases otherwise) .subject subject
  | case {subject : Expr} {cases : List (Expr × Expr)} {otherwise : Option Expr}
      {value : Literal} {step : Step} {sub : Expr} :
      (part .subject subject).outcome = .ok value →
      SelectsCase part value 0 cases otherwise step sub →
      Selects part (.finiteBranch subject cases otherwise) step sub

section Selects

variable {part : Step → Expr → EvalRun Literal} {resolve : String → EvalRun Literal}
  {site : Site Origin} {step : Step} {sub e : Expr} {index : Nat}
  {rules cases : List (Expr × Expr)} {otherwise : Option Expr} {value : Literal}

theorem SelectsRule.mem_parts (h : SelectsRule part index rules otherwise step sub) :
    (step, sub) ∈ Expr.pairParts .ruleCondition .ruleResult index rules ++
      Expr.fallbackPart otherwise := by
  induction h with
  | condition => simp [Expr.pairParts]
  | result _ => simp [Expr.pairParts]
  | later _ _ ih => exact Expr.mem_parts_of_rest ih
  | otherwise => simp [Expr.pairParts, Expr.fallbackPart]

theorem SelectsCase.mem_parts (h : SelectsCase part value index cases otherwise step sub) :
    (step, sub) ∈ Expr.pairParts .caseKey .caseResult index cases ++
      Expr.fallbackPart otherwise := by
  induction h with
  | key => simp [Expr.pairParts]
  | result _ _ => simp [Expr.pairParts]
  | later _ _ _ ih => exact Expr.mem_parts_of_rest ih
  | otherwise => simp [Expr.pairParts, Expr.fallbackPart]

/-- Only direct parts are asked for. -/
theorem Selects.mem_parts (h : Selects part e step sub) : (step, sub) ∈ e.parts := by
  cases h with
  | condition => simp [Expr.parts]
  | thenArm _ => simp [Expr.parts]
  | elseArm _ => simp [Expr.parts]
  | rule h => exact h.mem_parts
  | subject => simp [Expr.parts]
  | case _ h => exact List.mem_cons_of_mem _ h.mem_parts

/-! ### Errors of selected parts -/

/-- An arm ends as its result does. -/
theorem takeArm_outcome (part : Step → Expr → EvalRun Literal) (site : Site Origin) (arm : Arm)
    (result : Expr) : (takeArm part site arm result).outcome = (part arm.step result).outcome := rfl

variable {cause : EvalError}

theorem SelectsRule.outcome_error (h : SelectsRule part index rules otherwise step sub)
    (herror : (part step sub).outcome = .error cause) :
    (reduceRules part site index rules otherwise).outcome = .error cause := by
  induction h with
  | condition => exact Run.bind_outcome_error_iff.mpr (.inl herror)
  | result hcondition =>
      rw [reduceRules, Run.bind_of_ok hcondition]
      exact herror
  | later hcondition _ ih =>
      rw [reduceRules, Run.bind_of_ok hcondition]
      exact ih herror
  | otherwise => exact herror

theorem SelectsCase.outcome_error (h : SelectsCase part value index cases otherwise step sub)
    (herror : (part step sub).outcome = .error cause) :
    (reduceCases part site value index cases otherwise).outcome = .error cause := by
  induction h with
  | key => exact Run.bind_outcome_error_iff.mpr (.inl herror)
  | result hkey hsame =>
      rw [reduceCases, Run.bind_of_ok hkey]
      simp only [hsame, if_true]
      exact herror
  | later hkey hsame _ ih =>
      rw [reduceCases, Run.bind_of_ok hkey]
      simp only [hsame, Bool.false_eq_true, if_false]
      exact ih herror
  | otherwise => exact herror

/-- Where a part that is asked for fails, the branch fails with the same error. -/
theorem Selects.outcome_error (h : Selects part e step sub)
    (herror : (part step sub).outcome = .error cause) :
    (reduceLevel part resolve site e).outcome = .error cause := by
  cases h with
  | condition => exact Run.bind_outcome_error_iff.mpr (.inl herror)
  | thenArm hcondition =>
      rw [reduceLevel, Run.bind_of_ok hcondition]
      exact herror
  | elseArm hcondition =>
      rw [reduceLevel, Run.bind_of_ok hcondition]
      exact herror
  | rule h => exact h.outcome_error herror
  | subject => exact Run.bind_outcome_error_iff.mpr (.inl herror)
  | case hsubject h =>
      exact Run.bind_outcome_error_iff.mpr (.inr ⟨_, hsubject, h.outcome_error herror⟩)

end Selects

/-! ### How one level ends -/

/-- The literal that an error shows. -/
def EvalError.literal? : EvalError → Option Literal
  | .notBoolean _ value | .noCaseMatched value => some value
  | _ => none

/-- The branch whose parts are asked for as `selects` says refuses: with an error of its
own, in which it shows nothing but the value of such a part. -/
def Refuses (part : Step → Expr → EvalRun Literal) (selects : Step → Expr → Prop)
    (result : Except EvalError Literal) : Prop :=
  ∃ error, error.OfBranch ∧ result = .error error ∧
    ∀ value, error.literal? = some value →
      ∃ step sub, selects step sub ∧ (part step sub).outcome = .ok value

section Ends

variable {part : Step → Expr → EvalRun Literal} {resolve : String → EvalRun Literal}
  {site : Site Origin} {result : Except EvalError Literal}

theorem Refuses.mono {selects selects' : Step → Expr → Prop} (h : Refuses part selects result)
    (hmore : ∀ step sub, selects step sub → selects' step sub) : Refuses part selects' result := by
  obtain ⟨error, hbranch, hresult, hshown⟩ := h
  refine ⟨error, hbranch, hresult, fun value hvalue => ?_⟩
  obtain ⟨step, sub, hselects, hpart⟩ := hshown value hvalue
  exact ⟨step, sub, hmore step sub hselects, hpart⟩

/-- A condition is a truth value, or the branch refuses the value of the part that it
is. -/
theorem asBool_cases (condition : Condition) {selects : Step → Expr → Prop} {step : Step}
    {sub : Expr} (hselects : selects step sub) {value : Literal}
    (hpart : (part step sub).outcome = .ok value) :
    (∃ b, value = .bool b) ∨
      ∃ error, (asBool condition value).outcome = .error error ∧
        Refuses part selects (.error error) := by
  have hrefuses : Refuses part selects (.error (.notBoolean condition value)) := by
    refine ⟨.notBoolean condition value, trivial, rfl, ?_⟩
    rintro _ ⟨⟩
    exact ⟨step, sub, hselects, hpart⟩
  cases value with
  | bool b => exact .inl ⟨b, rfl⟩
  | string s => exact .inr ⟨_, rfl, hrefuses⟩
  | number x => exact .inr ⟨_, rfl, hrefuses⟩

theorem reduceRules_ends {rules : List (Expr × Expr)} {otherwise : Option Expr} {index : Nat}
    (h : (reduceRules part site index rules otherwise).outcome = result) :
    (∃ step sub, SelectsRule part index rules otherwise step sub ∧
      (part step sub).outcome = result) ∨
      Refuses part (SelectsRule part index rules otherwise) result := by
  induction rules generalizing index with
  | nil =>
      cases otherwise with
      | none =>
          subst h
          exact .inr ⟨.noRuleMatched, trivial, rfl, nofun⟩
      | some e => exact .inl ⟨_, e, .otherwise, h⟩
  | cons pair rest ih =>
      obtain ⟨condition, arm⟩ := pair
      cases hcondition : (part (.ruleCondition index) condition).outcome with
      | error error =>
          rw [reduceRules, Run.bind_of_error hcondition] at h
          exact .inl ⟨_, condition, .condition, hcondition.trans h⟩
      | ok value =>
          rw [reduceRules, Run.bind_of_ok hcondition] at h
          rcases asBool_cases (.rule index) SelectsRule.condition hcondition with
            ⟨holds, rfl⟩ | ⟨error, herror, hrefuses⟩
          · cases holds with
            | true => exact .inl ⟨_, arm, .result hcondition, h⟩
            | false =>
                rcases ih h with ⟨step, sub, hselects, hpart⟩ | hrefuses
                · exact .inl ⟨step, sub, .later hcondition hselects, hpart⟩
                · exact .inr (hrefuses.mono fun _ _ => .later hcondition)
          · rw [Run.bind_of_error herror] at h
            exact .inr (h ▸ hrefuses)

theorem reduceCases_ends {cases : List (Expr × Expr)} {otherwise : Option Expr} {index : Nat}
    {value : Literal} (h : (reduceCases part site value index cases otherwise).outcome = result) :
    (∃ step sub, SelectsCase part value index cases otherwise step sub ∧
      (part step sub).outcome = result) ∨ result = .error (.noCaseMatched value) := by
  induction cases generalizing index with
  | nil =>
      cases otherwise with
      | none => exact .inr h.symm
      | some e => exact .inl ⟨_, e, .otherwise, h⟩
  | cons pair rest ih =>
      obtain ⟨key, arm⟩ := pair
      cases hkey : (part (.caseKey index) key).outcome with
      | error error =>
          rw [reduceCases, Run.bind_of_error hkey] at h
          exact .inl ⟨_, key, .key, hkey.trans h⟩
      | ok candidate =>
          rw [reduceCases, Run.bind_of_ok hkey] at h
          cases hsame : candidate.same value with
          | true =>
              simp only [hsame, if_true] at h
              exact .inl ⟨_, arm, .result hkey hsame, h⟩
          | false =>
              simp only [hsame, Bool.false_eq_true, if_false] at h
              rcases ih h with ⟨step, sub, hselects, hpart⟩ | hnone
              · exact .inl ⟨step, sub, .later hkey hsame hselects, hpart⟩
              · exact .inr hnone

/-- One level ends as the literal that stands there, as the name, or as one of the parts
that are asked for, unless the branch refuses. -/
theorem reduceLevel_ends {e : Expr} (h : (reduceLevel part resolve site e).outcome = result) :
    (∃ value, e = .literal value ∧ result = .ok value) ∨
      (∃ name, e = .reference name ∧ (resolve name).outcome = result) ∨
      (∃ step sub, Selects part e step sub ∧ (part step sub).outcome = result) ∨
      Refuses part (Selects part e) result := by
  cases e with
  | literal value => exact .inl ⟨value, rfl, h.symm⟩
  | reference name => exact .inr (.inl ⟨name, rfl, h⟩)
  | ifThenElse condition thenArm elseArm =>
      refine .inr (.inr ?_)
      cases hcondition : (part .condition condition).outcome with
      | error error =>
          rw [reduceLevel, Run.bind_of_error hcondition] at h
          exact .inl ⟨_, condition, .condition, hcondition.trans h⟩
      | ok value =>
          rw [reduceLevel, Run.bind_of_ok hcondition] at h
          rcases asBool_cases .ifThenElse Selects.condition hcondition with
            ⟨holds, rfl⟩ | ⟨error, herror, hrefuses⟩
          · cases holds with
            | true => exact .inl ⟨_, thenArm, .thenArm hcondition, h⟩
            | false => exact .inl ⟨_, elseArm, .elseArm hcondition, h⟩
          · rw [Run.bind_of_error herror] at h
            exact .inr (h ▸ hrefuses)
  | ruleChain rules otherwise =>
      rcases reduceRules_ends h with ⟨step, sub, hselects, hpart⟩ | hrefuses
      · exact .inr (.inr (.inl ⟨step, sub, .rule hselects, hpart⟩))
      · exact .inr (.inr (.inr (hrefuses.mono fun _ _ => .rule)))
  | finiteBranch subject cases otherwise =>
      refine .inr (.inr ?_)
      cases hsubject : (part .subject subject).outcome with
      | error error =>
          rw [reduceLevel, Run.bind_of_error hsubject] at h
          exact .inl ⟨_, subject, .subject, hsubject.trans h⟩
      | ok value =>
          rw [reduceLevel, Run.bind_of_ok hsubject] at h
          rcases reduceCases_ends h with ⟨step, sub, hselects, hpart⟩ | rfl
          · exact .inl ⟨step, sub, .case hsubject hselects, hpart⟩
          · refine .inr ⟨.noCaseMatched value, trivial, rfl, ?_⟩
            rintro _ ⟨⟩
            exact ⟨_, subject, .subject, hsubject⟩

/-- An error of one level is made by the branch itself, or by the name, or by one of the
parts. -/
theorem reduceLevel_error {e : Expr} {error : EvalError}
    (h : (reduceLevel part resolve site e).outcome = .error error) :
    error.OfBranch ∨ (∃ name, e = .reference name ∧ (resolve name).outcome = .error error) ∨
      ∃ step sub, (step, sub) ∈ e.parts ∧ (part step sub).outcome = .error error := by
  rcases reduceLevel_ends h with ⟨_, _, ⟨⟩⟩ | hname | ⟨step, sub, hselects, hpart⟩ |
    ⟨_, hbranch, ⟨⟩, _⟩
  · exact .inr (.inl hname)
  · exact .inr (.inr ⟨step, sub, hselects.mem_parts, hpart⟩)
  · exact .inl hbranch

end Ends

end Rulebook
