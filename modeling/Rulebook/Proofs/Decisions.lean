import Rulebook.Proofs.CycleGuard
import Rulebook.Proofs.Parts

/-!
Where decisions are made.

A branch notes an arm when what decides for it is known, and then asks for its result
(`Selects.endsAs`). So a decision stands at a branch that takes the arm in the context
(`takes_of_mem_decisions`). What a branch asks for depends on the values of its parts, and
these depend neither on the levels that are left nor on the names that are being resolved
(`reduce_ok_unique`): in one context a branch takes one arm at most (`Takes.arm_unique`).
-/

namespace Rulebook

/-! ### Arms -/

/-- Each arm has a result of its own. -/
theorem Arm.step_injective {arm arm' : Arm} (h : arm.step = arm'.step) : arm = arm' := by
  cases arm <;> cases arm' <;> cases h <;> rfl

/-- No condition of a rule is the result of an arm. -/
theorem Arm.step_ne_ruleCondition (arm : Arm) (index : Nat) : arm.step ≠ .ruleCondition index := by
  cases arm <;> nofun

/-- No key of a case is the result of an arm. -/
theorem Arm.step_ne_caseKey (arm : Arm) (index : Nat) : arm.step ≠ .caseKey index := by
  cases arm <;> nofun

/-- An index is read off a label that shows it between two texts. -/
theorem index_of_label {before after : String} {i j : Nat}
    (h : before ++ toString i ++ after = before ++ toString j ++ after) : i = j := by
  have hshown : toString i = toString j :=
    (String.append_right_inj before).mp ((String.append_left_inj after).mp h)
  have hdigits := congrArg (fun text => Nat.ofDigitChars 10 text.toList 0) hshown
  simpa [Nat.ofDigitChars_toDigits] using hdigits

/-- Arms are told apart by their labels. -/
theorem Arm.label_injective {arm arm' : Arm} (h : arm.label = arm'.label) : arm = arm' := by
  have hfirst := congrArg (·.toList.head?) h
  cases arm with
  | rule i =>
      cases arm' with
      | rule j => exact congrArg Arm.rule (index_of_label h)
      | _ => simp [Arm.label, String.toList_append, toString] at hfirst
  | case i =>
      cases arm' with
      | case j => exact congrArg Arm.case (index_of_label h)
      | _ => simp [Arm.label, String.toList_append, toString] at hfirst
  | thenArm | elseArm | otherwise =>
      cases arm' with
      | rule j | case j => simp [Arm.label, String.toList_append, toString] at hfirst
      | _ => simp_all [Arm.label]

/-! ### What stands at a site -/

theorem Expr.at?_concat {e sub part : Expr} {path : Path} {step : Step}
    (h : e.at? path = some sub) (mem : (step, part) ∈ sub.parts) :
    e.at? (path ++ [step]) = some part := by
  induction path generalizing e with
  | nil =>
      cases h
      exact at?_cons_of_mem_parts mem []
  | cons first path ih =>
      obtain ⟨above, habove, h⟩ := Option.bind_eq_some_iff.mp h
      simp only [List.cons_append, at?, habove, Option.bind_some]
      exact ih h

/-- The tree that an origin is, where an expression is asked for in a context. -/
def Origin.tree? (context : Context) (asked : Expr) : Origin → Option Expr
  | .subject => some asked
  | .binding name => Members.get? context name

/-- What stands at a site, where an expression is asked for in a context. -/
def standsAt? (context : Context) (asked : Expr) (site : Site Origin) : Option Expr :=
  (site.origin.tree? context asked).bind (·.at? site.path)

theorem standsAt?_child {context : Context} {asked e sub : Expr} {site : Site Origin} {step : Step}
    (h : standsAt? context asked site = some e) (mem : (step, sub) ∈ e.parts) :
    standsAt? context asked (site.child step) = some sub := by
  obtain ⟨tree, htree, hat⟩ := Option.bind_eq_some_iff.mp h
  exact Option.bind_eq_some_iff.mpr ⟨tree, htree, Expr.at?_concat hat mem⟩

theorem standsAt?_binding {context : Context} (asked : Expr) {name : String} {bound : Expr}
    (h : Members.get? context name = some bound) :
    standsAt? context asked ⟨.binding name, []⟩ = some bound :=
  Option.bind_eq_some_iff.mpr ⟨bound, h, rfl⟩

/-! ### The decisions of one level -/

/-- The decisions of a run that goes on are those of its two halves. -/
theorem Run.mem_decisions_bind {δ ε α β : Type} {run : Run δ ε α} {next : α → Run δ ε β} {d : δ} :
    d ∈ (run >>= next).decisions ↔
      d ∈ run.decisions ∨ ∃ value, run.outcome = .ok value ∧ d ∈ (next value).decisions := by
  cases h : run.outcome with
  | ok value => simp [bind_of_ok h]
  | error error => simp [bind_of_error h]

theorem decisions_asBool (condition : Condition) (value : Literal) :
    (asBool condition value).decisions = [] := by
  cases value <;> rfl

/-- A condition is met only by a truth value. -/
theorem asBool_eq_ok_iff {condition : Condition} {value : Literal} {holds : Bool} :
    (asBool condition value).outcome = .ok holds ↔ value = .bool holds := by
  cases value with
  | bool b => exact ⟨fun h => congrArg Literal.bool (Except.ok.inj h), fun h => by cases h; rfl⟩
  | string s => exact ⟨nofun, nofun⟩
  | number x => exact ⟨nofun, nofun⟩

section Level

variable {part : Step → Expr → EvalRun Literal} {resolve : String → EvalRun Literal}
  {site : Site Origin} {d : Decision Origin} {arm : Arm} {e sub : Expr} {index : Nat}
  {rules cases : List (Expr × Expr)} {otherwise : Option Expr} {value : Literal}

theorem mem_decisions_takeArm {result : Expr} :
    d ∈ (takeArm part site arm result).decisions ↔
      d = ⟨site, arm⟩ ∨ d ∈ (part arm.step result).decisions := by
  simp [takeArm, Run.record]

/-- A decision made at a site itself: the arm that it notes is asked for there. -/
def DecidesHere (site : Site Origin) (selects : Step → Expr → Prop) (d : Decision Origin) : Prop :=
  d.site = site ∧ ∃ sub, selects d.arm.step sub

/-- A decision made in a part that is asked for. -/
def DecidesBelow (part : Step → Expr → EvalRun Literal) (selects : Step → Expr → Prop)
    (d : Decision Origin) : Prop :=
  ∃ step sub, selects step sub ∧ d ∈ (part step sub).decisions

theorem decides_takeArm {selects : Step → Expr → Prop} (hselects : selects arm.step sub)
    (mem : d ∈ (takeArm part site arm sub).decisions) :
    DecidesHere site selects d ∨ DecidesBelow part selects d := by
  rcases mem_decisions_takeArm.mp mem with rfl | mem
  · exact .inl ⟨rfl, sub, hselects⟩
  · exact .inr ⟨arm.step, sub, hselects, mem⟩

theorem decides_mono {selects selects' : Step → Expr → Prop}
    (hmore : ∀ step sub, selects step sub → selects' step sub)
    (h : DecidesHere site selects d ∨ DecidesBelow part selects d) :
    DecidesHere site selects' d ∨ DecidesBelow part selects' d := by
  rcases h with ⟨hsite, sub, hselects⟩ | ⟨step, sub, hselects, mem⟩
  · exact .inl ⟨hsite, sub, hmore _ _ hselects⟩
  · exact .inr ⟨step, sub, hmore _ _ hselects, mem⟩

theorem decides_reduceRules (mem : d ∈ (reduceRules part site index rules otherwise).decisions) :
    DecidesHere site (SelectsRule part index rules otherwise) d ∨
      DecidesBelow part (SelectsRule part index rules otherwise) d := by
  induction rules generalizing index with
  | nil =>
      cases otherwise with
      | none => cases mem
      | some e => exact decides_takeArm .otherwise mem
  | cons rule rest ih =>
      obtain ⟨condition, result⟩ := rule
      rcases Run.mem_decisions_bind.mp mem with mem | ⟨value, hcondition, mem⟩
      · exact .inr ⟨_, condition, .condition, mem⟩
      rcases Run.mem_decisions_bind.mp mem with mem | ⟨holds, hholds, mem⟩
      · simp [decisions_asBool] at mem
      rw [asBool_eq_ok_iff] at hholds
      subst hholds
      cases holds with
      | true => exact decides_takeArm (.result hcondition) mem
      | false => exact decides_mono (fun _ _ => .later hcondition) (ih mem)

theorem decides_reduceCases
    (mem : d ∈ (reduceCases part site value index cases otherwise).decisions) :
    DecidesHere site (SelectsCase part value index cases otherwise) d ∨
      DecidesBelow part (SelectsCase part value index cases otherwise) d := by
  induction cases generalizing index with
  | nil =>
      cases otherwise with
      | none => cases mem
      | some e => exact decides_takeArm .otherwise mem
  | cons case rest ih =>
      obtain ⟨key, result⟩ := case
      rcases Run.mem_decisions_bind.mp mem with mem | ⟨candidate, hkey, mem⟩
      · exact .inr ⟨_, key, .key, mem⟩
      cases hsame : candidate.same value with
      | true =>
          rw [if_pos hsame] at mem
          exact decides_takeArm (.result hkey hsame) mem
      | false =>
          rw [if_neg (by simp [hsame])] at mem
          exact decides_mono (fun _ _ => .later hkey hsame) (ih mem)

/-- A decision of one level is made at the site itself, for an arm that is asked for, or in a
part that is asked for, or where a name leads. -/
theorem decides_reduceLevel (mem : d ∈ (reduceLevel part resolve site e).decisions) :
    (∃ name, e = .reference name ∧ d ∈ (resolve name).decisions) ∨
      DecidesHere site (Selects part e) d ∨ DecidesBelow part (Selects part e) d := by
  cases e with
  | literal value => cases mem
  | reference name => exact .inl ⟨name, rfl, mem⟩
  | ifThenElse condition thenArm elseArm =>
      refine .inr ?_
      rcases Run.mem_decisions_bind.mp mem with mem | ⟨value, hcondition, mem⟩
      · exact .inr ⟨_, condition, .condition, mem⟩
      rcases Run.mem_decisions_bind.mp mem with mem | ⟨holds, hholds, mem⟩
      · simp [decisions_asBool] at mem
      rw [asBool_eq_ok_iff] at hholds
      subst hholds
      cases holds with
      | true => exact decides_takeArm (.thenArm hcondition) mem
      | false => exact decides_takeArm (.elseArm hcondition) mem
  | ruleChain rules otherwise =>
      exact .inr (decides_mono (fun _ _ => .rule) (decides_reduceRules mem))
  | finiteBranch subject cases otherwise =>
      refine .inr ?_
      rcases Run.mem_decisions_bind.mp mem with mem | ⟨value, hsubject, mem⟩
      · exact .inr ⟨_, subject, .subject, mem⟩
      · exact decides_mono (fun _ _ => .case hsubject) (decides_reduceCases mem)

/-! ### The arm that is asked for -/

/-- A branch asks for the result of one arm at most. -/
theorem SelectsRule.arm_unique {part' : Step → Expr → EvalRun Literal} {step step' : Step}
    {sub' : Expr} {arm' : Arm}
    (hvalues : ∀ step sub v v', (part step sub).outcome = .ok v →
      (part' step sub).outcome = .ok v' → v = v')
    (h : SelectsRule part index rules otherwise step sub)
    (h' : SelectsRule part' index rules otherwise step' sub')
    (hstep : step = arm.step) (hstep' : step' = arm'.step) : step = step' := by
  induction h with
  | condition => exact absurd hstep.symm (arm.step_ne_ruleCondition _)
  | result hcondition =>
      cases h' with
      | condition => exact absurd hstep'.symm (arm'.step_ne_ruleCondition _)
      | result _ => rfl
      | later hcondition' _ => cases hvalues _ _ _ _ hcondition hcondition'
  | later hcondition _ ih =>
      cases h' with
      | condition => exact absurd hstep'.symm (arm'.step_ne_ruleCondition _)
      | result hcondition' => cases hvalues _ _ _ _ hcondition hcondition'
      | later _ h' => exact ih h' hstep
  | otherwise =>
      cases h' with
      | otherwise => rfl

theorem SelectsCase.arm_unique {part' : Step → Expr → EvalRun Literal} {step step' : Step}
    {sub' : Expr} {arm' : Arm}
    (hvalues : ∀ step sub v v', (part step sub).outcome = .ok v →
      (part' step sub).outcome = .ok v' → v = v')
    (h : SelectsCase part value index cases otherwise step sub)
    (h' : SelectsCase part' value index cases otherwise step' sub')
    (hstep : step = arm.step) (hstep' : step' = arm'.step) : step = step' := by
  induction h with
  | key => exact absurd hstep.symm (arm.step_ne_caseKey _)
  | result hkey hsame =>
      cases h' with
      | key => exact absurd hstep'.symm (arm'.step_ne_caseKey _)
      | result _ _ => rfl
      | later hkey' hsame' _ =>
          rw [hvalues _ _ _ _ hkey hkey', hsame'] at hsame
          cases hsame
  | later hkey hsame _ ih =>
      cases h' with
      | key => exact absurd hstep'.symm (arm'.step_ne_caseKey _)
      | result hkey' hsame' =>
          rw [hvalues _ _ _ _ hkey hkey', hsame'] at hsame
          cases hsame
      | later _ _ h' => exact ih h' hstep
  | otherwise =>
      cases h' with
      | otherwise => rfl

theorem Selects.arm_unique {part' : Step → Expr → EvalRun Literal} {sub' : Expr} {arm' : Arm}
    (hvalues : ∀ step sub v v', (part step sub).outcome = .ok v →
      (part' step sub).outcome = .ok v' → v = v')
    (h : Selects part e arm.step sub) (h' : Selects part' e arm'.step sub') : arm = arm' := by
  apply Arm.step_injective
  generalize hstep : arm.step = step at h
  generalize hstep' : arm'.step = step' at h'
  cases h with
  | condition => cases arm <;> cases hstep
  | thenArm hcondition =>
      cases h' with
      | condition => cases arm' <;> cases hstep'
      | thenArm _ => rfl
      | elseArm hcondition' => cases hvalues _ _ _ _ hcondition hcondition'
  | elseArm hcondition =>
      cases h' with
      | condition => cases arm' <;> cases hstep'
      | thenArm hcondition' => cases hvalues _ _ _ _ hcondition hcondition'
      | elseArm _ => rfl
  | rule h =>
      cases h' with
      | rule h' => exact h.arm_unique hvalues h' hstep.symm hstep'.symm
  | subject => cases arm <;> cases hstep
  | case hsubject h =>
      cases h' with
      | subject => cases arm' <;> cases hstep'
      | case hsubject' h' =>
          obtain rfl := hvalues _ _ _ _ hsubject hsubject'
          exact h.arm_unique hvalues h' hstep.symm hstep'.symm

/-- A branch that has a value asked for the result of an arm. -/
theorem exists_arm_of_reduceRules_ok
    (h : (reduceRules part site index rules otherwise).outcome = .ok value) :
    ∃ arm sub, SelectsRule part index rules otherwise (Arm.step arm) sub := by
  induction rules generalizing index with
  | nil =>
      cases otherwise with
      | none => cases h
      | some e => exact ⟨.otherwise, e, .otherwise⟩
  | cons rule rest ih =>
      obtain ⟨condition, result⟩ := rule
      obtain ⟨v, hcondition, h⟩ := Run.bind_outcome_ok_iff.mp h
      obtain ⟨holds, hholds, h⟩ := Run.bind_outcome_ok_iff.mp h
      rw [asBool_eq_ok_iff] at hholds
      subst hholds
      cases holds with
      | true => exact ⟨.rule index, result, .result hcondition⟩
      | false =>
          obtain ⟨arm, sub, hselects⟩ := ih h
          exact ⟨arm, sub, .later hcondition hselects⟩

theorem exists_arm_of_reduceCases_ok {result : Literal}
    (h : (reduceCases part site value index cases otherwise).outcome = .ok result) :
    ∃ arm sub, SelectsCase part value index cases otherwise (Arm.step arm) sub := by
  induction cases generalizing index with
  | nil =>
      cases otherwise with
      | none => cases h
      | some e => exact ⟨.otherwise, e, .otherwise⟩
  | cons case rest ih =>
      obtain ⟨key, result'⟩ := case
      obtain ⟨candidate, hkey, h⟩ := Run.bind_outcome_ok_iff.mp h
      cases hsame : candidate.same value with
      | true => exact ⟨.case index, result', .result hkey hsame⟩
      | false =>
          rw [if_neg (by simp [hsame])] at h
          obtain ⟨arm, sub, hselects⟩ := ih h
          exact ⟨arm, sub, .later hkey hsame hselects⟩

theorem exists_arm_of_reduceLevel_ok (hbranch : e.isBranch = true)
    (h : (reduceLevel part resolve site e).outcome = .ok value) :
    ∃ arm sub, Selects part e (Arm.step arm) sub := by
  cases e with
  | literal v => cases hbranch
  | reference name => cases hbranch
  | ifThenElse condition thenArm elseArm =>
      obtain ⟨v, hcondition, h⟩ := Run.bind_outcome_ok_iff.mp h
      obtain ⟨holds, hholds, h⟩ := Run.bind_outcome_ok_iff.mp h
      rw [asBool_eq_ok_iff] at hholds
      subst hholds
      cases holds with
      | true => exact ⟨.thenArm, thenArm, .thenArm hcondition⟩
      | false => exact ⟨.elseArm, elseArm, .elseArm hcondition⟩
  | ruleChain rules otherwise =>
      obtain ⟨arm, sub, hselects⟩ := exists_arm_of_reduceRules_ok h
      exact ⟨arm, sub, .rule hselects⟩
  | finiteBranch subject cases otherwise =>
      obtain ⟨v, hsubject, h⟩ := Run.bind_outcome_ok_iff.mp h
      obtain ⟨arm, sub, hselects⟩ := exists_arm_of_reduceCases_ok h
      exact ⟨arm, sub, .case hsubject hselects⟩

/-! ### How a branch ends in its arm -/

/-- A run ends as another one, after decisions of its own. -/
def Run.EndsAs {δ ε α : Type} (run last : Run δ ε α) : Prop :=
  ∃ before, run = ⟨before ++ last.decisions, last.outcome⟩

theorem Run.EndsAs.refl {δ ε α : Type} (run : Run δ ε α) : run.EndsAs run := ⟨[], rfl⟩

theorem Run.EndsAs.bind {δ ε α β : Type} {run : Run δ ε α} {next : α → Run δ ε β} {v : α}
    {last : Run δ ε β} (hrun : run.outcome = .ok v) (h : (next v).EndsAs last) :
    (run >>= next).EndsAs last := by
  obtain ⟨before, h⟩ := h
  exact ⟨run.decisions ++ before, by rw [bind_of_ok hrun, h, List.append_assoc]⟩

theorem SelectsRule.endsAs {step : Step} (h : SelectsRule part index rules otherwise step sub)
    (hstep : step = arm.step) :
    (reduceRules part site index rules otherwise).EndsAs (takeArm part site arm sub) := by
  induction h with
  | condition => exact absurd hstep.symm (arm.step_ne_ruleCondition _)
  | @result index _ _ _ _ hcondition =>
      obtain rfl : Arm.rule index = arm := Arm.step_injective hstep
      exact .bind hcondition (.refl _)
  | later hcondition _ ih => exact .bind hcondition (ih hstep)
  | otherwise =>
      obtain rfl : Arm.otherwise = arm := Arm.step_injective hstep
      exact .refl _

theorem SelectsCase.endsAs {step : Step}
    (h : SelectsCase part value index cases otherwise step sub) (hstep : step = arm.step) :
    (reduceCases part site value index cases otherwise).EndsAs (takeArm part site arm sub) := by
  induction h with
  | key => exact absurd hstep.symm (arm.step_ne_caseKey _)
  | @result index _ _ _ _ _ hkey hsame =>
      obtain rfl : Arm.case index = arm := Arm.step_injective hstep
      refine .bind hkey ?_
      rw [if_pos hsame]
      exact .refl _
  | later hkey hsame _ ih =>
      refine .bind hkey ?_
      rw [if_neg (by simp [hsame])]
      exact ih hstep
  | otherwise =>
      obtain rfl : Arm.otherwise = arm := Arm.step_injective hstep
      exact .refl _

/-- A branch ends by taking the arm whose result it asks for. -/
theorem Selects.endsAs (h : Selects part e arm.step sub) :
    (reduceLevel part resolve site e).EndsAs (takeArm part site arm sub) := by
  generalize hstep : arm.step = step at h
  cases h with
  | condition => cases arm <;> cases hstep
  | thenArm hcondition =>
      obtain rfl : arm = .thenArm := Arm.step_injective hstep
      exact .bind hcondition (.refl _)
  | elseArm hcondition =>
      obtain rfl : arm = .elseArm := Arm.step_injective hstep
      exact .bind hcondition (.refl _)
  | rule h => exact h.endsAs hstep.symm
  | subject => cases arm <;> cases hstep
  | case hsubject h => exact .bind hsubject (h.endsAs hstep.symm)

end Level

/-! ### The arm that a branch takes -/

section Reduction

variable {context : Context} {limit limit' : Int} {levels levels' : Nat}
  {site site' : Site Origin} {resolving resolving' : List String} {e b : Expr} {arm arm' : Arm}

/-- A value that is found while names are resolved is found without a guard too. -/
theorem reducePlain_ok_of_reduce {value : Literal}
    (h : (reduce context limit levels site resolving e).outcome = .ok value) :
    (reducePlain context limit levels site e).outcome = .ok value := by
  rcases reduce_upTo_reducePlain context limit levels site resolving e with
    heq | ⟨_, error, _, hrun⟩
  · exact heq ▸ h
  · cases h.symm.trans hrun

/-- A value does not depend on the levels that are left, nor on the names that are being
resolved. -/
theorem reduce_ok_unique {value value' : Literal}
    (h : (reduce context limit levels site resolving e).outcome = .ok value)
    (h' : (reduce context limit' levels' site' resolving' e).outcome = .ok value') :
    value = value' :=
  reducePlain_ok_unique (reducePlain_ok_of_reduce h) (reducePlain_ok_of_reduce h')

/-- A value that a part has on the levels that are left is its value where it is asked for. -/
theorem evaluate_ok_of_reduce {value : Literal} {maxDepth : Int}
    (hle : levels ≤ (maxDepth + 1).toNat)
    (h : (reduce context limit levels site resolving e).outcome = .ok value) :
    (evaluate context maxDepth e).outcome = .ok value :=
  evaluate_ok_iff_evaluatePlain.mpr (reducePlain_ok_of_le hle (reducePlain_ok_of_reduce h))

/-- A branch takes an arm in a context: where its parts are reduced, it asks for the result
of the arm. -/
def Takes (context : Context) (b : Expr) (arm : Arm) : Prop :=
  ∃ limit levels site resolving sub,
    Selects (fun step e => reduce context limit levels (Site.child site step) resolving e)
      b arm.step sub

/-- In one context a branch takes one arm at most. -/
theorem Takes.arm_unique (h : Takes context b arm) (h' : Takes context b arm') : arm = arm' := by
  obtain ⟨_, _, _, _, _, hselects⟩ := h
  obtain ⟨_, _, _, _, _, hselects'⟩ := h'
  exact hselects.arm_unique (fun _ _ _ _ hv hv' => reduce_ok_unique hv hv') hselects'

/-- The arm that a branch takes has a result. -/
theorem Takes.exists_result (h : Takes context b arm) :
    ∃ result, b.part? arm.step = some result := by
  obtain ⟨_, _, _, _, result, hselects⟩ := h
  exact ⟨result, Expr.part_eq_some_iff.mpr hselects.mem_parts⟩

/-- Only branches take arms. -/
theorem Takes.isBranch (h : Takes context b arm) : b.isBranch = true := by
  obtain ⟨result, hresult⟩ := h.exists_result
  cases b with
  | literal value => cases hresult
  | reference name => cases hresult
  | ifThenElse _ _ _ | ruleChain _ _ | finiteBranch _ _ _ => rfl

/-- Every decision stands at a branch that takes the arm. -/
theorem takes_of_mem_decisions {asked : Expr} {d : Decision Origin}
    (hstands : standsAt? context asked site = some e)
    (mem : d ∈ (reduce context limit levels site resolving e).decisions) :
    ∃ b, standsAt? context asked d.site = some b ∧ Takes context b d.arm := by
  induction levels generalizing site resolving e with
  | zero => cases mem
  | succ levels ih =>
      rcases decides_reduceLevel mem with ⟨name, rfl, hname⟩ | ⟨rfl, sub, hselects⟩ |
        ⟨step, sub, hselects, hpart⟩
      · split at hname
        · cases hname
        · unfold followBinding at hname
          split at hname
          · cases hname
          · next bound hbound => exact ih (standsAt?_binding asked hbound) hname
      · exact ⟨e, hstands, limit, levels, d.site, resolving, sub, hselects⟩
      · exact ih (standsAt?_child hstands hselects.mem_parts) hpart

theorem takes_of_evaluate {maxDepth : Int} {d : Decision Origin}
    (mem : d ∈ (evaluate context maxDepth e).decisions) :
    ∃ b, standsAt? context e d.site = some b ∧ Takes context b d.arm :=
  takes_of_mem_decisions rfl mem

end Reduction

/-! ### Nodes -/

/-- The arm most recently taken by a node, given which node stands at each site. -/
def Trace.selectionOf? {ω ν : Type} [DecidableEq ν] (trace : Trace ω) (nodeAt : Site ω → ν)
    (node : ν) : Option Arm :=
  (trace.reverse.find? (fun d => decide (nodeAt d.site = node))).map (·.arm)

/-- With each site for a node of its own, the selection of a node is that of the site. -/
theorem Trace.selectionOf?_id {ω : Type} [DecidableEq ω] (trace : Trace ω) (site : Site ω) :
    trace.selectionOf? id site = trace.selection? site := rfl

/-- Where all decisions of a node are for one arm, that is its selection. -/
theorem Trace.selectionOf?_eq_some {ω ν : Type} [DecidableEq ν] {trace : Trace ω}
    {nodeAt : Site ω → ν} {d : Decision ω} (mem : d ∈ trace)
    (h : ∀ d' ∈ trace, nodeAt d'.site = nodeAt d.site → d'.arm = d.arm) :
    trace.selectionOf? nodeAt (nodeAt d.site) = some d.arm := by
  have hfound :
      (trace.reverse.find? (fun d' => decide (nodeAt d'.site = nodeAt d.site))).isSome := by
    rw [List.find?_isSome]
    exact ⟨d, List.mem_reverse.mpr mem, by simp⟩
  obtain ⟨found, hfound⟩ := Option.isSome_iff_exists.mp hfound
  have hnode : nodeAt found.site = nodeAt d.site := by simpa using List.find?_some hfound
  have hmem := List.mem_reverse.mp (List.mem_of_find?_eq_some hfound)
  exact Option.map_eq_some_iff.mpr ⟨found, hfound, h found hmem hnode⟩

/-- One expression is what a node is: it stands at two sites only if the same expression does. -/
def OneExprPerNode {ω ν : Type} (stands? : Site ω → Option Expr) (nodeAt : Site ω → ν) : Prop :=
  ∀ site site' b b', stands? site = some b → stands? site' = some b' →
    nodeAt site' = nodeAt site → b' = b

/-- The branches in the trees of some origins are nodes of their own: a branch at another site
is another node. -/
def OwnNodes {ω ν : Type} (stands? : Site ω → Option Expr) (nodeAt : Site ω → ν)
    (own : ω → Prop) : Prop :=
  ∀ site site' b b', own site.origin → stands? site = some b → b.isBranch = true →
    stands? site' = some b' → b'.isBranch = true → nodeAt site' = nodeAt site → site' = site

end Rulebook
