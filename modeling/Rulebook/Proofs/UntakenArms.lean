import Rulebook.Proofs.Decisions

/-!
Arms that are not taken are irrelevant.

Two branches share an arm if both ask for the same before it and both have the same result
there (`Expr.SharesArm`). Where one of them takes the arm, each of its conditions that has
a value has the one that leads there, and so both are the same run on all levels
(`Expr.SharesArm.reduce_eq`). A run does not see which of two such parts an expression has
(`reduce_replaceAt`).
-/

namespace Rulebook

namespace Expr

/-! ### Other parts -/

/-- The expression with another part under a step, if it has a part there. -/
def setPart (e : Expr) (step : Step) (new : Expr) : Expr :=
  match step, e with
  | .condition, .ifThenElse _ t f => .ifThenElse new t f
  | .thenArm, .ifThenElse c _ f => .ifThenElse c new f
  | .elseArm, .ifThenElse c t _ => .ifThenElse c t new
  | .ruleCondition i, .ruleChain rules o =>
    .ruleChain (rules.modify i fun rule => (new, rule.2)) o
  | .ruleResult i, .ruleChain rules o => .ruleChain (rules.modify i fun rule => (rule.1, new)) o
  | .subject, .finiteBranch _ cases o => .finiteBranch new cases o
  | .caseKey i, .finiteBranch s cases o =>
    .finiteBranch s (cases.modify i fun case => (new, case.2)) o
  | .caseResult i, .finiteBranch s cases o =>
    .finiteBranch s (cases.modify i fun case => (case.1, new)) o
  | .otherwise, .ruleChain rules (some _) => .ruleChain rules (some new)
  | .otherwise, .finiteBranch s cases (some _) => .finiteBranch s cases (some new)
  | _, e => e

/-- The expression with another one at a place, if it has that place. -/
def replaceAt (e : Expr) : Path → Expr → Expr
  | [], new => new
  | step :: path, new =>
    match e.part? step with
    | none => e
    | some sub => e.setPart step (sub.replaceAt path new)

/-! ### Branches that share an arm -/

/-- Two branches share an arm: both ask for the same before it and have the same result
there. The results of other arms, and whatever comes after a rule or a case, may differ. -/
inductive SharesArm : Arm → Expr → Expr → Prop where
  | thenArm {c t f f' : Expr} : SharesArm .thenArm (.ifThenElse c t f) (.ifThenElse c t f')
  | elseArm {c t t' f : Expr} : SharesArm .elseArm (.ifThenElse c t f) (.ifThenElse c t' f)
  | rule {before before' after after' : List (Expr × Expr)} {rule : Expr × Expr}
      {o o' : Option Expr} : before.map (·.1) = before'.map (·.1) →
      SharesArm (.rule before.length) (.ruleChain (before ++ rule :: after) o)
        (.ruleChain (before' ++ rule :: after') o')
  | ruleOtherwise {rules rules' : List (Expr × Expr)} {e : Expr} :
      rules.map (·.1) = rules'.map (·.1) →
      SharesArm .otherwise (.ruleChain rules (some e)) (.ruleChain rules' (some e))
  | case {s : Expr} {before before' after after' : List (Expr × Expr)} {case : Expr × Expr}
      {o o' : Option Expr} : before.map (·.1) = before'.map (·.1) →
      SharesArm (.case before.length) (.finiteBranch s (before ++ case :: after) o)
        (.finiteBranch s (before' ++ case :: after') o')
  | caseOtherwise {s : Expr} {cases cases' : List (Expr × Expr)} {e : Expr} :
      cases.map (·.1) = cases'.map (·.1) →
      SharesArm .otherwise (.finiteBranch s cases (some e)) (.finiteBranch s cases' (some e))

end Expr

/-- A run that goes on depends only on how it goes on from its value. -/
theorem Run.bind_congr_of_ok {δ ε α β : Type} {run : Run δ ε α} {next next' : α → Run δ ε β}
    (h : ∀ value, run.outcome = .ok value → next value = next' value) :
    (run >>= next) = (run >>= next') := by
  cases hrun : run.outcome with
  | ok value => rw [bind_of_ok hrun, bind_of_ok hrun, h value hrun]
  | error error => rw [bind_of_error hrun, bind_of_error hrun]

/-! ### One level -/

/-- A part of the pairs from an index on, or of the fallback, is known by its step. -/
theorem Expr.step_of_mem_rest {first second : Nat → Step} {index : Nat}
    {pairs : List (Expr × Expr)} {otherwise : Option Expr} {step : Step} {sub : Expr}
    (mem : (step, sub) ∈ pairParts first second index pairs ++ fallbackPart otherwise) :
    step = .otherwise ∨ ∃ i, index ≤ i ∧ (step = first i ∨ step = second i) := by
  rcases List.mem_append.mp mem with mem | mem
  · exact .inr (exists_index_of_mem_pairParts mem)
  · cases otherwise with
    | none => cases mem
    | some e => exact .inl (Prod.mk.inj (List.mem_singleton.mp mem)).1

section Level

variable {part part' : Step → Expr → EvalRun Literal} {resolve : String → EvalRun Literal}
  {site : Site Origin} {e sub : Expr} {step : Step} {arm : Arm} {index : Nat}
  {rule case : Expr × Expr} {before before' rest rest' : List (Expr × Expr)}
  {otherwise otherwise' : Option Expr} {value : Literal}
  (hvalues : ∀ step sub v v', (part step sub).outcome = .ok v →
    (part' step sub).outcome = .ok v' → v = v')
include hvalues

/-- Rules whose conditions do not hold are passed over, whatever their results are and
whatever comes after them. -/
theorem reduceRules_passOver (hbefore : before.map (·.1) = before'.map (·.1))
    (hpassed : ∀ i < index + before.length, arm ≠ .rule i)
    (h : SelectsRule part index (before ++ rest) otherwise arm.step sub)
    (hrest : SelectsRule part (index + before.length) rest otherwise arm.step sub →
      reduceRules part' site (index + before.length) rest otherwise =
        reduceRules part' site (index + before.length) rest' otherwise') :
    reduceRules part' site index (before ++ rest) otherwise =
      reduceRules part' site index (before' ++ rest') otherwise' := by
  induction before generalizing index before' with
  | nil =>
      obtain rfl := List.map_eq_nil_iff.mp hbefore.symm
      exact hrest h
  | cons rule before ih =>
      obtain ⟨⟨condition, result'⟩, before', rfl, hcondition, htail⟩ :=
        List.map_eq_cons_iff.mp hbefore.symm
      obtain ⟨_, result⟩ := rule
      obtain rfl : condition = _ := hcondition
      have hlength : index + (before.length + 1) = index + 1 + before.length := by omega
      rw [List.length_cons, hlength] at hpassed hrest
      generalize hstep : arm.step = taken at h
      cases h with
      | condition => exact absurd hstep (arm.step_ne_ruleCondition _)
      | result _ =>
          have harm : arm = .rule index := Arm.step_injective hstep
          exact absurd harm (hpassed index (by omega))
      | later hfalse h =>
          subst hstep
          refine Run.bind_congr_of_ok fun v hv => ?_
          obtain rfl := hvalues _ _ _ _ hfalse hv
          exact ih htail.symm hpassed h hrest

theorem reduceCases_passOver (hbefore : before.map (·.1) = before'.map (·.1))
    (hpassed : ∀ i < index + before.length, arm ≠ .case i)
    (h : SelectsCase part value index (before ++ rest) otherwise arm.step sub)
    (hrest : SelectsCase part value (index + before.length) rest otherwise arm.step sub →
      reduceCases part' site value (index + before.length) rest otherwise =
        reduceCases part' site value (index + before.length) rest' otherwise') :
    reduceCases part' site value index (before ++ rest) otherwise =
      reduceCases part' site value index (before' ++ rest') otherwise' := by
  induction before generalizing index before' with
  | nil =>
      obtain rfl := List.map_eq_nil_iff.mp hbefore.symm
      exact hrest h
  | cons case before ih =>
      obtain ⟨⟨key, result'⟩, before', rfl, hkey, htail⟩ :=
        List.map_eq_cons_iff.mp hbefore.symm
      obtain ⟨_, result⟩ := case
      obtain rfl : key = _ := hkey
      have hlength : index + (before.length + 1) = index + 1 + before.length := by omega
      rw [List.length_cons, hlength] at hpassed hrest
      generalize hstep : arm.step = taken at h
      cases h with
      | key => exact absurd hstep (arm.step_ne_caseKey _)
      | result _ _ =>
          have harm : arm = .case index := Arm.step_injective hstep
          exact absurd harm (hpassed index (by omega))
      | later hother hfalse h =>
          subst hstep
          refine Run.bind_congr_of_ok fun v hv => ?_
          obtain rfl := hvalues _ _ _ _ hother hv
          rw [if_neg (by simp [hfalse]), if_neg (by simp [hfalse])]
          exact ih htail.symm hpassed h hrest

/-- The rule whose result is asked for is the end of its chain. -/
theorem reduceRules_taken
    (h : SelectsRule part index (rule :: rest) otherwise (.ruleResult index) sub) :
    reduceRules part' site index (rule :: rest) otherwise =
      reduceRules part' site index (rule :: rest') otherwise' := by
  cases h with
  | result htrue =>
      refine Run.bind_congr_of_ok fun v hv => ?_
      obtain rfl := hvalues _ _ _ _ htrue hv
      rfl
  | later _ h =>
      -- No later rule has a step of this one.
      obtain hstep | ⟨i, hi, hstep | hstep⟩ := Expr.step_of_mem_rest h.mem_parts
      · cases hstep
      · cases hstep
      · cases hstep
        omega

theorem reduceCases_taken
    (h : SelectsCase part value index (case :: rest) otherwise (.caseResult index) sub) :
    reduceCases part' site value index (case :: rest) otherwise =
      reduceCases part' site value index (case :: rest') otherwise' := by
  cases h with
  | result hkey hsame =>
      refine Run.bind_congr_of_ok fun v hv => ?_
      obtain rfl := hvalues _ _ _ _ hkey hv
      rw [if_pos hsame, if_pos hsame]
  | later _ _ h =>
      obtain hstep | ⟨i, hi, hstep | hstep⟩ := Expr.step_of_mem_rest h.mem_parts
      · cases hstep
      · cases hstep
      · cases hstep
        omega

/-- Two branches that share the arm that is asked for are the same run. -/
theorem Expr.SharesArm.reduceLevel_eq {e' : Expr} (hshares : e.SharesArm arm e')
    (h : Selects part e arm.step sub) :
    reduceLevel part' resolve site e = reduceLevel part' resolve site e' := by
  cases hshares with
  | thenArm =>
      cases h with
      | thenArm hcondition =>
          refine Run.bind_congr_of_ok fun v hv => ?_
          obtain rfl := hvalues _ _ _ _ hcondition hv
          rfl
  | elseArm =>
      cases h with
      | elseArm hcondition =>
          refine Run.bind_congr_of_ok fun v hv => ?_
          obtain rfl := hvalues _ _ _ _ hcondition hv
          rfl
  | @rule before _ _ _ _ _ _ hbefore =>
      have hpassed : ∀ i < 0 + before.length, Arm.rule before.length ≠ .rule i := by
        intro i hi heq
        have := Arm.rule.inj heq
        omega
      cases h with
      | rule h =>
          refine reduceRules_passOver hvalues hbefore hpassed h fun h => ?_
          rw [Nat.zero_add] at h ⊢
          exact reduceRules_taken hvalues h
  | @ruleOtherwise rules rules' _ hrules =>
      have hpassed : ∀ i < 0 + rules.length, Arm.otherwise ≠ .rule i := nofun
      cases h with
      | rule h =>
          rw [← List.append_nil rules] at h ⊢
          rw [← List.append_nil rules']
          exact reduceRules_passOver hvalues hrules hpassed h fun _ => rfl
  | @case _ before _ _ _ _ _ _ hbefore =>
      have hpassed : ∀ i < 0 + before.length, Arm.case before.length ≠ .case i := by
        intro i hi heq
        have := Arm.case.inj heq
        omega
      cases h with
      | case hsubject h =>
          refine Run.bind_congr_of_ok fun v hv => ?_
          obtain rfl := hvalues _ _ _ _ hsubject hv
          refine reduceCases_passOver hvalues hbefore hpassed h fun h => ?_
          rw [Nat.zero_add] at h ⊢
          exact reduceCases_taken hvalues h
  | @caseOtherwise _ cases cases' _ hcases =>
      have hpassed : ∀ i < 0 + cases.length, Arm.otherwise ≠ .case i := nofun
      cases h with
      | case hsubject h =>
          refine Run.bind_congr_of_ok fun v hv => ?_
          obtain rfl := hvalues _ _ _ _ hsubject hv
          rw [← List.append_nil cases] at h ⊢
          rw [← List.append_nil cases']
          exact reduceCases_passOver hvalues hcases hpassed h fun _ => rfl

end Level

/-! ### Other parts at a place -/

theorem Expr.mem_pairParts_of_getElem? (first second : Nat → Step) (index : Nat)
    {pairs : List (Expr × Expr)} {i : Nat} {pair : Expr × Expr} (h : pairs[i]? = some pair) :
    (first (index + i), pair.1) ∈ pairParts first second index pairs ∧
      (second (index + i), pair.2) ∈ pairParts first second index pairs := by
  induction pairs generalizing index i with
  | nil => cases h
  | cons other rest ih =>
      obtain ⟨a, b⟩ := other
      cases i with
      | zero =>
          cases h
          simp [pairParts]
      | succ i =>
          rw [List.getElem?_cons_succ] at h
          have hrest := ih (index + 1) h
          rw [Nat.succ_add_eq_add_succ] at hrest
          exact ⟨List.mem_cons_of_mem _ (List.mem_cons_of_mem _ hrest.1),
            List.mem_cons_of_mem _ (List.mem_cons_of_mem _ hrest.2)⟩

theorem Expr.mem_parts_of_rule {rules : List (Expr × Expr)} {i : Nat} {rule : Expr × Expr}
    (h : rules[i]? = some rule) (o : Option Expr) :
    (.ruleCondition i, rule.1) ∈ (ruleChain rules o).parts ∧
      (.ruleResult i, rule.2) ∈ (ruleChain rules o).parts := by
  have mem := mem_pairParts_of_getElem? .ruleCondition .ruleResult 0 h
  rw [Nat.zero_add] at mem
  exact ⟨List.mem_append_left _ mem.1, List.mem_append_left _ mem.2⟩

theorem Expr.mem_parts_of_case (s : Expr) {cases : List (Expr × Expr)} {i : Nat}
    {case : Expr × Expr} (h : cases[i]? = some case) (o : Option Expr) :
    (.caseKey i, case.1) ∈ (finiteBranch s cases o).parts ∧
      (.caseResult i, case.2) ∈ (finiteBranch s cases o).parts := by
  have mem := mem_pairParts_of_getElem? .caseKey .caseResult 0 h
  rw [Nat.zero_add] at mem
  exact ⟨List.mem_cons_of_mem _ (List.mem_append_left _ mem.1),
    List.mem_cons_of_mem _ (List.mem_append_left _ mem.2)⟩

section Parts

variable {part : Step → Expr → EvalRun Literal} {resolve : String → EvalRun Literal}
  {site : Site Origin} {value : Literal}

/-- Other parts in one pair, which are the same runs, make the same run. -/
theorem reduceRules_modify {change : Expr × Expr → Expr × Expr} {rules : List (Expr × Expr)}
    {i : Nat} (h : ∀ rule, rules[i]? = some rule → ∀ step,
      part step (change rule).1 = part step rule.1 ∧ part step (change rule).2 = part step rule.2)
    (index : Nat) (otherwise : Option Expr) :
    reduceRules part site index (rules.modify i change) otherwise =
      reduceRules part site index rules otherwise := by
  induction rules generalizing i index with
  | nil => rw [List.modify_nil]
  | cons rule rest ih =>
      obtain ⟨condition, result⟩ := rule
      cases i with
      | zero =>
          have hparts := h _ rfl
          simp only [List.modify_zero_cons, reduceRules, takeArm, hparts]
      | succ i =>
          rw [List.modify_succ_cons]
          simp only [reduceRules, ih (fun rule hrule => h rule hrule)]

theorem reduceCases_modify {change : Expr × Expr → Expr × Expr} {cases : List (Expr × Expr)}
    {i : Nat} (h : ∀ case, cases[i]? = some case → ∀ step,
      part step (change case).1 = part step case.1 ∧ part step (change case).2 = part step case.2)
    (index : Nat) (otherwise : Option Expr) :
    reduceCases part site value index (cases.modify i change) otherwise =
      reduceCases part site value index cases otherwise := by
  induction cases generalizing i index with
  | nil => rw [List.modify_nil]
  | cons case rest ih =>
      obtain ⟨key, result⟩ := case
      cases i with
      | zero =>
          have hparts := h _ rfl
          simp only [List.modify_zero_cons, reduceCases, takeArm, hparts]
      | succ i =>
          rw [List.modify_succ_cons]
          simp only [reduceCases, ih (fun case hcase => h case hcase)]

/-- Another fallback, which is the same run, makes the same run. -/
theorem reduceRules_otherwise {e new : Expr} (h : part .otherwise new = part .otherwise e)
    (index : Nat) (rules : List (Expr × Expr)) :
    reduceRules part site index rules (some new) = reduceRules part site index rules (some e) := by
  induction rules generalizing index with
  | nil => simp only [reduceRules, takeArm, Arm.step, h]
  | cons rule rest ih => simp only [reduceRules, ih]

theorem reduceCases_otherwise {e new : Expr} (h : part .otherwise new = part .otherwise e)
    (index : Nat) (cases : List (Expr × Expr)) :
    reduceCases part site value index cases (some new) =
      reduceCases part site value index cases (some e) := by
  induction cases generalizing index with
  | nil => simp only [reduceCases, takeArm, Arm.step, h]
  | cons case rest ih => simp only [reduceCases, ih]

/-- Another part, which is the same run, makes the same run. -/
theorem reduceLevel_setPart {e sub new : Expr} {step : Step} (hsub : e.part? step = some sub)
    (h : ∀ step, part step new = part step sub) :
    reduceLevel part resolve site (e.setPart step new) = reduceLevel part resolve site e := by
  have hnew : ∀ old, (step, old) ∈ e.parts → ∀ step, part step new = part step old := by
    intro old mem
    rw [Option.some.inj ((Expr.part_eq_some_iff.mpr mem).symm.trans hsub)]
    exact h
  cases e with
  | literal v => cases step <;> rfl
  | reference name => cases step <;> rfl
  | ifThenElse c t f =>
      cases step with
      | condition => simp only [Expr.setPart, reduceLevel, hnew c (by simp [Expr.parts])]
      | thenArm => simp only [Expr.setPart, reduceLevel, takeArm, hnew t (by simp [Expr.parts])]
      | elseArm => simp only [Expr.setPart, reduceLevel, takeArm, hnew f (by simp [Expr.parts])]
      | _ => rfl
  | ruleChain rules o =>
      cases step with
      | ruleCondition i =>
          refine reduceRules_modify ?_ 0 o
          intro rule hrule step
          exact ⟨hnew _ (Expr.mem_parts_of_rule hrule o).1 step, rfl⟩
      | ruleResult i =>
          refine reduceRules_modify ?_ 0 o
          intro rule hrule step
          exact ⟨rfl, hnew _ (Expr.mem_parts_of_rule hrule o).2 step⟩
      | otherwise =>
          cases o with
          | none => rfl
          | some e =>
              have hfallback := hnew e (by simp [Expr.parts, Expr.fallbackPart])
              exact reduceRules_otherwise (hfallback _) 0 rules
      | _ => rfl
  | finiteBranch s cases o =>
      cases step with
      | subject => simp only [Expr.setPart, reduceLevel, hnew s (by simp [Expr.parts])]
      | caseKey i =>
          refine Run.bind_congr_of_ok fun v _ => reduceCases_modify ?_ 0 o
          intro case hcase step
          exact ⟨hnew _ (Expr.mem_parts_of_case s hcase o).1 step, rfl⟩
      | caseResult i =>
          refine Run.bind_congr_of_ok fun v _ => reduceCases_modify ?_ 0 o
          intro case hcase step
          exact ⟨rfl, hnew _ (Expr.mem_parts_of_case s hcase o).2 step⟩
      | otherwise =>
          cases o with
          | none => rfl
          | some e =>
              refine Run.bind_congr_of_ok fun v _ => ?_
              have hfallback := hnew e (by simp [Expr.parts, Expr.fallbackPart])
              exact reduceCases_otherwise (hfallback _) 0 cases
      | _ => rfl

end Parts

section Evaluation

variable {context : Context} {e b b' : Expr} {arm : Arm}

/-- Where one of two branches takes an arm that they share, both are the same run on all
levels. -/
theorem Expr.SharesArm.reduce_eq (hshares : b.SharesArm arm b') (htakes : Takes context b arm)
    (limit : Int) (levels : Nat) (site : Site Origin) (resolving : List String) :
    reduce context limit levels site resolving b' =
      reduce context limit levels site resolving b := by
  cases levels with
  | zero => rfl
  | succ levels =>
      obtain ⟨_, _, _, _, _, hselects⟩ := htakes
      exact (hshares.reduceLevel_eq (fun _ _ _ _ hv hv' => reduce_ok_unique hv hv') hselects).symm

/-- An expression with another one at a place, which is the same run, is the same run. -/
theorem reduce_replaceAt (hsame : ∀ limit levels site resolving,
      reduce context limit levels site resolving b' = reduce context limit levels site resolving b)
    {path : Path} (hat : e.at? path = some b)
    (limit : Int) (levels : Nat) (site : Site Origin) (resolving : List String) :
    reduce context limit levels site resolving (e.replaceAt path b') =
      reduce context limit levels site resolving e := by
  induction path generalizing e levels site with
  | nil =>
      cases hat
      exact hsame limit levels site resolving
  | cons step path ih =>
      obtain ⟨sub, hsub, hat⟩ := Option.bind_eq_some_iff.mp hat
      simp only [Expr.replaceAt, hsub]
      cases levels with
      | zero => rfl
      | succ levels =>
          exact reduceLevel_setPart hsub fun step => ih hat levels (site.child step)

/-- **Arms that are not taken are irrelevant.** Where an evaluation takes an arm of a branch
of the expression, ending with a value or with an error, the results of all other arms of the
branch and, in a chain or a dispatch, whatever comes after the rule or the case that is
taken, may be replaced by arbitrary expressions: the evaluation makes the same decisions and
has the same outcome. So it does in whatever other expression the branch stands, under every
limit; in one that has it in several places it may be replaced in one after another. -/
theorem arms_not_taken_irrelevant (context : Context) (e : Expr) (maxDepth : Int) (path : Path)
    (b b' : Expr) (arm : Arm) (hat : e.at? path = some b)
    (hdecided : ⟨⟨.subject, path⟩, arm⟩ ∈ (evaluate context maxDepth e).decisions)
    (hshares : b.SharesArm arm b') :
    evaluate context maxDepth (e.replaceAt path b') = evaluate context maxDepth e ∧
    ∀ other place, other.at? place = some b → ∀ limit,
      evaluate context limit (other.replaceAt place b') = evaluate context limit other := by
  obtain ⟨taking, hstands, htakes⟩ := takes_of_evaluate hdecided
  obtain rfl : taking = b := Option.some.inj (hstands.symm.trans hat)
  have hother : ∀ other place, other.at? place = some taking → ∀ limit,
      evaluate context limit (other.replaceAt place b') = evaluate context limit other :=
    fun other place hplace limit => reduce_replaceAt (hshares.reduce_eq htakes) hplace _ _ _ _
  exact ⟨hother e path hat maxDepth, hother⟩

/-- A chain whose second rule leads to the clerk if the case is urgent. -/
def clerkRules (first : Expr) (later : List (Expr × Expr)) : Expr :=
  .ruleChain ((.literal (.bool false), first) :: (.reference "urgent", .reference "clerk") :: later)
    none

/-- What is done with a case if it is urgent, or else. -/
def handling (urgently : Expr) : Expr :=
  .ifThenElse (.reference "urgent") urgently (.literal (.string "queue"))

/-- The case is urgent, and there is no clerk. -/
def urgentContext : Context := [("urgent", .literal (.bool true))]

/-- The evaluation fails in the second rule, whatever the first one leads to and whatever
comes after the second one. -/
theorem urgent_case_fails_alike :
    ⟨⟨.subject, [.thenArm]⟩, .rule 1⟩ ∈
      (evaluate urgentContext 3 (handling (clerkRules (.literal (.bool true)) []))).decisions ∧
    (evaluate urgentContext 3 (handling (clerkRules (.literal (.bool true)) []))).outcome =
      .error (.unbound "clerk") ∧
    ∀ first later, evaluate urgentContext 3 (handling (clerkRules first later)) =
      evaluate urgentContext 3 (handling (clerkRules (.literal (.bool true)) [])) := by
  have hdecided : ⟨⟨.subject, [.thenArm]⟩, .rule 1⟩ ∈
      (evaluate urgentContext 3 (handling (clerkRules (.literal (.bool true)) []))).decisions := by
    decide
  refine ⟨hdecided, rfl, fun first later => ?_⟩
  have hshares : (clerkRules (.literal (.bool true)) []).SharesArm (.rule 1)
      (clerkRules first later) :=
    @Expr.SharesArm.rule [(.literal (.bool false), .literal (.bool true))]
      [(.literal (.bool false), first)] [] later _ none none rfl
  exact (arms_not_taken_irrelevant urgentContext _ 3 [.thenArm] _ _ _ rfl hdecided hshares).1

end Evaluation

end Rulebook
