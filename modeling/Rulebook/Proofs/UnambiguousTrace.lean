import Rulebook.Proofs.DecidedOnce
import Rulebook.Proofs.MemberLists
import Rulebook.Proofs.ScopeRun

/-!
Traces are unambiguous.

One node may stand at several sites, and one site may be met many times; but what stands at
a site takes one arm at most (`Takes.arm_unique`), so all decisions of a node are the same.
In the tree that is asked for no site is met twice: parts are asked for under different
steps, each at most once (`reduce_decidesOnce`). A scope asks for each of its calculations
once, and what it binds are literals, so that names never lead to a calculation
(`Scope.takes_of_evaluate`, `Scope.nodup_places_of_evaluate`).
-/

namespace Rulebook

/-! ### Scopes -/

/-- The tree that an origin is, where a scope is evaluated in a context. -/
def ScopeOrigin.tree? (context : Context) (scope : Scope) : ScopeOrigin → Option Expr
  | .calculation name => scope.calculation? name
  | .binding name => Members.get? context name

namespace Scope

/-- What stands at a site, where a scope is evaluated in a context of the caller. -/
def standsAt? (context : Context) (scope : Scope) (site : Site ScopeOrigin) : Option Expr :=
  (site.origin.tree? context scope).bind (·.at? site.path)

section Calculations

variable {maxDepth : Int} (tree? : ScopeOrigin → Option Expr) {working : Context} {name : String}
  {e : Expr} {d : Decision ScopeOrigin}

/-- A decision of a calculation stands in its tree, or in a tree that is bound. -/
theorem takes_of_runCalculation (hcalculation : tree? (.calculation name) = some e)
    (hworking : ∀ name bound, Members.get? working name = some bound →
      tree? (.binding name) = some bound ∨ ∃ value, bound = .literal value)
    (mem : d ∈ (runCalculation working maxDepth name e).decisions) :
    ∃ b, (tree? d.site.origin).bind (·.at? d.site.path) = some b ∧ Takes working b d.arm := by
  obtain ⟨made, hmade, rfl⟩ := List.mem_map.mp mem
  obtain ⟨b, hstands, htakes⟩ := Rulebook.takes_of_evaluate hmade
  refine ⟨b, ?_, htakes⟩
  obtain ⟨tree, htree, hat⟩ := Option.bind_eq_some_iff.mp hstands
  refine Option.bind_eq_some_iff.mpr ⟨tree, ?_, hat⟩
  cases horigin : made.site.origin with
  | subject =>
      simp only [horigin, Origin.tree?] at htree
      cases htree
      simpa only [originIn] using hcalculation
  | binding other =>
      simp only [horigin, Origin.tree?] at htree
      rcases hworking other tree htree with hbound | ⟨value, rfl⟩
      · simpa only [originIn] using hbound
      · obtain ⟨result, hresult⟩ := htakes.exists_result
        -- A literal has no branch in it.
        cases path : made.site.path with
        | nil =>
            simp only [path, Expr.at?, Option.some.injEq] at hat
            subst hat
            cases hresult
        | cons step rest =>
            rw [path] at hat
            cases hat

theorem takes_of_runCalculations {calculations : List (String × Expr)}
    (hcalculations : ∀ calculation ∈ calculations,
      tree? (.calculation calculation.1) = some calculation.2)
    (hworking : ∀ name bound, Members.get? working name = some bound →
      tree? (.binding name) = some bound ∨ ∃ value, bound = .literal value)
    (mem : d ∈ (runCalculations maxDepth working calculations).decisions) :
    ∃ b context, (tree? d.site.origin).bind (·.at? d.site.path) = some b ∧
      Takes context b d.arm := by
  induction calculations generalizing working with
  | nil => cases mem
  | cons calculation rest ih =>
      obtain ⟨name, e⟩ := calculation
      obtain ⟨hfirst, hrest⟩ := List.forall_mem_cons.mp hcalculations
      rcases Run.mem_decisions_bind.mp mem with hmade | ⟨value, _, hmade⟩
      · obtain ⟨b, hb⟩ := takes_of_runCalculation tree? hfirst hworking hmade
        exact ⟨b, working, hb⟩
      · refine ih hrest (fun other bound hbound => ?_) hmade
        rw [Members.get?_put] at hbound
        split at hbound
        · exact .inr ⟨value, (Option.some.inj hbound).symm⟩
        · exact hworking other bound hbound

/-- A calculation decides in its own tree what its evaluation decides there, and nothing in the
tree of another one. -/
theorem within_runCalculation (other : String) :
    Trace.within (runCalculation working maxDepth name e).decisions (.calculation other) =
      if name = other then Trace.within (Rulebook.evaluate working maxDepth e).decisions .subject
      else [] := by
  simp only [Trace.within, runCalculation, Run.decisions_mapBoth, List.filterMap_map]
  by_cases h : name = other
  · rw [if_pos h]
    refine List.filterMap_congr fun made _ => ?_
    cases horigin : made.site.origin <;> simp [originIn, h, horigin]
  · rw [if_neg h, List.filterMap_eq_nil_iff]
    intro made _
    cases horigin : made.site.origin <;> simp [originIn, h, horigin]

/-- Calculations of different names decide at most once in each place of their trees. -/
theorem nodup_of_runCalculations {calculations : List (String × Expr)}
    (hnames : (Members.names calculations).Nodup) (other : String) :
    ((Trace.within (runCalculations maxDepth working calculations).decisions
      (.calculation other)).map (·.1)).Nodup ∧
    (other ∉ Members.names calculations →
      Trace.within (runCalculations maxDepth working calculations).decisions
        (.calculation other) = []) := by
  induction calculations generalizing working with
  | nil => exact ⟨List.nodup_nil, fun _ => rfl⟩
  | cons calculation rest ih =>
      obtain ⟨name, e⟩ := calculation
      obtain ⟨hfirst, hrest⟩ := List.nodup_cons.mp hnames
      obtain ⟨later, hrun, hlater⟩ := Run.exists_within_bind
        (runCalculation working maxDepth name e)
        (fun value => runCalculations maxDepth (Members.put working name (.literal value)) rest)
        (.calculation other)
      rw [within_runCalculation] at hrun
      rw [runCalculations, hrun]
      by_cases h : name = other
      · subst h
        have hnothing : later = [] := by
          rcases hlater with hnil | ⟨value, rfl⟩
          · exact hnil
          · exact (ih hrest).2 hfirst
        rw [if_pos rfl, hnothing, List.append_nil]
        exact ⟨nodup_places_of_evaluate working maxDepth e,
          fun hnot => absurd List.mem_cons_self hnot⟩
      · rw [if_neg h, List.nil_append]
        rcases hlater with rfl | ⟨value, rfl⟩
        · exact ⟨List.nodup_nil, fun _ => rfl⟩
        · exact ⟨(ih hrest).1, fun hnot => (ih hrest).2 (List.not_mem_of_not_mem_cons hnot)⟩

end Calculations

section Evaluation

variable {context : Context} {maxDepth : Int} {scope : Scope}

/-- The decisions of a scope are those of its calculations, if it comes to them. -/
theorem decisions_evaluate (context : Context) (maxDepth : Int) (scope : Scope) :
    (scope.evaluate context maxDepth).decisions = [] ∨
      (scope.evaluate context maxDepth).decisions =
        (runCalculations maxDepth context scope.calculations).decisions := by
  have hpublish : ∀ run : ScopeRun Context,
      (run >>= fun final => pure (publish scope.outputs final)).decisions = run.decisions := by
    intro run
    cases hrun : run.outcome with
    | error error => rw [Run.bind_of_error hrun]
    | ok final =>
        rw [Run.bind_of_ok hrun]
        exact List.append_nil _
  cases hvalid : scope.validate context maxDepth with
  | error error => exact .inl (by rw [evaluate, hvalid]; rfl)
  | ok _ => exact .inr (by rw [evaluate, hvalid]; exact hpublish _)

/-- Every decision of a scope stands at a branch of one of its calculations, or of what the
caller bound, and is for an arm of this branch. -/
theorem takes_of_evaluate {d : Decision ScopeOrigin}
    (mem : d ∈ (scope.evaluate context maxDepth).decisions) :
    ∃ b working, scope.standsAt? context d.site = some b ∧ Takes working b d.arm := by
  rcases decisions_evaluate context maxDepth scope with hnone | hrun
  · rw [hnone] at mem
    cases mem
  · rw [hrun] at mem
    exact takes_of_runCalculations (ScopeOrigin.tree? context scope)
      (fun calculation hmem => (Members.get?_eq_some_iff scope.nodup_calculations).mpr hmem)
      (fun name bound hbound => .inl hbound) mem

/-- A scope decides at most once in each place of the tree of a calculation. -/
theorem nodup_places_of_evaluate (name : String) :
    ((Trace.within (scope.evaluate context maxDepth).decisions (.calculation name)).map
      (·.1)).Nodup := by
  rcases decisions_evaluate context maxDepth scope with hnone | hrun
  · rw [hnone]
    exact List.nodup_nil
  · rw [hrun]
    exact (nodup_of_runCalculations scope.nodup_calculations name).1

end Evaluation

end Scope

/-- How often a trace decides at a site is how often the place is among those of its tree. -/
theorem Trace.length_filter_site {ω : Type} [DecidableEq ω] (trace : Trace ω) (site : Site ω) :
    (trace.filter fun d => d.site = site).length =
      ((trace.within site.origin).map (·.1)).count site.path := by
  rw [← List.countP_eq_length_filter, List.count, List.countP_map, Trace.within,
    List.countP_filterMap]
  refine List.countP_congr fun d _ => ?_
  obtain ⟨⟨origin, path⟩, arm⟩ := d
  obtain ⟨origin', path'⟩ := site
  by_cases h : origin = origin' <;> simp [h]

/-- **Traces are unambiguous.** In an evaluation, ending with a value or with an error, every
decision stands at a branch that has a result for the arm, and the label is that of no other
arm. All decisions of one node, at whatever sites and levels it is met, have the same label,
so that the selection of the node is the arm of each of them. In the evaluation of a scope
whose calculations have branches that are nodes of their own, each of them gets at most one
decision. -/
theorem traces_are_unambiguous (context : Context) (maxDepth : Int) {ν : Type} [DecidableEq ν] :
    (∀ (e : Expr) (nodeAt : Site Origin → ν), OneExprPerNode (standsAt? context e) nodeAt →
      ∀ d ∈ (evaluate context maxDepth e).decisions,
        (∃ b result, standsAt? context e d.site = some b ∧ b.part? d.arm.step = some result ∧
          ∀ arm : Arm, arm.label = d.arm.label → arm = d.arm) ∧
        (∀ d' ∈ (evaluate context maxDepth e).decisions, nodeAt d'.site = nodeAt d.site →
          d'.arm.label = d.arm.label) ∧
        Trace.selectionOf? (evaluate context maxDepth e).decisions nodeAt (nodeAt d.site) =
          some d.arm) ∧
    (∀ (scope : Scope) (nodeAt : Site ScopeOrigin → ν),
      OwnNodes (scope.standsAt? context) nodeAt (fun origin => ∃ name, origin = .calculation name) →
      ∀ site b, (∃ name, site.origin = .calculation name) →
        scope.standsAt? context site = some b → b.isBranch = true →
        ((scope.evaluate context maxDepth).decisions.filter
          fun d => nodeAt d.site = nodeAt site).length ≤ 1) := by
  constructor
  · intro e nodeAt hnodes d mem
    obtain ⟨b, hstands, htakes⟩ := takes_of_evaluate mem
    have harm : ∀ d' ∈ (evaluate context maxDepth e).decisions, nodeAt d'.site = nodeAt d.site →
        d'.arm = d.arm := by
      intro d' mem' hnode
      obtain ⟨b', hstands', htakes'⟩ := takes_of_evaluate mem'
      obtain rfl := hnodes _ _ _ _ hstands hstands' hnode
      exact htakes'.arm_unique htakes
    obtain ⟨result, hresult⟩ := htakes.exists_result
    exact ⟨⟨b, result, hstands, hresult, fun arm => Arm.label_injective⟩,
      fun d' mem' hnode => congrArg Arm.label (harm d' mem' hnode),
      Trace.selectionOf?_eq_some mem harm⟩
  · intro scope nodeAt hnodes site b hown hstands hbranch
    obtain ⟨name, hname⟩ := hown
    have hsite : ∀ d ∈ (scope.evaluate context maxDepth).decisions,
        decide (nodeAt d.site = nodeAt site) = decide (d.site = site) := by
      intro d mem
      obtain ⟨b', working, hstands', htakes⟩ := Scope.takes_of_evaluate mem
      refine decide_eq_decide.mpr ⟨fun hnode => ?_, fun heq => congrArg nodeAt heq⟩
      exact hnodes site d.site b b' ⟨name, hname⟩ hstands hbranch hstands' htakes.isBranch hnode
    rw [List.filter_congr hsite, Trace.length_filter_site, hname]
    exact List.nodup_iff_count.mp (Scope.nodup_places_of_evaluate name) site.path

/-- Members are those who paid. -/
def clubContext : Context :=
  [("member", .ifThenElse (.reference "paid") (.literal (.bool true)) (.literal (.bool false))),
    ("paid", .literal (.bool true))]

/-- Whether someone may enter: members may. -/
def mayEnter : Expr :=
  .ifThenElse (.reference "member") (.literal (.bool true)) (.literal (.bool false))

/-- A conditional that has one node for its condition and for what it leads to. -/
def entry : Expr := .ifThenElse mayEnter mayEnter (.literal (.string "guest"))

/-- The nodes of `entry`: the two places of its condition are one. -/
def entryNode (site : Site Origin) : Site Origin :=
  if site = ⟨.subject, [.thenArm]⟩ then ⟨.subject, [.condition]⟩ else site

/-- A scope that calculates `entry`. -/
def entryScope : Scope where
  inputs := []
  calculations := [("entry", entry)]
  outputs := ["entry"]
  nodup_inputs := List.nodup_nil
  nodup_calculations := List.pairwise_singleton _ _
  pairwise_outputs := List.pairwise_singleton _ _

/-- What members are bound to is met twice, and so is the shared condition; each of them takes
one arm. In the scope every branch decides once. -/
theorem entry_traced_unambiguously :
    OneExprPerNode (standsAt? clubContext entry) entryNode ∧
    (evaluate clubContext 5 entry).decisions.map (·.site) =
      [⟨.binding "member", []⟩, ⟨.subject, [.condition]⟩, ⟨.subject, []⟩,
        ⟨.binding "member", []⟩, ⟨.subject, [.thenArm]⟩] ∧
    Trace.selectionOf? (evaluate clubContext 5 entry).decisions entryNode
      ⟨.subject, [.condition]⟩ = some .thenArm ∧
    OwnNodes (entryScope.standsAt? clubContext) id
      (fun origin => ∃ name, origin = .calculation name) ∧
    ((entryScope.evaluate clubContext 5).decisions.filter
      fun d => id d.site = id ⟨.calculation "entry", []⟩).length ≤ 1 := by
  have hnodes : OneExprPerNode (standsAt? clubContext entry) entryNode := by
    have hstands : ∀ site, standsAt? clubContext entry (entryNode site) =
        standsAt? clubContext entry site := by
      intro site
      unfold entryNode
      split
      · next heq => rw [heq]; rfl
      · rfl
    intro site site' b b' hb hb' hnode
    rw [← hstands, hnode, hstands, hb] at hb'
    exact (Option.some.inj hb').symm
  have hown : OwnNodes (entryScope.standsAt? clubContext) id
      (fun origin => ∃ name, origin = .calculation name) :=
    fun _ _ _ _ _ _ _ _ _ hnode => hnode
  have hmade : ⟨⟨.subject, [.condition]⟩, .thenArm⟩ ∈ (evaluate clubContext 5 entry).decisions := by
    decide
  obtain ⟨hrun, -⟩ := @traces_are_unambiguous clubContext 5 (Site Origin) _
  obtain ⟨-, hscope⟩ := @traces_are_unambiguous clubContext 5 (Site ScopeOrigin) _
  exact ⟨hnodes, by decide, (hrun entry entryNode hnodes _ hmade).2.2, hown,
    hscope entryScope id hown ⟨.calculation "entry", []⟩ entry ⟨_, rfl⟩ rfl rfl⟩

end Rulebook
