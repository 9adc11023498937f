import Rulebook.Proofs.Decisions

/-!
Each branch of the tree that is asked for decides once.

A branch notes one arm, and its parts are asked for under different steps, each at most once,
so that no place is met twice (`reduce_decidesOnce`). Names lead to other trees.
-/

namespace Rulebook

/-! ### Decisions in the tree that is asked for -/

/-- The decisions in one tree of a run that goes on are those of its first half, and then
those of the second one if it comes to that. -/
theorem Run.exists_within_bind {ω ε α β : Type} [DecidableEq ω] (run : Run (Decision ω) ε α)
    (next : α → Run (Decision ω) ε β) (origin : ω) :
    ∃ rest, Trace.within (run >>= next).decisions origin =
        Trace.within run.decisions origin ++ rest ∧
      (rest = [] ∨ ∃ value, rest = Trace.within (next value).decisions origin) := by
  cases h : run.outcome with
  | error error => exact ⟨[], by rw [bind_of_error h, List.append_nil], .inl rfl⟩
  | ok value =>
      refine ⟨_, ?_, .inr ⟨value, rfl⟩⟩
      simp only [bind_of_ok h, Trace.within, List.filterMap_append]

section Once

variable {α β : Type}

/-- The places in the tree that is asked for where a run makes decisions, in order. -/
def Run.places (run : EvalRun α) : List Path := (Trace.within run.decisions .subject).map (·.1)

/-- A run makes decisions only in some places of the tree that is asked for, and in each of
them at most one. -/
structure Run.DecidesOnce (run : EvalRun α) (places : Path → Prop) : Prop where
  nodup : run.places.Nodup
  within : ∀ place ∈ run.places, places place

theorem Run.DecidesOnce.of_places_eq_nil {run : EvalRun α} (h : run.places = [])
    (places : Path → Prop) : run.DecidesOnce places := by
  constructor
  · rw [h]
    exact List.nodup_nil
  · rw [h]
    nofun

theorem Run.DecidesOnce.mono {run : EvalRun α} {places places' : Path → Prop}
    (h : run.DecidesOnce places) (hmore : ∀ place, places place → places' place) :
    run.DecidesOnce places' :=
  ⟨h.nodup, fun place mem => hmore place (h.within place mem)⟩

/-- A run that goes on in other places still decides at most once in each. -/
theorem Run.DecidesOnce.bind {run : EvalRun α} {next : α → EvalRun β} {first later : Path → Prop}
    (h : run.DecidesOnce first) (hnext : ∀ value, (next value).DecidesOnce later)
    (hapart : ∀ place, first place → ¬ later place) :
    (run >>= next).DecidesOnce fun place => first place ∨ later place := by
  obtain ⟨rest, hrun, hrest⟩ := exists_within_bind run next .subject
  have hplaces : (run >>= next).places = run.places ++ rest.map (·.1) := by
    rw [places, hrun, List.map_append]
    rfl
  have hlater : (rest.map (·.1)).Nodup ∧ ∀ place ∈ rest.map (·.1), later place := by
    rcases hrest with rfl | ⟨value, rfl⟩
    · exact ⟨List.nodup_nil, nofun⟩
    · exact ⟨(hnext value).nodup, (hnext value).within⟩
  constructor
  · rw [hplaces, List.nodup_append]
    refine ⟨h.nodup, hlater.1, ?_⟩
    rintro place mem _ mem' rfl
    exact hapart place (h.within place mem) (hlater.2 place mem')
  · intro place mem
    rw [hplaces] at mem
    rcases List.mem_append.mp mem with mem | mem
    · exact .inl (h.within place mem)
    · exact .inr (hlater.2 place mem)

end Once

/-- At a site of the tree that is asked for, or below it. -/
def Site.Covers (site : Site Origin) (place : Path) : Prop :=
  site.origin = .subject ∧ site.path <+: place

/-- At a site of the tree that is asked for, or below it under one of some steps. -/
def Site.CoversUnder (site : Site Origin) (steps : List Step) (place : Path) : Prop :=
  site.origin = .subject ∧ place = site.path ∨ ∃ step ∈ steps, (site.child step).Covers place

section Places

variable {site : Site Origin} {step : Step} {steps steps' : List Step} {place : Path}

theorem Site.CoversUnder.mono (h : site.CoversUnder steps place) (hmore : steps ⊆ steps') :
    site.CoversUnder steps' place := by
  rcases h with hsite | ⟨step, mem, hcovers⟩
  · exact .inl hsite
  · exact .inr ⟨step, hmore mem, hcovers⟩

theorem Site.CoversUnder.covers (h : site.CoversUnder steps place) : site.Covers place := by
  rcases h with ⟨horigin, rfl⟩ | ⟨step, _, horigin, hprefix⟩
  · exact ⟨horigin, List.prefix_rfl⟩
  · exact ⟨horigin, (List.prefix_append _ _).trans hprefix⟩

/-- Places under different steps are different, and none of them is the site. -/
theorem Site.Covers.not_coversUnder (h : (site.child step).Covers place) (hstep : step ∉ steps) :
    ¬ site.CoversUnder steps place := by
  obtain ⟨_, rest, rfl⟩ := h
  rintro (⟨_, heq⟩ | ⟨other, mem, _, rest', heq⟩)
  · simp [Site.child] at heq
  · simp only [Site.child, List.append_assoc, List.append_cancel_left_eq, List.singleton_append,
      List.cons.injEq] at heq
    exact hstep (heq.1 ▸ mem)

end Places

section Level

variable {part : Step → Expr → EvalRun Literal} {resolve : String → EvalRun Literal}
  {site : Site Origin}

theorem decidesOnce_record (site : Site Origin) (arm : Arm) :
    (Run.record ⟨site, arm⟩ : EvalRun Unit).DecidesOnce
      fun place => site.origin = .subject ∧ place = site.path := by
  by_cases horigin : site.origin = .subject
  · have hplaces : (Run.record ⟨site, arm⟩ : EvalRun Unit).places = [site.path] := by
      simp [Run.places, Run.record, Trace.within, horigin]
    constructor
    · simp [hplaces]
    · intro place mem
      rw [hplaces] at mem
      exact ⟨horigin, List.mem_singleton.mp mem⟩
  · refine .of_places_eq_nil ?_ _
    simp [Run.places, Run.record, Trace.within, horigin]

theorem decidesOnce_takeArm {arm : Arm} {result : Expr}
    (h : (part arm.step result).DecidesOnce (site.child arm.step).Covers) :
    (takeArm part site arm result).DecidesOnce (site.CoversUnder [arm.step]) := by
  have hrun := (decidesOnce_record site arm).bind (fun _ => h) fun place hsite hcovers =>
    hcovers.not_coversUnder List.not_mem_nil (.inl hsite)
  refine hrun.mono fun place hplace => ?_
  rcases hplace with hsite | hcovers
  · exact .inl hsite
  · exact .inr ⟨arm.step, List.mem_singleton_self _, hcovers⟩

/-- A part that is asked for before others, under a step of its own. -/
theorem Run.DecidesOnce.before {α : Type} {run : EvalRun α} {next : α → EvalRun Literal}
    {step : Step} {steps : List Step} (h : run.DecidesOnce (site.child step).Covers)
    (hnext : ∀ value, (next value).DecidesOnce (site.CoversUnder steps)) (hstep : step ∉ steps) :
    (run >>= next).DecidesOnce (site.CoversUnder (step :: steps)) := by
  refine (h.bind hnext fun place hcovers => hcovers.not_coversUnder hstep).mono ?_
  rintro place (hcovers | hunder)
  · exact .inr ⟨step, List.mem_cons_self, hcovers⟩
  · exact hunder.mono (List.subset_cons_self _ _)

/-- The test of a condition decides nothing. -/
theorem Run.DecidesOnce.afterTest {condition : Condition} {value : Literal}
    {next : Bool → EvalRun Literal} {places : Path → Prop}
    (h : ∀ holds, (next holds).DecidesOnce places) :
    (asBool condition value >>= next).DecidesOnce places := by
  cases value with
  | bool b => exact h b
  | string s => exact .of_places_eq_nil rfl places
  | number x => exact .of_places_eq_nil rfl places

/-- The steps of the parts that rules or cases have from an index on, with the fallback. -/
abbrev stepsFrom (first second : Nat → Step) (index : Nat) (pairs : List (Expr × Expr))
    (otherwise : Option Expr) : List Step :=
  (Expr.pairParts first second index pairs ++ Expr.fallbackPart otherwise).map (·.1)

theorem decidesOnce_reduceRules {rules : List (Expr × Expr)} {otherwise : Option Expr} {index : Nat}
    (hparts : ∀ step sub, (step, sub) ∈ Expr.pairParts .ruleCondition .ruleResult index rules ++
      Expr.fallbackPart otherwise → (part step sub).DecidesOnce (site.child step).Covers)
    (hnodup : (stepsFrom .ruleCondition .ruleResult index rules otherwise).Nodup) :
    (reduceRules part site index rules otherwise).DecidesOnce
      (site.CoversUnder (stepsFrom .ruleCondition .ruleResult index rules otherwise)) := by
  induction rules generalizing index with
  | nil =>
      cases otherwise with
      | none => exact .of_places_eq_nil rfl _
      | some e => exact decidesOnce_takeArm (hparts .otherwise e (by simp [Expr.fallbackPart]))
  | cons rule rest ih =>
      obtain ⟨condition, result⟩ := rule
      obtain ⟨hcondition, hrest⟩ := List.nodup_cons.mp hnodup
      refine (hparts _ condition (by simp [Expr.pairParts])).before (fun value => ?_) hcondition
      refine .afterTest fun holds => ?_
      cases holds with
      | true =>
          refine (decidesOnce_takeArm (hparts (.ruleResult index) result
            (by simp [Expr.pairParts]))).mono fun place hplace => hplace.mono ?_
          exact List.cons_subset_cons _ (List.nil_subset _)
      | false =>
          refine (ih (fun step sub mem => hparts step sub (Expr.mem_parts_of_rest mem))
            (List.nodup_cons.mp hrest).2).mono fun place hplace => hplace.mono ?_
          exact List.subset_cons_self _ _

theorem decidesOnce_reduceCases {cases : List (Expr × Expr)} {otherwise : Option Expr}
    {index : Nat} {value : Literal}
    (hparts : ∀ step sub, (step, sub) ∈ Expr.pairParts .caseKey .caseResult index cases ++
      Expr.fallbackPart otherwise → (part step sub).DecidesOnce (site.child step).Covers)
    (hnodup : (stepsFrom .caseKey .caseResult index cases otherwise).Nodup) :
    (reduceCases part site value index cases otherwise).DecidesOnce
      (site.CoversUnder (stepsFrom .caseKey .caseResult index cases otherwise)) := by
  induction cases generalizing index with
  | nil =>
      cases otherwise with
      | none => exact .of_places_eq_nil rfl _
      | some e => exact decidesOnce_takeArm (hparts .otherwise e (by simp [Expr.fallbackPart]))
  | cons case rest ih =>
      obtain ⟨key, result⟩ := case
      obtain ⟨hkey, hrest⟩ := List.nodup_cons.mp hnodup
      refine (hparts _ key (by simp [Expr.pairParts])).before (fun candidate => ?_) hkey
      split
      · refine (decidesOnce_takeArm (hparts (.caseResult index) result
          (by simp [Expr.pairParts]))).mono fun place hplace => hplace.mono ?_
        exact List.cons_subset_cons _ (List.nil_subset _)
      · refine (ih (fun step sub mem => hparts step sub (Expr.mem_parts_of_rest mem))
          (List.nodup_cons.mp hrest).2).mono fun place hplace => hplace.mono ?_
        exact List.subset_cons_self _ _

/-- One level decides at most once in each place if its parts do, and the name decides
nothing in the tree. -/
theorem decidesOnce_reduceLevel {e : Expr}
    (hparts : ∀ step sub, (step, sub) ∈ e.parts →
      (part step sub).DecidesOnce (site.child step).Covers)
    (hname : ∀ name, (resolve name).DecidesOnce fun _ => False) :
    (reduceLevel part resolve site e).DecidesOnce (site.CoversUnder (e.parts.map (·.1))) := by
  have hnodup := Expr.nodup_steps e
  cases e with
  | literal value => exact .of_places_eq_nil rfl _
  | reference name => exact (hname name).mono fun _ => False.elim
  | ifThenElse condition thenArm elseArm =>
      refine (hparts .condition condition (by simp [Expr.parts])).before (fun value => ?_)
        (List.nodup_cons.mp hnodup).1
      refine .afterTest fun holds => ?_
      cases holds with
      | true =>
          refine (decidesOnce_takeArm (hparts .thenArm thenArm (by simp [Expr.parts]))).mono ?_
          exact fun place hplace => hplace.mono (by simp [Arm.step])
      | false =>
          refine (decidesOnce_takeArm (hparts .elseArm elseArm (by simp [Expr.parts]))).mono ?_
          exact fun place hplace => hplace.mono (by simp [Arm.step])
  | ruleChain rules otherwise => exact decidesOnce_reduceRules hparts hnodup
  | finiteBranch subject cases otherwise =>
      obtain ⟨hsubject, hcases⟩ := List.nodup_cons.mp hnodup
      refine (hparts .subject subject (by simp [Expr.parts])).before (fun value => ?_) hsubject
      exact decidesOnce_reduceCases
        (fun step sub mem => hparts step sub (List.mem_cons_of_mem _ mem)) hcases

end Level

section Reduction

variable {context : Context}

/-- In the tree that is asked for, a reduction decides only at its site and below, and
nowhere twice. -/
theorem reduce_decidesOnce (limit : Int) (levels : Nat) (site : Site Origin)
    (resolving : List String) (e : Expr) :
    (reduce context limit levels site resolving e).DecidesOnce site.Covers := by
  induction levels generalizing site resolving e with
  | zero => exact .of_places_eq_nil rfl _
  | succ levels ih =>
      refine (decidesOnce_reduceLevel (fun step sub _ => ih (site.child step) resolving sub)
        fun name => ?_).mono fun place hplace => hplace.covers
      split
      · exact .of_places_eq_nil rfl _
      · unfold followBinding
        split
        · exact .of_places_eq_nil rfl _
        · refine (ih ⟨.binding name, []⟩ _ _).mono ?_
          rintro place ⟨⟨⟩, _⟩

theorem nodup_places_of_evaluate (context : Context) (maxDepth : Int) (e : Expr) :
    ((Trace.within (evaluate context maxDepth e).decisions .subject).map (·.1)).Nodup :=
  (reduce_decidesOnce maxDepth _ _ _ e).nodup

end Reduction

end Rulebook
