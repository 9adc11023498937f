import Mathlib.Data.List.Induction
import Rulebook.Proofs.IndependentCalculations
import Rulebook.Proofs.MemberLists

/-!
What a scope publishes.

The calculations of a scope have values (`Scope.Valued`): that of each one is what its
expression evaluates to in the context overridden by the values of those before it. The
working context at the end is the caller's, overridden by all of them
(`exists_valued_of_runCalculations`), and what is published is read off there
(`get?_publish`). A calculation stops the scope exactly if the scope cut off before it
succeeds and its expression has no value in the working context reached by then
(`runCalculations_error_iff`).
-/

namespace Rulebook

/-- The context with the names of values bound to these. -/
def Context.overriddenBy (context : Context) (values : List (String × Literal)) : Context :=
  values.map (fun value => (value.1, Expr.literal value.2)) ++ context

section Overridden

variable {context working : Context} {values : List (String × Literal)} {name : String}

theorem Context.get?_overriddenBy (context : Context) (values : List (String × Literal))
    (name : String) :
    Members.get? (context.overriddenBy values) name =
      ((Members.get? values name).map .literal).or (Members.get? context name) := by
  induction values with
  | nil => rfl
  | cons value rest ih =>
      obtain ⟨other, v⟩ := value
      by_cases hname : other = name
      · simp [overriddenBy, Members.get?, hname]
      · simpa [overriddenBy, Members.get?, hname] using ih

theorem Context.get?_overriddenBy_of_not_mem (h : name ∉ Members.names values) :
    Members.get? (context.overriddenBy values) name = Members.get? context name := by
  rw [get?_overriddenBy, Members.get?_eq_none_iff.mpr h, Option.map_none, Option.none_or]

/-- To bind one more name to a value is to override by one more value. -/
theorem Alike.put_overriddenBy (h : Alike working (context.overriddenBy values))
    (hnew : name ∉ Members.names values) (value : Literal) :
    Alike (Members.put working name (.literal value))
      (context.overriddenBy (values ++ [(name, value)])) := by
  intro other
  rw [Members.get?_put, Context.get?_overriddenBy, Members.get?_append]
  by_cases hname : name = other
  · subst hname
    simp [Members.get?_eq_none_iff.mpr hnew, Members.get?]
  · simp [h other, Context.get?_overriddenBy, Members.get?, hname]

end Overridden

namespace Scope

variable {context working final : Context} {maxDepth : Int}

/-! ### Values of calculations -/

/-- The values of calculations, in their order: each one is what the expression of its
calculation evaluates to in the context overridden by exactly the values before it. -/
structure Valued (context : Context) (maxDepth : Int) (calculations : List (String × Expr))
    (values : List (String × Literal)) : Prop where
  names_eq : Members.names values = Members.names calculations
  evaluated : ∀ earlier name value later, values = earlier ++ (name, value) :: later →
    ∃ e, Members.get? calculations name = some e ∧
      (Rulebook.evaluate (context.overriddenBy earlier) maxDepth e).outcome = .ok value

theorem Valued.nil : Valued context maxDepth [] [] where
  names_eq := rfl
  evaluated := by simp

/-- One more calculation is evaluated in the context overridden by all values so far. -/
theorem Valued.concat {calculations : List (String × Expr)} {values : List (String × Literal)}
    {name : String} {e : Expr} {value : Literal} (h : Valued context maxDepth calculations values)
    (hnew : name ∉ Members.names calculations)
    (hvalue : (Rulebook.evaluate (context.overriddenBy values) maxDepth e).outcome = .ok value) :
    Valued context maxDepth (calculations ++ [(name, e)]) (values ++ [(name, value)]) where
  names_eq := by
    simp [h.names_eq]
  evaluated := by
    intro earlier other found later hsplit
    rcases List.eq_nil_or_concat' later with rfl | ⟨later, last, rfl⟩
    · obtain ⟨rfl, hlast⟩ := List.append_inj' hsplit rfl
      cases hlast
      exact ⟨e, Members.get?_concat hnew e, hvalue⟩
    · rw [← List.cons_append, ← List.append_assoc] at hsplit
      obtain ⟨hvalues, -⟩ := List.append_inj' hsplit rfl
      obtain ⟨f, hf, hfound⟩ := h.evaluated earlier other found later hvalues
      exact ⟨f, by rw [Members.get?_append, hf, Option.some_or], hfound⟩

/-! ### Runs of calculations -/

section Runs

variable {before rest : List (String × Expr)} {name : String} {e : Expr}

/-- Calculations run on from where those before them ended. -/
theorem runCalculations_append_ok :
    (runCalculations maxDepth context (before ++ rest)).outcome = .ok final ↔
      ∃ working, (runCalculations maxDepth context before).outcome = .ok working ∧
        (runCalculations maxDepth working rest).outcome = .ok final := by
  induction before generalizing context with
  | nil =>
      constructor
      · exact fun h => ⟨context, rfl, h⟩
      · rintro ⟨_, ⟨⟩, h⟩
        exact h
  | cons c before ih =>
      obtain ⟨name, e⟩ := c
      simp only [List.cons_append, runCalculations_cons_ok, ih]
      constructor
      · rintro ⟨value, hvalue, working, hbefore, hrest⟩
        exact ⟨working, ⟨value, hvalue, hbefore⟩, hrest⟩
      · rintro ⟨working, ⟨value, hvalue, hbefore⟩, hrest⟩
        exact ⟨value, hvalue, working, hbefore, hrest⟩

/-- A calculation stops the others where those before it succeed and its own expression has no
value in the working context that they leave. -/
theorem runCalculations_error_iff {calculations : List (String × Expr)} {error : ScopeError} :
    (runCalculations maxDepth context calculations).outcome = .error error ↔
      ∃ before name e after working cause, calculations = before ++ (name, e) :: after ∧
        (runCalculations maxDepth context before).outcome = .ok working ∧
        (Rulebook.evaluate working maxDepth e).outcome = .error cause ∧
        error = .calculation name cause := by
  constructor
  · intro h
    induction calculations generalizing context with
    | nil => cases h
    | cons c rest ih =>
        obtain ⟨name, e⟩ := c
        rcases runCalculations_cons_error.mp h with ⟨cause, hcause, rfl⟩ | ⟨value, hvalue, hrest⟩
        · exact ⟨[], name, e, rest, context, cause, rfl, rfl, hcause, rfl⟩
        · obtain ⟨before, other, f, after, working, cause, rfl, hbefore, hcause, rfl⟩ := ih hrest
          exact ⟨(name, e) :: before, other, f, after, working, cause, rfl,
            runCalculations_cons_ok.mpr ⟨value, hvalue, hbefore⟩, hcause, rfl⟩
  · rintro ⟨before, name, e, after, working, cause, rfl, hbefore, hcause, rfl⟩
    induction before generalizing context with
    | nil =>
        cases hbefore
        exact runCalculations_cons_error.mpr (.inl ⟨cause, hcause, rfl⟩)
    | cons c before ih =>
        obtain ⟨value, hvalue, hbefore⟩ := runCalculations_cons_ok.mp hbefore
        exact runCalculations_cons_error.mpr (.inr ⟨value, hvalue, ih hbefore⟩)

/-- Calculations that succeed have values, and leave the context overridden by these. -/
theorem exists_valued_of_runCalculations {calculations : List (String × Expr)}
    (hnodup : (Members.names calculations).Nodup)
    (h : (runCalculations maxDepth context calculations).outcome = .ok final) :
    ∃ values, Valued context maxDepth calculations values ∧
      Alike final (context.overriddenBy values) := by
  induction calculations using List.reverseRecOn generalizing final with
  | nil =>
      cases h
      exact ⟨[], .nil, fun _ => rfl⟩
  | append_singleton before c ih =>
      obtain ⟨name, e⟩ := c
      obtain ⟨working, hbefore, hlast⟩ := runCalculations_append_ok.mp h
      obtain ⟨value, hvalue, hfinal⟩ := runCalculations_cons_ok.mp hlast
      cases hfinal
      have hnew : name ∉ Members.names before := Members.not_mem_of_nodup hnodup
      have hnodup : (Members.names before).Nodup := by
        rw [Members.names_append] at hnodup
        exact hnodup.of_append_left
      obtain ⟨values, hvalues, halike⟩ := ih hnodup hbefore
      rw [halike.evaluate_eq] at hvalue
      refine ⟨values ++ [(name, value)], hvalues.concat hnew hvalue, ?_⟩
      exact halike.put_overriddenBy (hvalues.names_eq ▸ hnew) value

end Runs

/-! ### The scope cut off before a calculation -/

/-- The scope without the calculation of a name and those behind it. -/
def cutBefore (scope : Scope) (name : String) : Scope where
  inputs := scope.inputs
  calculations := scope.calculations.takeWhile (·.1 != name)
  outputs := scope.outputs
  nodup_inputs := scope.nodup_inputs
  nodup_calculations :=
    ((List.takeWhile_sublist _).map _).nodup scope.nodup_calculations
  pairwise_outputs := scope.pairwise_outputs

section Cut

variable {scope : Scope} {name : String} {e : Expr} {before after : List (String × Expr)}

/-- What stands before the calculation of a name is left of the scope cut off there. -/
theorem calculations_cutBefore (h : scope.calculations = before ++ (name, e) :: after) :
    (scope.cutBefore name).calculations = before := by
  have hnodup := scope.nodup_calculations
  rw [h] at hnodup
  have hbefore : ∀ c ∈ before, (c.1 != name) = true := by
    intro c mem
    rw [bne_iff_ne]
    rintro rfl
    exact Members.not_mem_of_nodup hnodup (List.mem_map_of_mem mem)
  calc (scope.cutBefore name).calculations
    _ = scope.calculations.takeWhile (·.1 != name) := rfl
    _ = before ++ ((name, e) :: after).takeWhile (·.1 != name) := by
      rw [h, List.takeWhile_append_of_pos hbefore]
    _ = before := by simp

theorem calculation?_eq_some_iff : scope.calculation? name = some e ↔
    ∃ before after, scope.calculations = before ++ (name, e) :: after := by
  rw [calculation?, Members.get?_eq_some_iff scope.nodup_calculations, List.mem_iff_append]

/-- A calculation stands right behind those of the scope cut off before it. -/
theorem calculations_eq_cutBefore (h : scope.calculation? name = some e) :
    ∃ after, scope.calculations = (scope.cutBefore name).calculations ++ (name, e) :: after := by
  obtain ⟨before, after, hsplit⟩ := calculation?_eq_some_iff.mp h
  exact ⟨after, by rw [calculations_cutBefore hsplit, hsplit]⟩

end Cut

/-! ### Inputs and outputs -/

/-- An input passes its check if its binding reduces to a literal of the declared kind. -/
theorem checkInput_ok_iff {name : String} {kind : Kind} :
    checkInput context maxDepth name kind = .ok () ↔
      ∃ bound value, Members.get? context name = some bound ∧
        (Rulebook.evaluate context maxDepth bound).outcome = .ok value ∧ value.kind = kind := by
  unfold checkInput
  cases hbound : Members.get? context name with
  | none => simp
  | some bound =>
      cases hvalue : (Rulebook.evaluate context maxDepth bound).outcome with
      | error error => simp [hvalue]
      | ok value => simp [hvalue]

/-- The check of inputs never blames a calculation. -/
theorem validate_ne_calculation {scope : Scope} {name : String} {cause : EvalError} :
    scope.validate context maxDepth ≠ .error (.calculation name cause) := by
  intro h
  obtain ⟨input, _, herror⟩ := checkInputs_error h
  rcases checkInput_error herror with hnone | ⟨_, _, _, _, heq⟩
  · cases hnone
  · cases heq

theorem names_publish_eq_filter (outputs : List String) (context : Context) :
    Members.names (publish outputs context) = outputs.filter (Members.has context) := by
  induction outputs with
  | nil => rfl
  | cons name rest ih =>
      rw [publish] at ih
      cases hbound : Members.get? context name with
      | none => simp [publish, Members.has, hbound, ih]
      | some bound => simp [publish, Members.has, hbound, ih]

theorem get?_publish (outputs : List String) (context : Context) (name : String) :
    Members.get? (publish outputs context) name =
      if name ∈ outputs then Members.get? context name else none := by
  induction outputs with
  | nil => rfl
  | cons first rest ih =>
      rw [publish] at ih
      cases hbound : Members.get? context first with
      | none =>
          rw [publish, List.filterMap_cons, hbound, Option.map_none, ih]
          by_cases hname : name = first
          · subst hname
            simp [hbound]
          · simp [hname]
      | some bound =>
          rw [publish, List.filterMap_cons, hbound, Option.map_some, Members.get?, ih]
          by_cases hname : first = name
          · subst hname
            simp [hbound]
          · simp [hname, Ne.symm hname]

/-! ### The working context at the end -/

section Final

variable {scope : Scope} {name : String}

/-- Names that are not calculated stay bound as they were. -/
theorem get?_of_runCalculations {calculations : List (String × Expr)}
    (hnodup : (Members.names calculations).Nodup)
    (h : (runCalculations maxDepth context calculations).outcome = .ok final)
    (hnot : name ∉ Members.names calculations) :
    Members.get? final name = Members.get? context name := by
  obtain ⟨values, hvalues, halike⟩ := exists_valued_of_runCalculations hnodup h
  rw [halike name, Context.get?_overriddenBy_of_not_mem (hvalues.names_eq ▸ hnot)]

/-- A calculation is bound to its value at the end. -/
theorem get?_final_of_calculation
    (h : (runCalculations maxDepth context scope.calculations).outcome = .ok final) {e : Expr}
    (hname : scope.calculation? name = some e) :
    ∃ values value, Valued context maxDepth (scope.cutBefore name).calculations values ∧
      (Rulebook.evaluate (context.overriddenBy values) maxDepth e).outcome = .ok value ∧
      Members.get? final name = some (.literal value) := by
  obtain ⟨after, hsplit⟩ := calculations_eq_cutBefore hname
  have hnodup := scope.nodup_calculations
  rw [hsplit] at h hnodup
  obtain ⟨working, hbefore, hrest⟩ := runCalculations_append_ok.mp h
  obtain ⟨value, hvalue, hafter⟩ := runCalculations_cons_ok.mp hrest
  obtain ⟨values, hvalues, halike⟩ :=
    exists_valued_of_runCalculations (scope.cutBefore name).nodup_calculations hbefore
  rw [halike.evaluate_eq] at hvalue
  refine ⟨values, value, hvalues, hvalue, ?_⟩
  rw [Members.names_append] at hnodup
  obtain ⟨hlater, hnodup⟩ := List.nodup_cons.mp hnodup.of_append_right
  rw [get?_of_runCalculations hnodup hafter hlater, Members.get?_put, if_pos rfl]

theorem get?_final_of_not_calculation
    (h : (runCalculations maxDepth context scope.calculations).outcome = .ok final)
    (hname : scope.calculation? name = none) :
    Members.get? final name = Members.get? context name :=
  get?_of_runCalculations scope.nodup_calculations h (Members.get?_eq_none_iff.mp hname)

theorem has_final (h : (runCalculations maxDepth context scope.calculations).outcome = .ok final)
    (name : String) :
    Members.has final name = (Members.has context name || (scope.calculation? name).isSome) := by
  cases hname : scope.calculation? name with
  | none => simp [Members.has, get?_final_of_not_calculation h hname]
  | some e =>
      obtain ⟨_, value, _, _, hfinal⟩ := get?_final_of_calculation h hname
      simp [Members.has, hfinal]

/-- A calculation stops a scope whose inputs pass their check exactly if the scope cut off before
it succeeds and its expression fails in the working context of that scope. -/
theorem evaluate_calculation_error_iff {cause : EvalError} :
    (scope.evaluate context maxDepth).outcome = .error (.calculation name cause) ↔
      scope.validate context maxDepth = .ok () ∧ ∃ e, scope.calculation? name = some e ∧
        (∃ results, ((scope.cutBefore name).evaluate context maxDepth).outcome = .ok results) ∧
        ∃ working, (runCalculations maxDepth context
            (scope.cutBefore name).calculations).outcome = .ok working ∧
          (Rulebook.evaluate working maxDepth e).outcome = .error cause := by
  rw [evaluate_error_iff, or_iff_right validate_ne_calculation, runCalculations_error_iff]
  refine and_congr_right fun hvalid => ?_
  constructor
  · rintro ⟨before, _, e, after, working, _, hsplit, hworking, hcause, ⟨⟩⟩
    rw [← calculations_cutBefore hsplit] at hworking
    have hcut : ((scope.cutBefore name).evaluate context maxDepth).outcome =
        .ok (publish scope.outputs working) :=
      evaluate_ok_iff.mpr ⟨hvalid, working, hworking, rfl⟩
    exact ⟨e, calculation?_eq_some_iff.mpr ⟨before, after, hsplit⟩, ⟨_, hcut⟩, working, hworking,
      hcause⟩
  · rintro ⟨e, hname, -, working, hworking, hcause⟩
    obtain ⟨after, hsplit⟩ := calculations_eq_cutBefore hname
    exact ⟨_, name, e, after, working, cause, hsplit, hworking, hcause, rfl⟩

end Final

end Scope

/-- **What a scope publishes.** The results of a scope are listed by its outputs that are bound
or calculated, in order. A calculation is published as the literal that its expression evaluates
to in the context overridden by the values of exactly the calculations before it, anything else
as the caller bound it, and an input only if that reduces to a literal of its kind. A calculation
stops the scope exactly if the inputs pass their check, the scope cut off before it succeeds, and
its expression fails in the working context of that scope. -/
theorem results_published_from_values (scope : Scope) (context : Context) (maxDepth : Int) :
    (∀ results, (scope.evaluate context maxDepth).outcome = .ok results →
      Members.names results = scope.outputs.filter (fun name =>
        Members.has context name || (scope.calculation? name).isSome) ∧
      (Members.names results).Pairwise (· < ·) ∧
      ∀ name ∈ scope.outputs,
        (∀ e, scope.calculation? name = some e → ∃ values value,
          Scope.Valued context maxDepth (scope.cutBefore name).calculations values ∧
          (evaluate (context.overriddenBy values) maxDepth e).outcome = .ok value ∧
          Members.get? results name = some (.literal value)) ∧
        (scope.calculation? name = none →
          Members.get? results name = Members.get? context name ∧
          ∀ kind, scope.input? name = some kind → ∃ bound value,
            Members.get? context name = some bound ∧
            (evaluate context maxDepth bound).outcome = .ok value ∧ value.kind = kind)) ∧
    ∀ name cause,
      (scope.evaluate context maxDepth).outcome = .error (.calculation name cause) ↔
        scope.validate context maxDepth = .ok () ∧ ∃ e, scope.calculation? name = some e ∧
          (∃ results, ((scope.cutBefore name).evaluate context maxDepth).outcome = .ok results) ∧
          ∃ working, (Scope.runCalculations maxDepth context
              (scope.cutBefore name).calculations).outcome = .ok working ∧
            (evaluate working maxDepth e).outcome = .error cause := by
  refine ⟨fun results h => ?_, fun name cause => Scope.evaluate_calculation_error_iff⟩
  obtain ⟨hvalid, final, hfinal, rfl⟩ := Scope.evaluate_ok h
  have hnames : Members.names (Scope.publish scope.outputs final) =
      scope.outputs.filter fun name =>
        Members.has context name || (scope.calculation? name).isSome := by
    rw [Scope.names_publish_eq_filter]
    exact List.filter_congr fun name _ => Scope.has_final hfinal name
  refine ⟨hnames, hnames ▸ scope.pairwise_outputs.filter _, fun name mem => ?_⟩
  rw [Scope.get?_publish, if_pos mem]
  refine ⟨fun e hname => Scope.get?_final_of_calculation hfinal hname, fun hname => ?_⟩
  refine ⟨Scope.get?_final_of_not_calculation hfinal hname, fun kind hkind => ?_⟩
  exact Scope.checkInput_ok_iff.mp
    (Scope.checkInputs_ok_iff.mp hvalid (name, kind) (Members.mem_of_get? hkind))

/-- The full fee is due from those who are not enrolled. -/
def feeRule : Expr :=
  .ifThenElse (.reference "enrolled") (.literal (.string "none")) (.literal (.string "full"))

/-- Enrolment is declared as an input and then cancelled by a calculation. -/
def cancelledScope : Scope where
  inputs := [("enrolled", .bool)]
  calculations := [("enrolled", .literal (.bool false)), ("fee", feeRule)]
  outputs := ["date", "enrolled", "fee", "rate"]
  nodup_inputs := by decide
  nodup_calculations := by decide
  pairwise_outputs := by decide

/-- Someone enrolled, with a rate that is not declared. -/
def cancelledContext : Context :=
  [("rate", .reference "enrolled"), ("enrolled", .literal (.bool true))]

/-- The fee of a cancelled member is calculated from the enrolment that was calculated before it,
and the rate is published as it was bound. -/
theorem cancelled_member_published :
    let results := [("enrolled", .literal (.bool false)), ("fee", .literal (.string "full")),
      ("rate", .reference "enrolled")]
    (cancelledScope.evaluate cancelledContext 3).outcome = .ok results ∧
      (∃ values value,
        Scope.Valued cancelledContext 3 (cancelledScope.cutBefore "fee").calculations values ∧
        (evaluate (cancelledContext.overriddenBy values) 3 feeRule).outcome = .ok value ∧
        Members.get? results "fee" = some (.literal value)) ∧
      Members.get? results "rate" = Members.get? cancelledContext "rate" := by
  intro results
  have hrun : (cancelledScope.evaluate cancelledContext 3).outcome = .ok results := rfl
  obtain ⟨-, -, hpublished⟩ :=
    (results_published_from_values cancelledScope cancelledContext 3).1 results hrun
  have hfee := (hpublished "fee" (by decide)).1 feeRule rfl
  have hrate := (hpublished "rate" (by decide)).2 rfl
  exact ⟨hrun, hfee, hrate.1⟩

end Rulebook
