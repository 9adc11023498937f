import Rulebook.Proofs.Parts
import Rulebook.Scope.Check

/-!
What the inspection of a scope reports, and in which order.

The inspection goes through the calculations with the names that are visible so far, and
asks of the others only whether a calculation has them. What it reports of a calculation
depends on where the calculation stands: a name is looked for among the inputs and the
calculations in front of it (`mem_calculationsWarnings_iff`), and a name that is missed
there belongs to the calculation itself, to one behind it, or to none. The order of the
warnings is strict (`pairwise_warnings`), so none of them is repeated.
-/

namespace Rulebook

namespace ScopeWarning

/-- The calculation that a warning is about, if it is about one. -/
def calculation? : ScopeWarning → Option String
  | .shadowsInput calculation => some calculation
  | .calculatedLater calculation _ | .unknownName calculation _ => some calculation
  | .unknownOutput _ => none

/-- The reference that a warning is about, if it is about one: the calculation that
refers and the name it refers to. -/
def reference? : ScopeWarning → Option (String × String)
  | .calculatedLater calculation name | .unknownName calculation name => some (calculation, name)
  | _ => none

theorem calculation?_of_reference? {warning : ScopeWarning} {reference : String × String}
    (h : warning.reference? = some reference) : warning.calculation? = some reference.1 := by
  cases warning <;> cases h <;> rfl

/-- The order of warnings, for calculations in a given order: by calculation; of one
calculation the shadowed input first and then the references by name; and in the end
the outputs by name. -/
inductive Precedes (order : List String) : ScopeWarning → ScopeWarning → Prop where
  | calculation {first second : ScopeWarning} {earlier later : String} :
      first.calculation? = some earlier → second.calculation? = some later →
      [earlier, later].Sublist order → Precedes order first second
  | shadowed {second : ScopeWarning} {calculation name : String} :
      second.reference? = some (calculation, name) →
      Precedes order (.shadowsInput calculation) second
  | reference {first second : ScopeWarning} {calculation name name' : String} :
      first.reference? = some (calculation, name) →
      second.reference? = some (calculation, name') → name < name' → Precedes order first second
  | beforeOutputs {first : ScopeWarning} {calculation name : String} :
      first.calculation? = some calculation → Precedes order first (.unknownOutput name)
  | output {name name' : String} :
      name < name' → Precedes order (.unknownOutput name) (.unknownOutput name')

/-- A warning that precedes another is about another reference. -/
theorem Precedes.reference?_ne {order : List String} (hnodup : order.Nodup)
    {first second : ScopeWarning} (h : Precedes order first second) {reference : String × String}
    (hfirst : first.reference? = some reference) : second.reference? ≠ some reference := by
  intro hsecond
  cases h with
  | calculation hearlier hlater hsub =>
      cases hearlier.symm.trans (calculation?_of_reference? hfirst)
      cases hlater.symm.trans (calculation?_of_reference? hsecond)
      simpa using hsub.nodup hnodup
  | shadowed _ => cases hfirst
  | reference hname hname' hlt =>
      cases hname.symm.trans hfirst
      cases hname'.symm.trans hsecond
      exact String.lt_irrefl _ hlt
  | beforeOutputs _ => cases hsecond
  | output _ => cases hfirst

end ScopeWarning

namespace Scope

variable {scope : Scope} {visible : List String} {calculation : String} {e : Expr}
  {calculations : List (String × Expr)} {warning : ScopeWarning}

/-! ### What is reported -/

theorem unresolved_reference? (scope : Scope) (calculation name : String) :
    (scope.unresolved calculation name).reference? = some (calculation, name) := by
  unfold unresolved
  split <;> rfl

/-- A calculation is warned of if it takes the name of an input, and for each name that
it refers to and that is not visible to it. -/
theorem mem_calculationWarnings_iff :
    warning ∈ scope.calculationWarnings visible calculation e ↔
      (calculation ∈ Members.names scope.inputs ∧ warning = .shadowsInput calculation) ∨
      ∃ name ∈ e.references, name ∉ visible ∧ warning = scope.unresolved calculation name := by
  have hmissing : ∀ name, name ∈ ((sortedNames e.references).filter fun other =>
      !decide (other ∈ visible)) ↔ name ∈ e.references ∧ name ∉ visible := by
    simp [mem_sortedNames]
  simp only [calculationWarnings, List.mem_append, List.mem_map, hmissing, and_assoc]
  refine or_congr ?_ (exists_congr fun name => ?_)
  · split <;> simp [*]
  · rw [@eq_comm _ warning]

theorem calculation?_of_mem (h : warning ∈ scope.calculationWarnings visible calculation e) :
    warning.calculation? = some calculation := by
  rcases mem_calculationWarnings_iff.mp h with ⟨_, rfl⟩ | ⟨name, _, _, rfl⟩
  · rfl
  · exact ScopeWarning.calculation?_of_reference? (unresolved_reference? scope calculation name)

/-- The warnings of calculations are those of each one, which sees what is visible to
them all and the calculations in front of it. -/
theorem mem_calculationsWarnings_iff :
    warning ∈ scope.calculationsWarnings visible calculations ↔
      ∃ before calculation e after, calculations = before ++ (calculation, e) :: after ∧
        warning ∈ scope.calculationWarnings (visible ++ Members.names before) calculation e := by
  induction calculations generalizing visible with
  | nil => simp [calculationsWarnings]
  | cons first rest ih =>
      simp only [calculationsWarnings, List.mem_append, ih]
      constructor
      · rintro (mem | ⟨before, calculation, e, after, rfl, mem⟩)
        · exact ⟨[], first.1, first.2, rest, rfl, by simpa using mem⟩
        · exact ⟨first :: before, calculation, e, after, rfl, by simpa using mem⟩
      · rintro ⟨before, calculation, e, after, heq, mem⟩
        cases before with
        | nil =>
            cases heq
            exact .inl (by simpa using mem)
        | cons other before =>
            obtain ⟨rfl, rfl⟩ := List.cons.inj heq
            exact .inr ⟨before, calculation, e, after, rfl, by simpa using mem⟩

/-- Outputs are warned of that neither an input nor a calculation has the name of. -/
theorem mem_outputWarnings_iff :
    warning ∈ scope.outputWarnings ↔ ∃ name ∈ scope.outputs,
      name ∉ Members.names scope.inputs ∧ name ∉ Members.names scope.calculations ∧
        warning = .unknownOutput name := by
  simp [outputWarnings, and_assoc, @eq_comm _ warning]

/-- A reference is warned of if its name is looked for in vain among the inputs and in
front of the calculation that refers to it. -/
theorem mem_warnings_iff_of_reference {name : String}
    (h : warning.reference? = some (calculation, name)) :
    warning ∈ scope.warnings ↔
      ∃ before e after, scope.calculations = before ++ (calculation, e) :: after ∧
        name ∈ e.references ∧ name ∉ Members.names scope.inputs ∧
        name ∉ Members.names before ∧ warning = scope.unresolved calculation name := by
  simp only [warnings, List.mem_append, mem_calculationsWarnings_iff, mem_calculationWarnings_iff,
    mem_outputWarnings_iff, not_or]
  constructor
  · rintro (⟨before, other, e, after, heq, ⟨_, rfl⟩ | ⟨missed, mem, hmissed, rfl⟩⟩ |
      ⟨_, _, _, _, rfl⟩)
    · cases h
    · cases (unresolved_reference? scope other missed).symm.trans h
      exact ⟨before, e, after, heq, mem, hmissed.1, hmissed.2, rfl⟩
    · cases h
  · rintro ⟨before, e, after, heq, mem, hinputs, hbefore, hwarning⟩
    exact .inl ⟨before, calculation, e, after, heq, .inr ⟨name, mem, ⟨hinputs, hbefore⟩, hwarning⟩⟩

theorem mem_names_split {before after : List (String × Expr)} (name : String)
    (h : calculations = before ++ (calculation, e) :: after) :
    name ∈ Members.names calculations ↔
      name ∈ Members.names before ∨ name = calculation ∨ name ∈ Members.names after := by
  simp [h, Members.names]

/-- A name is said to be calculated later if it is missed in front of the calculation that
refers to it, and is its own name or that of one behind it. -/
theorem calculatedLater_mem_warnings_iff {name : String} :
    .calculatedLater calculation name ∈ scope.warnings ↔
      ∃ before e after, scope.calculations = before ++ (calculation, e) :: after ∧
        name ∈ e.references ∧ name ∉ Members.names scope.inputs ∧
        name ∉ Members.names before ∧ (name = calculation ∨ name ∈ Members.names after) := by
  rw [mem_warnings_iff_of_reference rfl]
  refine exists₃_congr fun before e after => and_congr_right fun heq => ?_
  refine and_congr_right fun _ => and_congr_right fun _ => and_congr_right fun hbefore => ?_
  have hnames := mem_names_split name heq
  rw [or_iff_right hbefore] at hnames
  rw [← hnames, unresolved]
  split
  · next mem => simp [mem]
  · next hnot => simp [hnot]

/-- A name is said to be unknown if it is missed in front of the calculation that refers
to it and no calculation has it. -/
theorem unknownName_mem_warnings_iff {name : String} :
    .unknownName calculation name ∈ scope.warnings ↔
      ∃ before e after, scope.calculations = before ++ (calculation, e) :: after ∧
        name ∈ e.references ∧ name ∉ Members.names scope.inputs ∧
        name ∉ Members.names scope.calculations := by
  rw [mem_warnings_iff_of_reference rfl]
  refine exists₃_congr fun before e after => and_congr_right fun heq => ?_
  refine and_congr_right fun _ => and_congr_right fun _ => ?_
  have hbefore : name ∈ Members.names before → name ∈ Members.names scope.calculations :=
    fun mem => (mem_names_split name heq).mpr (.inl mem)
  rw [unresolved]
  split
  · next mem => simp [mem]
  · next hnot => simp [hnot, mt hbefore hnot]

theorem unknownOutput_mem_warnings_iff {name : String} :
    .unknownOutput name ∈ scope.warnings ↔
      name ∈ scope.outputs ∧ name ∉ Members.names scope.inputs ∧
        name ∉ Members.names scope.calculations := by
  simp only [warnings, List.mem_append, mem_outputWarnings_iff, mem_calculationsWarnings_iff]
  constructor
  · rintro (⟨_, calculation, _, _, _, mem⟩ | ⟨_, mem, hinputs, hcalculations, ⟨⟩⟩)
    · cases calculation?_of_mem mem
    · exact ⟨mem, hinputs, hcalculations⟩
  · rintro ⟨mem, hinputs, hcalculations⟩
    exact .inr ⟨name, mem, hinputs, hcalculations, rfl⟩

/-! ### The order of warnings -/

/-- The warnings of one calculation: the shadowed input, then the references by name. -/
theorem pairwise_calculationWarnings (order : List String) :
    (scope.calculationWarnings visible calculation e).Pairwise (ScopeWarning.Precedes order) := by
  have hmissing : ((sortedNames e.references).filter fun other =>
      !decide (other ∈ visible)).Pairwise (· < ·) := (pairwise_sortedNames _).filter _
  refine List.pairwise_append.mpr ⟨?_, List.pairwise_map.mpr (hmissing.imp fun hlt => ?_), ?_⟩
  · split <;> simp
  · exact .reference (unresolved_reference? scope calculation _)
      (unresolved_reference? scope calculation _) hlt
  · intro first hfirst second hsecond
    obtain ⟨name, _, rfl⟩ := List.mem_map.mp hsecond
    split at hfirst
    · cases List.mem_singleton.mp hfirst
      exact .shadowed (unresolved_reference? scope calculation name)
    · cases hfirst

/-- The warnings of calculations stand in the order of these. -/
theorem pairwise_calculationsWarnings {order : List String}
    (h : (Members.names calculations).Sublist order) :
    (scope.calculationsWarnings visible calculations).Pairwise (ScopeWarning.Precedes order) := by
  induction calculations generalizing visible with
  | nil => exact .nil
  | cons first rest ih =>
      have hrest : (Members.names rest).Sublist order := (List.sublist_cons_self _ _).trans h
      refine List.pairwise_append.mpr ⟨pairwise_calculationWarnings order, ih hrest, ?_⟩
      intro warning hwarning other hother
      obtain ⟨before, calculation, e, after, rfl, mem⟩ := mem_calculationsWarnings_iff.mp hother
      refine .calculation (calculation?_of_mem hwarning) (calculation?_of_mem mem) ?_
      refine List.Sublist.trans (List.Sublist.cons_cons _ ?_) h
      exact List.singleton_sublist.mpr (by simp)

/-- Warnings stand in the order of the calculations, and those of outputs behind. -/
theorem pairwise_warnings (scope : Scope) :
    scope.warnings.Pairwise (ScopeWarning.Precedes (Members.names scope.calculations)) := by
  refine List.pairwise_append.mpr ⟨pairwise_calculationsWarnings (List.Sublist.refl _), ?_, ?_⟩
  · refine List.pairwise_map.mpr (List.Pairwise.imp .output ?_)
    exact scope.pairwise_outputs.filter _
  · intro warning hwarning other hother
    obtain ⟨before, calculation, e, after, _, hwarning⟩ := mem_calculationsWarnings_iff.mp hwarning
    obtain ⟨name, _, _, _, rfl⟩ := mem_outputWarnings_iff.mp hother
    exact .beforeOutputs (calculation?_of_mem hwarning)

/-- No reference is warned of twice, in either wording. -/
theorem nodup_references_warnings (scope : Scope) :
    (scope.warnings.filterMap ScopeWarning.reference?).Nodup := by
  refine List.pairwise_filterMap.mpr (scope.pairwise_warnings.imp ?_)
  rintro first second hprecedes reference hfirst other hsecond rfl
  exact hprecedes.reference?_ne scope.nodup_calculations hfirst hsecond

/-! ### The classification -/

/-- **Every reference that cannot be resolved is classified.** The inspection says of a
name that a calculation refers to that it is calculated later exactly if neither an input
nor a calculation in front has it, and it is the name of the calculation itself or of one
behind it; and that it is unknown exactly if neither an input nor any calculation has it.
No reference is reported twice. Outputs are reported exactly if nothing has their name.
The warnings stand in the order of the calculations, and of one calculation by name. -/
theorem references_classified (scope : Scope) :
    (∀ calculation name, .calculatedLater calculation name ∈ scope.warnings ↔
      ∃ before e after, scope.calculations = before ++ (calculation, e) :: after ∧
        (∃ path, e.at? path = some (.reference name)) ∧
        name ∉ Members.names scope.inputs ∧ name ∉ Members.names before ∧
        (name = calculation ∨ name ∈ Members.names after)) ∧
    (∀ calculation name, .unknownName calculation name ∈ scope.warnings ↔
      ∃ before e after, scope.calculations = before ++ (calculation, e) :: after ∧
        (∃ path, e.at? path = some (.reference name)) ∧
        name ∉ Members.names scope.inputs ∧ name ∉ Members.names scope.calculations) ∧
    (∀ name, .unknownOutput name ∈ scope.warnings ↔
      name ∈ scope.outputs ∧ name ∉ Members.names scope.inputs ∧
        name ∉ Members.names scope.calculations) ∧
    (scope.warnings.filterMap ScopeWarning.reference?).Nodup ∧
    scope.warnings.Pairwise (ScopeWarning.Precedes (Members.names scope.calculations)) := by
  refine ⟨fun calculation name => ?_, fun calculation name => ?_, fun name => ?_,
    scope.nodup_references_warnings, scope.pairwise_warnings⟩
  · simp only [calculatedLater_mem_warnings_iff, Expr.mem_references_iff]
  · simp only [unknownName_mem_warnings_iff, Expr.mem_references_iff]
  · exact unknownOutput_mem_warnings_iff

/-- A scope with one calculation, which refers to itself. -/
def selfReferringScope : Scope where
  inputs := []
  calculations := [("total", .reference "total")]
  outputs := ["total"]
  nodup_inputs := List.nodup_nil
  nodup_calculations := List.pairwise_singleton _ _
  pairwise_outputs := List.pairwise_singleton _ _

/-- A calculation that refers to itself is warned of in the words for a calculation
behind it, though there is none behind it. -/
theorem self_reference_called_later :
    ¬ (.calculatedLater "total" "total" ∈ selfReferringScope.warnings ↔
      ∃ before e after, selfReferringScope.calculations = before ++ ("total", e) :: after ∧
        (∃ path, e.at? path = some (.reference "total")) ∧
        "total" ∉ Members.names selfReferringScope.inputs ∧
        "total" ∉ Members.names before ∧ "total" ∈ Members.names after) := by
  intro h
  have hwarned : ScopeWarning.calculatedLater "total" "total" ∈ selfReferringScope.warnings := by
    decide
  obtain ⟨before, e, after, heq, _, _, hbefore, hafter⟩ := h.mp hwarned
  have hlength : 1 = before.length + (after.length + 1) := by
    simpa [selfReferringScope] using congrArg List.length heq
  have hnil : after = [] := List.length_eq_zero_iff.mp (by omega)
  rw [hnil] at hafter
  cases hafter

end Scope

end Rulebook
