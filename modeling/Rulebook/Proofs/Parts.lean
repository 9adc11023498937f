import Rulebook.Expr

/-!
Expressions seen through their direct parts.

Every direct part of a branch is found under a step of its own, and what the mutual
definitions on expressions, pairs and fallbacks collect is what the direct parts
contribute.
-/

namespace Rulebook.Expr

/-! ### Steps -/

theorem exists_index_of_mem_pairParts {first second : Nat → Step} {index : Nat}
    {pairs : List (Expr × Expr)} {part : Step × Expr}
    (mem : part ∈ pairParts first second index pairs) :
    ∃ i, index ≤ i ∧ (part.1 = first i ∨ part.1 = second i) := by
  induction pairs generalizing index with
  | nil => cases mem
  | cons pair rest ih =>
      obtain ⟨a, b⟩ := pair
      simp only [pairParts, List.mem_cons] at mem
      rcases mem with rfl | rfl | mem
      · exact ⟨index, Nat.le_refl _, .inl rfl⟩
      · exact ⟨index, Nat.le_refl _, .inr rfl⟩
      · obtain ⟨i, hi, hstep⟩ := ih mem
        exact ⟨i, by omega, hstep⟩

theorem nodup_steps_pairParts {first second : Nat → Step}
    (hfirst : ∀ i j, first i = first j → i = j)
    (hsecond : ∀ i j, second i = second j → i = j) (hapart : ∀ i j, first i ≠ second j)
    (index : Nat) (pairs : List (Expr × Expr)) :
    ((pairParts first second index pairs).map (·.1)).Nodup := by
  induction pairs generalizing index with
  | nil => exact List.nodup_nil
  | cons pair rest ih =>
      obtain ⟨a, b⟩ := pair
      have hlater : ∀ step ∈ (pairParts first second (index + 1) rest).map (·.1),
          step ≠ first index ∧ step ≠ second index := by
        intro step hstep
        obtain ⟨part, mem, rfl⟩ := List.mem_map.mp hstep
        obtain ⟨i, hi, hstep | hstep⟩ := exists_index_of_mem_pairParts mem
        · rw [hstep]
          refine ⟨?_, hapart _ _⟩
          intro heq
          have := hfirst _ _ heq
          omega
        · rw [hstep]
          refine ⟨(hapart _ _).symm, ?_⟩
          intro heq
          have := hsecond _ _ heq
          omega
      simp only [pairParts, List.map_cons, List.nodup_cons, List.mem_cons, not_or]
      refine ⟨⟨hapart _ _, ?_⟩, ?_, ih (index + 1)⟩
      · intro mem
        exact (hlater _ mem).1 rfl
      · intro mem
        exact (hlater _ mem).2 rfl

theorem nodup_steps_append_fallback {parts : List (Step × Expr)} (otherwise : Option Expr)
    (hparts : (parts.map (·.1)).Nodup) (hother : ∀ part ∈ parts, part.1 ≠ .otherwise) :
    ((parts ++ fallbackPart otherwise).map (·.1)).Nodup := by
  cases otherwise with
  | none => rwa [fallbackPart, List.append_nil]
  | some e =>
      rw [List.map_append, List.nodup_append]
      refine ⟨hparts, by simp [fallbackPart], ?_⟩
      rintro _ mem _ mem' rfl
      obtain ⟨part, mem, heq⟩ := List.mem_map.mp mem
      exact hother part mem (heq.trans (by simpa [fallbackPart] using mem'))

/-- Each direct part has a step of its own. -/
theorem nodup_steps (e : Expr) : (e.parts.map (·.1)).Nodup := by
  cases e with
  | literal value => exact List.nodup_nil
  | reference name => exact List.nodup_nil
  | ifThenElse condition thenArm elseArm => simp [parts]
  | ruleChain rules otherwise =>
      have hrules := nodup_steps_pairParts (fun _ _ => Step.ruleCondition.inj)
        (fun _ _ => Step.ruleResult.inj) (fun _ _ => nofun) 0 rules
      apply nodup_steps_append_fallback otherwise hrules
      intro part mem heq
      obtain ⟨i, _, hstep | hstep⟩ := exists_index_of_mem_pairParts mem
      · rw [hstep] at heq
        cases heq
      · rw [hstep] at heq
        cases heq
  | finiteBranch subject cases otherwise =>
      have hcase : ∀ part ∈ pairParts .caseKey .caseResult 0 cases,
          part.1 ≠ .otherwise ∧ part.1 ≠ .subject := by
        intro part mem
        obtain ⟨i, _, hstep | hstep⟩ := exists_index_of_mem_pairParts mem
        · rw [hstep]
          exact ⟨nofun, nofun⟩
        · rw [hstep]
          exact ⟨nofun, nofun⟩
      have hcases := nodup_steps_pairParts (fun _ _ => Step.caseKey.inj)
        (fun _ _ => Step.caseResult.inj) (fun _ _ => nofun) 0 cases
      apply List.nodup_cons.mpr
      constructor
      · intro mem
        obtain ⟨part, mem, heq⟩ := List.mem_map.mp mem
        rcases List.mem_append.mp mem with mem | mem
        · exact (hcase part mem).2 heq
        · cases otherwise with
          | none => cases mem
          | some e =>
              rw [List.mem_singleton.mp mem] at heq
              cases heq
      · apply nodup_steps_append_fallback otherwise hcases
        intro part mem
        exact (hcase part mem).1

theorem find_of_nodup {parts : List (Step × Expr)} (h : (parts.map (·.1)).Nodup)
    {step : Step} {sub : Expr} (mem : (step, sub) ∈ parts) :
    parts.find? (·.1 == step) = some (step, sub) := by
  induction parts with
  | nil => cases mem
  | cons part rest ih =>
      obtain ⟨hfirst, hrest⟩ := List.nodup_cons.mp h
      rcases List.mem_cons.mp mem with rfl | mem
      · exact List.find?_cons_of_pos (beq_self_eq_true step)
      · have hne : part.1 ≠ step := by
          rintro rfl
          exact hfirst (List.mem_map.mpr ⟨_, mem, rfl⟩)
        rw [List.find?_cons_of_neg (by simpa using hne)]
        exact ih hrest mem

/-- The part under a step is the direct part listed with it. -/
theorem part_eq_some_iff {e : Expr} {step : Step} {sub : Expr} :
    e.part? step = some sub ↔ (step, sub) ∈ e.parts := by
  constructor
  · intro h
    obtain ⟨⟨found, sub⟩, hfind, rfl⟩ := Option.map_eq_some_iff.mp h
    have hstep : found = step := by simpa using List.find?_some hfind
    exact hstep ▸ List.mem_of_find?_eq_some hfind
  · intro mem
    exact Option.map_eq_some_iff.mpr ⟨_, find_of_nodup (nodup_steps e) mem, rfl⟩

/-- What stands below a direct part is what the part has there. -/
theorem at?_cons_of_mem_parts {e sub : Expr} {step : Step} (mem : (step, sub) ∈ e.parts)
    (path : Path) : e.at? (step :: path) = sub.at? path := by
  rw [at?, part_eq_some_iff.mpr mem, Option.bind_some]

/-! ### All parts -/

section Parts

variable (holds : Expr → Prop) {rules cases : List (Expr × Expr)} {otherwise : Option Expr}

theorem forall_mem_pairParts {first second : Nat → Step} (index : Nat)
    (pairs : List (Expr × Expr)) :
    (∀ part ∈ pairParts first second index pairs, holds part.2) ↔
      ∀ pair ∈ pairs, holds pair.1 ∧ holds pair.2 := by
  induction pairs generalizing index with
  | nil => simp [pairParts]
  | cons pair rest ih =>
      obtain ⟨a, b⟩ := pair
      simp only [pairParts, List.forall_mem_cons, ih, and_assoc]

theorem forall_mem_fallbackPart :
    (∀ part ∈ fallbackPart otherwise, holds part.2) ↔ ∀ e, otherwise = some e → holds e := by
  cases otherwise <;> simp [fallbackPart]

/-- Something holds of all parts of a conditional if it holds of each of the three. -/
theorem forall_mem_ifThenElse {condition thenArm elseArm : Expr} :
    (∀ part ∈ (ifThenElse condition thenArm elseArm).parts, holds part.2) ↔
      holds condition ∧ holds thenArm ∧ holds elseArm := by
  simp [parts]

/-- Something holds of all parts of a chain if it holds of its rules and its fallback. -/
theorem forall_mem_ruleChain :
    (∀ part ∈ (ruleChain rules otherwise).parts, holds part.2) ↔
      (∀ rule ∈ rules, holds rule.1 ∧ holds rule.2) ∧ ∀ e, otherwise = some e → holds e := by
  simp only [parts, List.forall_mem_append, forall_mem_pairParts, forall_mem_fallbackPart]

/-- Something holds of all parts of a dispatch if it holds of its subject, its cases and
its fallback. -/
theorem forall_mem_finiteBranch {subject : Expr} :
    (∀ part ∈ (finiteBranch subject cases otherwise).parts, holds part.2) ↔
      holds subject ∧ (∀ case ∈ cases, holds case.1 ∧ holds case.2) ∧
        ∀ e, otherwise = some e → holds e := by
  simp only [parts, List.forall_mem_cons, List.forall_mem_append, forall_mem_pairParts,
    forall_mem_fallbackPart]

end Parts

/-! ### Height -/

theorem pairsHeight_le_iff {pairs : List (Expr × Expr)} {bound : Nat} :
    pairsHeight pairs ≤ bound ↔
      ∀ pair ∈ pairs, pair.1.height ≤ bound ∧ pair.2.height ≤ bound := by
  induction pairs with
  | nil => simp [pairsHeight]
  | cons pair rest ih =>
      obtain ⟨a, b⟩ := pair
      rw [List.forall_mem_cons, ← ih]
      simp only [pairsHeight, Nat.max_le, and_assoc]

theorem fallbackHeight_le_iff {otherwise : Option Expr} {bound : Nat} :
    fallbackHeight otherwise ≤ bound ↔ ∀ e, otherwise = some e → e.height ≤ bound := by
  cases otherwise <;> simp [fallbackHeight]

/-- A branch is one level higher than its highest part. -/
theorem height_le_succ_iff {e : Expr} {bound : Nat} :
    e.height ≤ bound + 1 ↔ ∀ part ∈ e.parts, part.2.height ≤ bound := by
  cases e with
  | literal value => simp [height, parts]
  | reference name => simp [height, parts]
  | ifThenElse condition thenArm elseArm =>
      rw [forall_mem_ifThenElse (·.height ≤ bound)]
      simp only [height]
      omega
  | ruleChain rules otherwise =>
      rw [forall_mem_ruleChain (·.height ≤ bound), ← pairsHeight_le_iff, ← fallbackHeight_le_iff]
      simp only [height]
      omega
  | finiteBranch subject cases otherwise =>
      rw [forall_mem_finiteBranch (·.height ≤ bound), ← pairsHeight_le_iff,
        ← fallbackHeight_le_iff]
      simp only [height]
      omega

/-- A part is lower than the whole. -/
theorem height_lt_of_mem_parts {e : Expr} {step : Step} {sub : Expr}
    (mem : (step, sub) ∈ e.parts) : sub.height < e.height := by
  have hpos : 0 < e.height := by
    cases e with
    | literal value => cases mem
    | reference name => cases mem
    | ifThenElse _ _ _ | ruleChain _ _ | finiteBranch _ _ _ => exact Nat.add_pos_left Nat.one_pos _
  obtain ⟨bound, hbound⟩ : ∃ bound, e.height = bound + 1 := ⟨e.height - 1, by omega⟩
  have hpart : sub.height ≤ bound := height_le_succ_iff.mp (Nat.le_of_eq hbound) _ mem
  omega

/-- Induction over the direct parts: what holds of an expression if it holds of its parts
holds of all expressions. -/
@[elab_as_elim]
theorem partsInduction {holds : Expr → Prop}
    (whole : ∀ e, (∀ part ∈ e.parts, holds part.2) → holds e) (e : Expr) : holds e :=
  whole e fun part _ => partsInduction whole part.2
termination_by e.height
decreasing_by exact height_lt_of_mem_parts ‹_›

/-! ### References -/

theorem references_of_mem_pairParts {first second : Nat → Step} {index : Nat}
    {pairs : List (Expr × Expr)} {step : Step} {sub : Expr} {name : String}
    (mem : (step, sub) ∈ pairParts first second index pairs) (hname : name ∈ sub.references) :
    name ∈ pairsReferences pairs := by
  induction pairs generalizing index with
  | nil => cases mem
  | cons pair rest ih =>
      obtain ⟨a, b⟩ := pair
      simp only [pairsReferences, List.mem_append]
      simp only [pairParts, List.mem_cons, Prod.mk.injEq] at mem
      rcases mem with ⟨_, rfl⟩ | ⟨_, rfl⟩ | mem
      · exact .inl hname
      · exact .inr (.inl hname)
      · exact .inr (.inr (ih mem))

theorem references_of_mem_fallbackPart {otherwise : Option Expr} {step : Step} {sub : Expr}
    {name : String} (mem : (step, sub) ∈ fallbackPart otherwise)
    (hname : name ∈ sub.references) : name ∈ fallbackReferences otherwise := by
  cases otherwise with
  | none => cases mem
  | some e =>
      simp only [fallbackPart, List.mem_singleton, Prod.mk.injEq] at mem
      obtain ⟨_, rfl⟩ := mem
      exact hname

/-- A part refers to no other names than the whole. -/
theorem references_of_mem_parts {e : Expr} {step : Step} {sub : Expr} {name : String}
    (mem : (step, sub) ∈ e.parts) (hname : name ∈ sub.references) : name ∈ e.references := by
  cases e with
  | literal value => cases mem
  | reference other => cases mem
  | ifThenElse condition thenArm elseArm =>
      simp only [references, List.mem_append]
      simp only [parts, List.mem_cons, List.not_mem_nil, or_false, Prod.mk.injEq] at mem
      rcases mem with ⟨_, rfl⟩ | ⟨_, rfl⟩ | ⟨_, rfl⟩
      · exact .inl hname
      · exact .inr (.inl hname)
      · exact .inr (.inr hname)
  | ruleChain rules otherwise =>
      simp only [references, List.mem_append]
      rcases List.mem_append.mp mem with mem | mem
      · exact .inl (references_of_mem_pairParts mem hname)
      · exact .inr (references_of_mem_fallbackPart mem hname)
  | finiteBranch subject cases otherwise =>
      simp only [references, List.mem_append]
      simp only [parts, List.mem_cons, List.mem_append, Prod.mk.injEq] at mem
      rcases mem with ⟨_, rfl⟩ | mem | mem
      · exact .inl hname
      · exact .inr (.inl (references_of_mem_pairParts mem hname))
      · exact .inr (.inr (references_of_mem_fallbackPart mem hname))

theorem not_mem_pairsReferences_iff {pairs : List (Expr × Expr)} {name : String} :
    name ∉ pairsReferences pairs ↔
      ∀ pair ∈ pairs, name ∉ pair.1.references ∧ name ∉ pair.2.references := by
  induction pairs with
  | nil => simp [pairsReferences]
  | cons pair rest ih =>
      obtain ⟨a, b⟩ := pair
      rw [List.forall_mem_cons, ← ih]
      simp only [pairsReferences, List.mem_append, not_or, and_assoc]

theorem not_mem_fallbackReferences_iff {otherwise : Option Expr} {name : String} :
    name ∉ fallbackReferences otherwise ↔ ∀ e, otherwise = some e → name ∉ e.references := by
  cases otherwise <;> simp [fallbackReferences]

/-- An expression that refers to a name is the reference, or one of its parts refers to
the name. -/
theorem exists_part_of_references {e : Expr} {name : String} (h : name ∈ e.references) :
    e = .reference name ∨ ∃ part ∈ e.parts, name ∈ part.2.references := by
  refine Decidable.or_iff_not_imp_right.mpr fun hnone => ?_
  have hparts : ∀ part ∈ e.parts, name ∉ part.2.references :=
    fun part mem hname => hnone ⟨part, mem, hname⟩
  cases e with
  | literal value => cases h
  | reference other => rw [List.mem_singleton.mp h]
  | ifThenElse condition thenArm elseArm =>
      rw [forall_mem_ifThenElse (name ∉ ·.references)] at hparts
      simp [references, hparts] at h
  | ruleChain rules otherwise =>
      rw [forall_mem_ruleChain (name ∉ ·.references), ← not_mem_pairsReferences_iff,
        ← not_mem_fallbackReferences_iff] at hparts
      simp [references, hparts] at h
  | finiteBranch subject cases otherwise =>
      rw [forall_mem_finiteBranch (name ∉ ·.references), ← not_mem_pairsReferences_iff,
        ← not_mem_fallbackReferences_iff] at hparts
      simp [references, hparts] at h

/-- The names referred to are those of the references anywhere in the tree. -/
theorem mem_references_iff {e : Expr} {name : String} :
    name ∈ e.references ↔ ∃ path, e.at? path = some (.reference name) := by
  constructor
  · intro h
    induction e using partsInduction with
    | whole e ih =>
        rcases exists_part_of_references h with rfl | ⟨⟨step, sub⟩, mem, hname⟩
        · exact ⟨[], rfl⟩
        · obtain ⟨path, hpath⟩ := ih _ mem hname
          exact ⟨step :: path, (at?_cons_of_mem_parts mem path).trans hpath⟩
  · rintro ⟨path, hpath⟩
    induction path generalizing e with
    | nil =>
        cases hpath
        exact List.mem_singleton_self name
    | cons step path ih =>
        obtain ⟨sub, hsub, hpath⟩ := Option.bind_eq_some_iff.mp hpath
        exact references_of_mem_parts (part_eq_some_iff.mp hsub) (ih hpath)

end Rulebook.Expr
