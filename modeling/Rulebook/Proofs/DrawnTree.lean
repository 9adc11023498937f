import Rulebook.Display.Label
import Rulebook.Proofs.Parts

/-!
Drawings of expressions.

A branch is drawn as groups of parts (`Expr.groups`, `exprTree_eq`), and of its arms the
selection alone is marked (`exprTree_marked`). Each mark in a drawing stands at an arm that is
the selection of its branch (`shows_of_marked`), and nothing is marked below what is dimmed
(`not_marked_inside_dimmed`).
-/

namespace Rulebook

open Display

/-! ### Reading a drawing -/

namespace Display

/-- A tree that another one holds somewhere, or that one itself. -/
inductive Tree.Holds {α : Type} : Tree α → Tree α → Prop where
  | self (t : Tree α) : Holds t t
  | child {label : α} {children : List (Tree α)} {child t : Tree α} :
      child ∈ children → Holds child t → Holds (.node label children) t

/-- An arm with the tick. -/
def Label.isMarked : Label → Bool
  | .group _ .taken => true
  | _ => false

/-- The step to the part that has a name in a group. -/
def Group.step? : Group → (name : String) → Option Step
  | .condition, "" => some .condition
  | .subject, "" => some .subject
  | .arm .thenArm, "" => some .thenArm
  | .arm .elseArm, "" => some .elseArm
  | .arm .otherwise, "" => some .otherwise
  | .arm (.rule index), "when" => some (.ruleCondition index)
  | .arm (.rule index), "then" => some (.ruleResult index)
  | .arm (.case index), "key" => some (.caseKey index)
  | .arm (.case index), "value" => some (.caseResult index)
  | _, _ => none

/-- The part under a step, in a group. -/
def Label.isPartUnder (group : Group) (step : Step) : Label → Bool
  | .part name _ _ => group.step? name = some step
  | _ => false

/-- In the drawing of an expression, the drawing of the part at a place. -/
inductive ShowsAt : Tree Label → Path → Tree Label → Prop where
  | here (t : Tree Label) : ShowsAt t [] t
  | part {label : Label} {groups parts : List (Tree Label)} {group : Group} {mark : Mark}
      {t shown : Tree Label} {step : Step} {path : Path} :
      .node (.group group mark) parts ∈ groups → t ∈ parts → t.label.isPartUnder group step →
      ShowsAt t path shown → ShowsAt (.node label groups) (step :: path) shown

/-- In the drawing of an expression, the marks lead to a leaf: each branch on the way has one
marked arm, and the way goes on with the result of this arm. -/
inductive MarksLeadTo : Tree Label → Expr → Prop where
  | leaf {name : String} {e : Expr} : e.isBranch = false →
      MarksLeadTo (.node (.part name e false) []) e
  | arm {name : String} {e leaf : Expr} {groups parts : List (Tree Label)} {arm : Arm}
      {t : Tree Label} : e.isBranch = true →
      groups.filter (·.label.isMarked) = [.node (.group (.arm arm) .taken) parts] →
      parts.filter (·.label.isPartUnder (.arm arm) arm.step) = [t] → MarksLeadTo t leaf →
      MarksLeadTo (.node (.part name e false) groups) leaf

/-- The marks lead to one leaf at most. -/
theorem MarksLeadTo.unique {t : Tree Label} {leaf leaf' : Expr} (h : MarksLeadTo t leaf)
    (h' : MarksLeadTo t leaf') : leaf = leaf' := by
  induction h with
  | leaf hleaf =>
      cases h' with
      | leaf _ => rfl
      | arm hbranch _ _ _ => cases hleaf.symm.trans hbranch
  | arm hbranch hmarked hresult _ ih =>
      cases h' with
      | leaf hleaf => cases hleaf.symm.trans hbranch
      | arm _ hmarked' hresult' h' =>
          cases hmarked.symm.trans hmarked'
          cases hresult.symm.trans hresult'
          exact ih h'

end Display

/-! ### The groups of a branch -/

/-- A part of a group: its name there, the step to it, and the part. -/
structure GroupPart where
  name : String
  step : Step
  expr : Expr

/-- In a list without two equal keys, an element is the only one with its key. -/
theorem filter_key_of_nodup {α κ : Type} [DecidableEq κ] {key : α → κ} {l : List α} {x : α}
    (h : (l.map key).Nodup) (mem : x ∈ l) : l.filter (fun y => key y = key x) = [x] := by
  induction l with
  | nil => cases mem
  | cons y rest ih =>
      obtain ⟨hfirst, hrest⟩ := List.nodup_cons.mp h
      rcases List.mem_cons.mp mem with rfl | mem
      · rw [List.filter_cons_of_pos (by simp), List.filter_eq_nil_iff.mpr]
        intro z hz heq
        exact hfirst (List.mem_map.mpr ⟨z, hz, of_decide_eq_true heq⟩)
      · rw [List.filter_cons_of_neg, ih hrest mem]
        intro heq
        exact hfirst (List.mem_map.mpr ⟨x, mem, (of_decide_eq_true heq).symm⟩)

/-- What is made of the one element with a key is found by a test that shows the key. -/
theorem filter_map_of_nodup {α β κ : Type} [DecidableEq κ] {key : α → κ} {l : List α} {x : α}
    {make : α → β} {test : β → Bool} (h : (l.map key).Nodup) (mem : x ∈ l)
    (htest : ∀ y ∈ l, test (make y) = decide (key y = key x)) :
    (l.map make).filter test = [make x] := by
  have hfilter : l.filter (test ∘ make) = [x] :=
    (List.filter_congr htest).trans (filter_key_of_nodup h mem)
  rw [List.filter_map, hfilter, List.map_singleton]

namespace Expr

/-- The groups of rules or cases from an index on. -/
def pairGroups (arm : Nat → Arm) (first second : Nat → Step) (firstName secondName : String) :
    (index : Nat) → List (Expr × Expr) → List (Group × List GroupPart)
  | _, [] => []
  | index, (a, b) :: rest =>
    (.arm (arm index), [⟨firstName, first index, a⟩, ⟨secondName, second index, b⟩]) ::
      pairGroups arm first second firstName secondName (index + 1) rest

/-- The group of a fallback, if there is one. -/
def fallbackGroup : Option Expr → List (Group × List GroupPart)
  | none => []
  | some e => [(.arm .otherwise, [⟨"", .otherwise, e⟩])]

/-- The groups that the parts of a branch are drawn in. -/
def groups : Expr → List (Group × List GroupPart)
  | .literal _ | .reference _ => []
  | .ifThenElse c t e =>
    [(.condition, [⟨"", .condition, c⟩]), (.arm .thenArm, [⟨"", .thenArm, t⟩]),
      (.arm .elseArm, [⟨"", .elseArm, e⟩])]
  | .ruleChain rules o =>
    pairGroups .rule .ruleCondition .ruleResult "when" "then" 0 rules ++ fallbackGroup o
  | .finiteBranch s cases o =>
    (.subject, [⟨"", .subject, s⟩]) ::
      (pairGroups .case .caseKey .caseResult "key" "value" 0 cases ++ fallbackGroup o)

theorem parts_of_pairGroups (arm : Nat → Arm) (first second : Nat → Step)
    (firstName secondName : String) (index : Nat) (pairs : List (Expr × Expr)) :
    (pairGroups arm first second firstName secondName index pairs).flatMap
      (fun group => group.2.map fun part => (part.step, part.expr)) =
        pairParts first second index pairs := by
  induction pairs generalizing index with
  | nil => rfl
  | cons pair rest ih =>
      obtain ⟨a, b⟩ := pair
      simp [pairGroups, pairParts, ih]

theorem parts_of_fallbackGroup (otherwise : Option Expr) :
    (fallbackGroup otherwise).flatMap
      (fun group => group.2.map fun part => (part.step, part.expr)) = fallbackPart otherwise := by
  cases otherwise <;> rfl

/-- The groups of a branch hold its direct parts, in order. -/
theorem parts_of_groups (e : Expr) :
    e.groups.flatMap (fun group => group.2.map fun part => (part.step, part.expr)) = e.parts := by
  cases e with
  | literal v => rfl
  | reference name => rfl
  | ifThenElse c t f => rfl
  | ruleChain rules o =>
      simp only [groups, parts, List.flatMap_append, parts_of_pairGroups, parts_of_fallbackGroup]
  | finiteBranch s cases o =>
      simp only [groups, parts, List.flatMap_cons, List.flatMap_append, parts_of_pairGroups,
        parts_of_fallbackGroup, List.map_cons, List.map_nil, List.singleton_append]

theorem mem_parts_iff_groups {e sub : Expr} {step : Step} :
    (step, sub) ∈ e.parts ↔ ∃ group ∈ e.groups, ∃ name, ⟨name, step, sub⟩ ∈ group.2 := by
  rw [← parts_of_groups]
  simp only [List.mem_flatMap, List.mem_map, Prod.mk.injEq]
  constructor
  · rintro ⟨group, hgroup, ⟨name, _, _⟩, hpart, rfl, rfl⟩
    exact ⟨group, hgroup, name, hpart⟩
  · rintro ⟨group, hgroup, name, hpart⟩
    exact ⟨group, hgroup, _, hpart, rfl, rfl⟩

theorem mem_pairGroups {arm : Nat → Arm} {first second : Nat → Step}
    {firstName secondName : String} {index : Nat} {pairs : List (Expr × Expr)}
    {group : Group × List GroupPart}
    (mem : group ∈ pairGroups arm first second firstName secondName index pairs) :
    ∃ i, index ≤ i ∧ ∃ a b, group =
      (.arm (arm i), [⟨firstName, first i, a⟩, ⟨secondName, second i, b⟩]) := by
  induction pairs generalizing index with
  | nil => cases mem
  | cons pair rest ih =>
      obtain ⟨a, b⟩ := pair
      rcases List.mem_cons.mp mem with rfl | mem
      · exact ⟨index, Nat.le_refl _, a, b, rfl⟩
      · obtain ⟨i, hi, hgroup⟩ := ih mem
        exact ⟨i, by omega, hgroup⟩

theorem mem_fallbackGroup {otherwise : Option Expr} {group : Group × List GroupPart}
    (mem : group ∈ fallbackGroup otherwise) :
    ∃ e, group = (.arm .otherwise, [⟨"", .otherwise, e⟩]) := by
  cases otherwise with
  | none => cases mem
  | some e => exact ⟨e, List.mem_singleton.mp mem⟩

theorem step?_of_mem_pairGroups {arm : Nat → Arm} {first second : Nat → Step}
    {firstName secondName : String} {index : Nat} {pairs : List (Expr × Expr)}
    {group : Group × List GroupPart} {part : GroupPart}
    (hfirst : ∀ i, (Group.arm (arm i)).step? firstName = some (first i))
    (hsecond : ∀ i, (Group.arm (arm i)).step? secondName = some (second i))
    (hgroup : group ∈ pairGroups arm first second firstName secondName index pairs)
    (hpart : part ∈ group.2) : group.1.step? part.name = some part.step := by
  obtain ⟨i, -, a, b, rfl⟩ := mem_pairGroups hgroup
  rcases List.mem_cons.mp hpart with rfl | hpart
  · exact hfirst i
  · rw [List.mem_singleton.mp hpart]
    exact hsecond i

theorem step?_of_mem_fallbackGroup {otherwise : Option Expr} {group : Group × List GroupPart}
    {part : GroupPart} (hgroup : group ∈ fallbackGroup otherwise) (hpart : part ∈ group.2) :
    group.1.step? part.name = some part.step := by
  obtain ⟨e, rfl⟩ := mem_fallbackGroup hgroup
  rw [List.mem_singleton.mp hpart]
  rfl

/-- A part of a group is known by its name there. -/
theorem step?_of_mem_groups {e : Expr} {group : Group × List GroupPart} {part : GroupPart}
    (hgroup : group ∈ e.groups) (hpart : part ∈ group.2) :
    group.1.step? part.name = some part.step := by
  cases e with
  | literal v => cases hgroup
  | reference name => cases hgroup
  | ifThenElse c t f =>
      simp only [groups, List.mem_cons, List.not_mem_nil, or_false] at hgroup
      rcases hgroup with rfl | rfl | rfl
      · rw [List.mem_singleton.mp hpart]; rfl
      · rw [List.mem_singleton.mp hpart]; rfl
      · rw [List.mem_singleton.mp hpart]; rfl
  | ruleChain rules o =>
      rcases List.mem_append.mp hgroup with hgroup | hgroup
      · exact step?_of_mem_pairGroups (fun _ => rfl) (fun _ => rfl) hgroup hpart
      · exact step?_of_mem_fallbackGroup hgroup hpart
  | finiteBranch s cases o =>
      rcases List.mem_cons.mp hgroup with rfl | hgroup
      · rw [List.mem_singleton.mp hpart]; rfl
      rcases List.mem_append.mp hgroup with hgroup | hgroup
      · exact step?_of_mem_pairGroups (fun _ => rfl) (fun _ => rfl) hgroup hpart
      · exact step?_of_mem_fallbackGroup hgroup hpart

theorem keys_pairGroups (arm : Nat → Arm) (first second : Nat → Step)
    (firstName secondName : String) (index : Nat) (pairs : List (Expr × Expr)) :
    (pairGroups arm first second firstName secondName index pairs).map (·.1) =
      (List.range' index pairs.length).map fun i => .arm (arm i) := by
  induction pairs generalizing index with
  | nil => rfl
  | cons pair rest ih => simp [pairGroups, ih, List.range'_succ]

theorem nodup_pairGroups {arm : Nat → Arm} (harm : Function.Injective arm)
    (hother : ∀ i, arm i ≠ .otherwise) (first second : Nat → Step)
    (firstName secondName : String) (pairs : List (Expr × Expr)) (otherwise : Option Expr) :
    ((pairGroups arm first second firstName secondName 0 pairs ++
      fallbackGroup otherwise).map (·.1)).Nodup := by
  rw [List.map_append, keys_pairGroups]
  refine List.nodup_append.mpr ⟨?_, ?_, ?_⟩
  · refine List.pairwise_map.mpr (List.Pairwise.imp ?_ (List.nodup_range' 1))
    exact fun hne h => hne (harm (Group.arm.inj h))
  · cases otherwise <;> simp [fallbackGroup]
  · rintro group hgroup _ hfallback rfl
    obtain ⟨i, -, rfl⟩ := List.mem_map.mp hgroup
    cases otherwise with
    | none => cases hfallback
    | some e => exact hother i (Group.arm.inj (List.mem_singleton.mp hfallback))

/-- No two groups of a branch are the same. -/
theorem nodup_groups (e : Expr) : (e.groups.map (·.1)).Nodup := by
  cases e with
  | literal v => exact List.nodup_nil
  | reference name => exact List.nodup_nil
  | ifThenElse c t f => simp [groups]
  | ruleChain rules o => exact nodup_pairGroups (fun _ _ h => Arm.rule.inj h) nofun ..
  | finiteBranch s cases o =>
      refine List.nodup_cons.mpr ⟨?_, nodup_pairGroups (fun _ _ h => Arm.case.inj h) nofun ..⟩
      simp only [List.mem_map, List.mem_append]
      rintro ⟨group, mem | mem, hgroup⟩
      · obtain ⟨i, -, a, b, rfl⟩ := mem_pairGroups mem
        cases hgroup
      · obtain ⟨e, rfl⟩ := mem_fallbackGroup mem
        cases hgroup

/-- No two parts of a group are under the same step. -/
theorem nodup_steps_of_mem_groups {e : Expr} {group : Group × List GroupPart}
    (mem : group ∈ e.groups) : (group.2.map (·.step)).Nodup := by
  have hsteps := nodup_steps e
  rw [← parts_of_groups, List.map_flatMap] at hsteps
  have hgroup := (List.pairwise_flatMap.mp hsteps).1 group mem
  rwa [List.map_map] at hgroup

end Expr

namespace Display

/-- The result of an arm is in the group of the arm. -/
theorem Group.eq_arm_of_step? {group : Group} {name : String} {arm : Arm}
    (h : group.step? name = some arm.step) : group = .arm arm := by
  unfold Group.step? at h
  split at h <;> cases arm <;> simp_all [Arm.step]

/-! ### The drawing of one level -/

/-- The mark of a group of a branch with the given selection. -/
def Group.mark (dimmed : Bool) (selection : Option Arm) : Group → Mark
  | .condition | .subject => decidingMark dimmed
  | .arm taken => armMark dimmed selection taken

/-- A part of a group, drawn. -/
def drawnPart (selections : Selections) (dimmed : Bool) (part : GroupPart) : Tree Label :=
  exprTree (selections.below part.step) part.name dimmed part.expr

/-- A group of a branch, drawn. -/
def drawnGroup (selections : Selections) (dimmed : Bool) (group : Group × List GroupPart) :
    Tree Label :=
  groupTree group.1 (group.1.mark dimmed (selections []))
    fun dim => group.2.map (drawnPart selections dim)

theorem ruleTrees_eq (selections : Selections) (dimmed : Bool) (index : Nat)
    (rules : List (Expr × Expr)) :
    ruleTrees selections dimmed index rules =
      (Expr.pairGroups .rule .ruleCondition .ruleResult "when" "then" index rules).map
        (drawnGroup selections dimmed) := by
  induction rules generalizing index with
  | nil => rfl
  | cons rule rest ih => simp only [ruleTrees, Expr.pairGroups, List.map_cons, ih]; rfl

theorem caseTrees_eq (selections : Selections) (dimmed : Bool) (index : Nat)
    (cases : List (Expr × Expr)) :
    caseTrees selections dimmed index cases =
      (Expr.pairGroups .case .caseKey .caseResult "key" "value" index cases).map
        (drawnGroup selections dimmed) := by
  induction cases generalizing index with
  | nil => rfl
  | cons case rest ih => simp only [caseTrees, Expr.pairGroups, List.map_cons, ih]; rfl

theorem fallbackTrees_eq (selections : Selections) (dimmed : Bool) (otherwise : Option Expr) :
    fallbackTrees selections dimmed otherwise =
      (Expr.fallbackGroup otherwise).map (drawnGroup selections dimmed) := by
  cases otherwise <;> rfl

/-- An expression is drawn as its groups. -/
theorem exprTree_eq (selections : Selections) (name : String) (dimmed : Bool) (e : Expr) :
    exprTree selections name dimmed e =
      .node (.part name e dimmed) (e.groups.map (drawnGroup selections dimmed)) := by
  cases e with
  | literal v => rfl
  | reference other => rfl
  | ifThenElse c t f => rfl
  | ruleChain rules o =>
      simp only [exprTree, Expr.groups, List.map_append, ruleTrees_eq, fallbackTrees_eq]
  | finiteBranch s cases o =>
      simp only [exprTree, Expr.groups, List.map_cons, List.map_append, caseTrees_eq,
        fallbackTrees_eq]
      rfl

theorem label_exprTree (selections : Selections) (name : String) (dimmed : Bool) (e : Expr) :
    (exprTree selections name dimmed e).label = .part name e dimmed := by
  rw [exprTree_eq]
  rfl

/-- A group is marked if it is the selected arm of a branch that is not dimmed. -/
theorem Group.mark_eq_taken_iff {dimmed : Bool} {selection : Option Arm} {group : Group} :
    group.mark dimmed selection = .taken ↔
      dimmed = false ∧ ∃ arm, group = .arm arm ∧ selection = some arm := by
  cases group with
  | condition | subject => cases dimmed <;> simp [mark, decidingMark]
  | arm arm =>
      cases dimmed with
      | true => simp [mark, armMark]
      | false =>
          cases selection with
          | none => simp [mark, armMark]
          | some taken =>
              by_cases h : taken = arm
              · simp [mark, armMark, h]
              · simp [mark, armMark, h]

/-! ### Marks in a drawing -/

section Marks

variable {selections : Selections} {name : String} {dimmed : Bool} {e sub : Expr}
  {t : Tree Label} {arm : Arm}

theorem isMarked_drawnGroup {group : Group × List GroupPart} :
    (drawnGroup selections dimmed group).label.isMarked ↔
      group.1.mark dimmed (selections []) = .taken := by
  simp only [drawnGroup, groupTree, Tree.label]
  cases group.1.mark dimmed (selections []) <;> simp [Label.isMarked]

/-- Of a branch that is not dimmed, the selected arm is marked alone, and it holds one
drawing of its result, which is not dimmed. -/
theorem exprTree_marked (hselected : selections [] = some arm)
    (hresult : (arm.step, sub) ∈ e.parts) :
    ∃ groups parts part,
      exprTree selections name false e = .node (.part name e false) groups ∧
      groups.filter (·.label.isMarked) = [.node (.group (.arm arm) .taken) parts] ∧
      parts.filter (·.label.isPartUnder (.arm arm) arm.step) =
        [exprTree (selections.below arm.step) part false sub] := by
  obtain ⟨⟨key, parts⟩, hgroup, part, hpart⟩ := Expr.mem_parts_iff_groups.mp hresult
  have hsteps : ∀ p ∈ parts, key.step? p.name = some p.step :=
    fun p hp => Expr.step?_of_mem_groups hgroup hp
  obtain rfl : key = .arm arm := Group.eq_arm_of_step? (hsteps _ hpart)
  have hdrawn : drawnGroup selections false (.arm arm, parts) =
      .node (.group (.arm arm) .taken)
        (parts.map (drawnPart selections false)) := by
    have hmark : (Group.arm arm).mark false (selections []) = .taken :=
      Group.mark_eq_taken_iff.mpr ⟨rfl, arm, rfl, hselected⟩
    simp only [drawnGroup, hmark, groupTree, reduceCtorEq, decide_false]
  have hmarked : ∀ group ∈ e.groups,
      (drawnGroup selections false group).label.isMarked = decide (group.1 = .arm arm) := by
    intro group _
    rw [Bool.eq_iff_iff, isMarked_drawnGroup, Group.mark_eq_taken_iff, hselected]
    simp
  have hunder : ∀ p ∈ parts, (drawnPart selections false p).label.isPartUnder
      (.arm arm) arm.step = decide (p.step = arm.step) := by
    intro p hp
    rw [drawnPart, label_exprTree, Label.isPartUnder, hsteps p hp]
    simp
  refine ⟨_, parts.map (drawnPart selections false), part, exprTree_eq _ _ _ _, ?_, ?_⟩
  · rw [← hdrawn]
    exact filter_map_of_nodup (Expr.nodup_groups e) hgroup hmarked
  · exact filter_map_of_nodup (Expr.nodup_steps_of_mem_groups hgroup) hpart hunder

/-- What a drawn group holds is the group, or held by the drawing of one of its parts. -/
theorem holds_drawnGroup_cases {group : Group × List GroupPart}
    (h : (drawnGroup selections dimmed group).Holds t) :
    t = drawnGroup selections dimmed group ∨
      ∃ part ∈ group.2,
        (drawnPart selections (group.1.mark dimmed (selections []) = .dimmed) part).Holds t := by
  cases h with
  | self => exact .inl rfl
  | child mem h =>
      obtain ⟨part, hpart, rfl⟩ := List.mem_map.mp mem
      exact .inr ⟨part, hpart, h⟩

/-- What the drawing of an expression holds is that drawing, or held by one of its groups. -/
theorem holds_exprTree_cases (h : (exprTree selections name dimmed e).Holds t) :
    t = exprTree selections name dimmed e ∨
      ∃ group ∈ e.groups, (drawnGroup selections dimmed group).Holds t := by
  rw [exprTree_eq] at h
  cases h with
  | self => exact .inl (exprTree_eq _ _ _ _).symm
  | child mem h =>
      obtain ⟨group, hgroup, rfl⟩ := List.mem_map.mp mem
      exact .inr ⟨group, hgroup, h⟩

/-- Nothing is marked in what is drawn dimmed. -/
theorem not_marked_of_dimmed (h : (exprTree selections name true e).Holds t) (group : Group) :
    t.label ≠ .group group .taken := by
  induction e using Expr.partsInduction generalizing selections name with
  | whole e ih =>
      intro hmarked
      rcases holds_exprTree_cases h with rfl | ⟨drawn, hdrawn, h⟩
      · rw [label_exprTree] at hmarked
        cases hmarked
      rcases holds_drawnGroup_cases h with rfl | ⟨part, hpart, h⟩
      · obtain ⟨-, hmark⟩ := Label.group.inj hmarked
        cases (Group.mark_eq_taken_iff.mp hmark).1
      · have hmark : drawn.1.mark true (selections []) = .dimmed := by
          cases drawn.1 <;> rfl
        rw [hmark] at h
        exact ih _ (Expr.mem_parts_iff_groups.mpr ⟨drawn, hdrawn, _, hpart⟩) h hmarked

/-- Nothing is marked inside of a dimmed group. -/
theorem not_marked_inside_dimmed {group : Group} {inner : Tree Label}
    (h : (exprTree selections name dimmed e).Holds t) (hdimmed : t.label = .group group .dimmed)
    (hinner : t.Holds inner) (group' : Group) : inner.label ≠ .group group' .taken := by
  induction e using Expr.partsInduction generalizing selections name dimmed with
  | whole e ih =>
      rcases holds_exprTree_cases h with rfl | ⟨drawn, hdrawn, h⟩
      · rw [label_exprTree] at hdimmed
        cases hdimmed
      rcases holds_drawnGroup_cases h with rfl | ⟨part, hpart, h⟩
      · obtain ⟨-, hmark⟩ := Label.group.inj hdimmed
        rcases holds_drawnGroup_cases hinner with rfl | ⟨part, hpart, hinner⟩
        · rw [hdimmed]
          nofun
        · rw [hmark] at hinner
          exact not_marked_of_dimmed hinner group'
      · exact ih _ (Expr.mem_parts_iff_groups.mpr ⟨drawn, hdrawn, _, hpart⟩) h

/-- A mark in a drawing stands at an arm of a branch that is drawn there, not dimmed, and the
arm is the selection of this branch. -/
theorem shows_of_marked {group : Group} (h : (exprTree selections name dimmed e).Holds t)
    (hmarked : t.label = .group group .taken) :
    ∃ path shown arm name' b, ShowsAt (exprTree selections name dimmed e) path shown ∧
      t ∈ shown.children ∧ shown.label = .part name' b false ∧ group = .arm arm ∧
      e.at? path = some b ∧ selections path = some arm := by
  induction e using Expr.partsInduction generalizing selections name dimmed with
  | whole e ih =>
      rcases holds_exprTree_cases h with rfl | ⟨drawn, hdrawn, h⟩
      · rw [label_exprTree] at hmarked
        cases hmarked
      have hchild : drawnGroup selections dimmed drawn ∈
          (exprTree selections name dimmed e).children := by
        rw [exprTree_eq]
        exact List.mem_map_of_mem hdrawn
      rcases holds_drawnGroup_cases h with rfl | ⟨part, hpart, h⟩
      · obtain ⟨rfl, hmark⟩ := Label.group.inj hmarked
        obtain ⟨rfl, arm, harm, hselected⟩ := Group.mark_eq_taken_iff.mp hmark
        exact ⟨[], _, arm, name, e, .here _, hchild, label_exprTree _ _ _ _, harm, rfl, hselected⟩
      · have hstep := Expr.mem_parts_iff_groups.mpr ⟨drawn, hdrawn, _, hpart⟩
        obtain ⟨path, shown, arm, name', b, hshows, mem, hlabel, harm, hat, hselected⟩ :=
          ih _ hstep h
        refine ⟨part.step :: path, shown, arm, name', b, ?_, mem, hlabel, harm, ?_, hselected⟩
        · rw [exprTree_eq]
          refine .part (List.mem_map_of_mem hdrawn) (List.mem_map_of_mem hpart) ?_ hshows
          rw [drawnPart, label_exprTree, Label.isPartUnder, Expr.step?_of_mem_groups hdrawn hpart]
          simp
        · exact (Expr.at?_cons_of_mem_parts hstep path).trans hat

end Marks

end Display

end Rulebook
