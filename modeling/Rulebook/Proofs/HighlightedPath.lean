import Rulebook.Proofs.Decisions
import Rulebook.Proofs.DrawnTree

/-!
The highlighted path explains the result.

Where an evaluation returned a value, the selection of a branch it came through is the arm
that it took there, and the result of this arm has the value in turn: the marks of its drawing
lead to a leaf that has the value (`exists_marksLeadTo`). Whatever is selected, a mark is that
of a selection, and nothing is marked inside of what is dimmed.
-/

namespace Rulebook

open Display

section Values

variable {context : Context} {limit : Int} {selections : Selections} {name : String}
  {value : Literal} {e : Expr} {site : Site Origin} {resolving : List String} {levels : Nat}

theorem eq_of_reduce_literal {v : Literal}
    (h : (reduce context limit levels site resolving (.literal v)).outcome = .ok value) :
    v = value := by
  cases levels with
  | zero => cases h
  | succ levels => exact Except.ok.inj h

theorem marksLeadTo_leaf (hleaf : e.isBranch = false) :
    MarksLeadTo (exprTree selections name false e) e := by
  cases e with
  | literal value => exact .leaf rfl
  | reference name => exact .leaf rfl
  | ifThenElse _ _ _ | ruleChain _ _ | finiteBranch _ _ _ => cases hleaf

/-- Where the selection of each place is the arm that a run took there, the marks lead to a
leaf that has the value of the run. -/
theorem exists_marksLeadTo
    (hvalue : (reduce context limit levels site resolving e).outcome = .ok value)
    (hselected : ∀ place arm, ⟨⟨site.origin, site.path ++ place⟩, arm⟩ ∈
      (reduce context limit levels site resolving e).decisions → selections place = some arm) :
    ∃ leaf, MarksLeadTo (exprTree selections name false e) leaf ∧ leaf.isBranch = false ∧
      ∃ levels' ≤ levels, ∃ site',
        (reduce context limit levels' site' resolving leaf).outcome = .ok value := by
  induction levels generalizing site e selections name with
  | zero => cases hvalue
  | succ levels ih =>
      cases hbranch : e.isBranch with
      | false =>
          exact ⟨e, marksLeadTo_leaf hbranch, hbranch, levels + 1, Nat.le_refl _, site, hvalue⟩
      | true =>
          obtain ⟨arm, sub, hselects⟩ := exists_arm_of_reduceLevel_ok hbranch hvalue
          obtain ⟨before, hrun⟩ : (reduce context limit (levels + 1) site resolving e).EndsAs
              (takeArm (fun step e => reduce context limit levels (site.child step) resolving e)
                site arm sub) := hselects.endsAs
          rw [hrun] at hvalue hselected
          rw [takeArm_outcome] at hvalue
          have hhere : selections [] = some arm := by
            refine hselected [] arm (List.mem_append_right _ (mem_decisions_takeArm.mpr (.inl ?_)))
            rw [List.append_nil]
          have hbelow : ∀ place arm', ⟨⟨site.origin, (site.child arm.step).path ++ place⟩, arm'⟩ ∈
              (reduce context limit levels (site.child arm.step) resolving sub).decisions →
              selections.below arm.step place = some arm' := by
            intro place arm' mem
            rw [Site.child, List.append_assoc] at mem
            exact hselected (arm.step :: place) arm'
              (List.mem_append_right _ (mem_decisions_takeArm.mpr (.inr mem)))
          obtain ⟨groups, parts, part, htree, hmarked, hresult⟩ :=
            @exprTree_marked selections name e sub arm hhere hselects.mem_parts
          obtain ⟨leaf, hleads, hleaf, levels', hle, site', hends⟩ := ih hvalue hbelow
          refine ⟨leaf, ?_, hleaf, levels', Nat.le_succ_of_le hle, site', hends⟩
          rw [htree]
          exact .arm hbranch hmarked hresult hleads

end Values

/-- The selections of a tree in a trace, given which node stands at each site. -/
def selectionsOf {ω ν : Type} [DecidableEq ν] (trace : Trace ω) (nodeAt : Site ω → ν)
    (origin : ω) : Selections :=
  fun path => trace.selectionOf? nodeAt (nodeAt ⟨origin, path⟩)

/-- With each site for a node of its own, they are those of the places of the tree. -/
theorem selectionsOf_id {ω : Type} [DecidableEq ω] (trace : Trace ω) (origin : ω) :
    selectionsOf trace id origin = selectionsIn trace origin :=
  funext fun path => trace.selectionOf?_id ⟨origin, path⟩

/-- Where branches are nodes of their own, the selection of a node is the arm of each of its
decisions. -/
theorem selectionsOf_evaluate {ν : Type} [DecidableEq ν] {context : Context} {maxDepth : Int}
    {e : Expr} {nodeAt : Site Origin → ν} {path : Path} {arm : Arm}
    (hnodes : OwnNodes (standsAt? context e) nodeAt (· = .subject))
    (mem : ⟨⟨.subject, path⟩, arm⟩ ∈ (evaluate context maxDepth e).decisions) :
    selectionsOf (evaluate context maxDepth e).decisions nodeAt .subject path = some arm := by
  refine @Trace.selectionOf?_eq_some _ _ _ _ nodeAt _ mem fun d mem' hnode => ?_
  obtain ⟨b, hstands, htakes⟩ := takes_of_evaluate mem
  obtain ⟨b', hstands', htakes'⟩ := takes_of_evaluate mem'
  have hsite : d.site = ⟨.subject, path⟩ :=
    hnodes _ _ b b' rfl hstands htakes.isBranch hstands' htakes'.isBranch hnode
  rw [hsite] at hstands'
  obtain rfl : b = b' := Option.some.inj (hstands.symm.trans hstands')
  exact htakes'.arm_unique htakes

/-- **The highlighted path explains the result.** Where an expression with branches that are
nodes of their own has a value, the marks of its drawing lead from the root to one leaf, past
branches that have one marked arm each, and this leaf is the value or a name that has the
value. In a drawing with any trace whatsoever, what is marked is an arm of a branch drawn
there, namely the latest selection of its node, and nothing in a dimmed arm is marked. -/
theorem highlighted_path_explains_result (context : Context) (maxDepth : Int) (e : Expr)
    (title : String) :
    (∀ {ν : Type} [DecidableEq ν] (nodeAt : Site Origin → ν) (value : Literal),
      OwnNodes (standsAt? context e) nodeAt (· = .subject) →
      (evaluate context maxDepth e).outcome = .ok value →
      ∃ root leaf,
        titledTree title
            (selectionsOf (evaluate context maxDepth e).decisions nodeAt .subject) e =
          .node (.title title) [root] ∧
        (∀ other, MarksLeadTo root other ↔ other = leaf) ∧
        (leaf = .literal value ∨ ∃ name, leaf = .reference name ∧
          (evaluate context maxDepth (.reference name)).outcome = .ok value)) ∧
    (∀ {ω ν : Type} [DecidableEq ν] (trace : Trace ω) (nodeAt : Site ω → ν) (origin : ω)
      (t : Display.Tree Label), (titledTree title (selectionsOf trace nodeAt origin) e).Holds t →
      (∀ group, t.label = .group group .taken →
        ∃ root path shown arm name b,
          titledTree title (selectionsOf trace nodeAt origin) e = .node (.title title) [root] ∧
          ShowsAt root path shown ∧ t ∈ shown.children ∧ shown.label = .part name b false ∧
          group = .arm arm ∧ e.at? path = some b ∧
          trace.selectionOf? nodeAt (nodeAt ⟨origin, path⟩) = some arm) ∧
      (∀ group inner, t.label = .group group .dimmed → t.Holds inner →
        ∀ group', inner.label ≠ .group group' .taken)) := by
  constructor
  · intro ν _ nodeAt value hnodes hvalue
    obtain ⟨leaf, hleads, hleaf, levels, hle, site, hends⟩ := exists_marksLeadTo
      hvalue fun place arm mem => selectionsOf_evaluate hnodes mem
    refine ⟨_, leaf, rfl, fun other => ⟨fun h => h.unique hleads, fun h => h ▸ hleads⟩, ?_⟩
    cases leaf with
    | literal v => exact .inl (congrArg Expr.literal (eq_of_reduce_literal hends))
    | reference name => exact .inr ⟨name, rfl, evaluate_ok_of_reduce hle hends⟩
    | ifThenElse _ _ _ | ruleChain _ _ | finiteBranch _ _ _ => cases hleaf
  · intro ω ν _ trace nodeAt origin t h
    cases h with
    | self => exact ⟨nofun, nofun⟩
    | child mem h =>
        obtain rfl := List.mem_singleton.mp mem
        constructor
        · intro group hmarked
          obtain ⟨path, shown, arm, name, b, hshows⟩ := shows_of_marked h hmarked
          exact ⟨_, path, shown, arm, name, b, rfl, hshows⟩
        · intro group inner hdimmed hinner
          exact not_marked_inside_dimmed h hdimmed hinner

/-- A fare by age, where the fare of seniors has rules of its own. -/
def fare : Expr :=
  .finiteBranch (.reference "age")
    [(.literal (.string "child"), .literal (.string "free")),
      (.literal (.string "senior"),
        .ruleChain [(.reference "local", .literal (.string "free")),
          (.literal (.bool true), .reference "reduced")] none)]
    (some (.literal (.string "full")))

/-- A senior from elsewhere. -/
def fareContext : Context :=
  [("age", .literal (.string "senior")), ("local", .literal (.bool false)),
    ("reduced", .ifThenElse (.reference "local") (.literal (.string "1")) (.literal (.string "2")))]

/-- The drawing of `fare` with the decisions made under a limit. -/
def fareTree (maxDepth : Int) : Display.Tree Label :=
  titledTree "expression"
    (selectionsIn (evaluate fareContext maxDepth fare).decisions .subject) fare

/-- The marks of `fare` lead past the second case and its second rule to a name. On one level
less the run fails after both decisions: the case is marked, as it is the latest selection of
a branch, and nothing is marked in the first case. -/
theorem fare_drawing_leads_to_reduced :
    OwnNodes (standsAt? fareContext fare) id (· = .subject) ∧
    (evaluate fareContext 5 fare).outcome = .ok (.string "2") ∧
    (∃ root, fareTree 5 = .node (.title "expression") [root] ∧
      ∀ leaf, MarksLeadTo root leaf ↔ leaf = .reference "reduced") ∧
    (evaluate fareContext 5 (.reference "reduced")).outcome = .ok (.string "2") ∧
    (evaluate fareContext 4 fare).outcome = .error (.tooDeep 4) ∧
    (∃ t, (fareTree 4).Holds t ∧ t.label = .group (.arm (.case 1)) .taken ∧
      ∃ path b, fare.at? path = some b ∧
        Trace.selection? (evaluate fareContext 4 fare).decisions ⟨.subject, path⟩ =
          some (.case 1)) ∧
    ∃ t, (fareTree 4).Holds t ∧ t.label = .group (.arm (.case 0)) .dimmed ∧
      ∀ inner, t.Holds inner → ∀ group, inner.label ≠ .group group .taken := by
  have hown : OwnNodes (standsAt? fareContext fare) id (· = .subject) :=
    fun _ _ _ _ _ _ _ _ _ hnode => hnode
  have hvalue : (evaluate fareContext 5 fare).outcome = .ok (.string "2") := rfl
  obtain ⟨hpath, hdrawn⟩ := highlighted_path_explains_result fareContext 5 fare "expression"
  obtain ⟨root, leaf, htree, hleads, hleaf⟩ := hpath id _ hown hvalue
  rw [selectionsOf_id] at htree
  have hreduced : MarksLeadTo root (.reference "reduced") := by
    cases htree
    exact .arm rfl rfl rfl (.arm rfl rfl rfl (.leaf rfl))
  obtain rfl := (hleads _).mp hreduced
  obtain ⟨name, hname, hends⟩ := hleaf.resolve_left nofun
  cases hname
  have hfailed := hdrawn (evaluate fareContext 4 fare).decisions id .subject
  have hsenior : ∃ t, (fareTree 4).Holds t ∧ t.label = .group (.arm (.case 1)) .taken :=
    ⟨_, .child (.head _) (.child (.tail _ (.tail _ (.head _))) (.self _)), rfl⟩
  have hchild : ∃ t, (fareTree 4).Holds t ∧ t.label = .group (.arm (.case 0)) .dimmed :=
    ⟨_, .child (.head _) (.child (.tail _ (.head _)) (.self _)), rfl⟩
  obtain ⟨senior, hsenior, hmarked⟩ := hsenior
  obtain ⟨child, hchild, hdimmed⟩ := hchild
  obtain ⟨-, path, -, arm, -, b, -, -, -, -, harm, hat, hselected⟩ :=
    (hfailed senior hsenior).1 _ hmarked
  cases harm
  exact ⟨hown, hvalue, ⟨root, htree, hleads⟩, hends, rfl,
    ⟨senior, hsenior, hmarked, path, b, hat, hselected⟩,
    ⟨child, hchild, hdimmed, fun inner => (hfailed child hchild).2 _ inner hdimmed⟩⟩

end Rulebook
