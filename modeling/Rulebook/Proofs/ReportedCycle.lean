import Mathlib.Data.List.Chain
import Rulebook.Proofs.Reach
import Rulebook.Proofs.Selection

/-!
A reported cycle is a real cycle.

The names that are being resolved form a route from the expression that was asked for
to the one that is being reduced: no name comes twice, every name is bound, and what it
is bound to refers to the next one (`Route`). A step into a part and a hop to a binding
keep that (`Route.part`, `Route.hop`). Where a name of the route is reached again, the
route from there on closes to a cycle (`Route.cycle`), so without a cycle within reach
none is reported.
-/

namespace Rulebook

/-! ### Links between names -/

/-- What a name is bound to refers to another name. -/
def Refers (context : Context) (name other : String) : Prop :=
  ∃ bound, Members.get? context name = some bound ∧ other ∈ bound.references

/-- The links between the names within reach of an expression. -/
def RefersWithin (context : Context) (e : Expr) (name other : String) : Prop :=
  Reaches context e name ∧ Reaches context e other ∧ Refers context name other

theorem Reaches.refers {context : Context} {e : Expr} {name other : String}
    (h : Reaches context e name) (hrefers : Refers context name other) :
    Reaches context e other := by
  obtain ⟨bound, hbound, mem⟩ := hrefers
  exact h.binding hbound mem

/-- A chain of names that leads over links from a name back to it, passing no name
twice, and that starts within reach of an expression. -/
structure CycleWithin (context : Context) (e : Expr) (chain : List String) : Prop where
  /-- There is a link at least. -/
  two_le_length : 2 ≤ chain.length
  head_eq_getLast : chain.head? = chain.getLast?
  nodup : chain.dropLast.Nodup
  bound : ∀ name ∈ chain.dropLast, ∃ bound, Members.get? context name = some bound
  links : chain.IsChain (Refers context)
  reached : ∀ name ∈ chain.head?, Reaches context e name

section Cycles

variable {context : Context} {e : Expr}

theorem isChain_refersWithin {name : String} {rest : List String}
    (hname : Reaches context e name) (h : (name :: rest).IsChain (Refers context)) :
    (name :: rest).IsChain (RefersWithin context e) := by
  induction rest generalizing name with
  | nil => exact List.isChain_singleton name
  | cons other rest ih =>
      obtain ⟨hfirst, hrest⟩ := List.isChain_cons_cons.mp h
      have hother := hname.refers hfirst
      exact List.isChain_cons_cons.mpr ⟨⟨hname, hother, hfirst⟩, ih hother hrest⟩

/-- A cycle within reach leads from a name to itself over links within reach. -/
theorem CycleWithin.exists_transGen {chain : List String} (h : CycleWithin context e chain) :
    ∃ name, Relation.TransGen (RefersWithin context e) name name := by
  obtain ⟨hlength, hends, -, -, hlinks, hreached⟩ := h
  match chain with
  | [] => cases hlength
  | [_] => exact absurd hlength (by simp)
  | name :: other :: rest =>
      have hwithin := isChain_refersWithin (hreached name rfl) hlinks
      obtain ⟨hfirst, hrest⟩ := List.isChain_cons_cons.mp hwithin
      have hlast : (other :: rest).getLast (List.cons_ne_nil _ _) = name := by
        rw [List.head?_cons, List.getLast?_cons_cons,
          List.getLast?_eq_getLast_of_ne_nil (List.cons_ne_nil _ _)] at hends
        exact (Option.some.inj hends).symm
      exact ⟨name, .head' hfirst
        (List.relationReflTransGen_of_exists_isChain_cons rest hrest hlast)⟩

end Cycles

/-! ### The names that are being resolved -/

/-- The names that are being resolved lead from the expression `root` that was asked for
to the expression `e` that is being reduced. -/
structure Route (context : Context) (root : Expr) (resolving : List String) (e : Expr) : Prop where
  nodup : resolving.Nodup
  bound : ∀ name ∈ resolving, ∃ bound, Members.get? context name = some bound
  /-- Every name that the expression refers to prolongs the route. -/
  onward : ∀ name ∈ e.references, (resolving ++ [name]).IsChain (Refers context)
  reached : ∀ name ∈ e.references, Reaches context root name

section Routes

variable {context : Context} {root e : Expr} {resolving : List String} {name : String}

theorem Route.start (context : Context) (root : Expr) : Route context root [] root where
  nodup := List.nodup_nil
  bound _ mem := nomatch mem
  onward name _ := List.isChain_singleton name
  reached _ mem := .reference mem

theorem Route.part (h : Route context root resolving e) {step : Step} {sub : Expr}
    (mem : (step, sub) ∈ e.parts) : Route context root resolving sub where
  nodup := h.nodup
  bound := h.bound
  onward name hname := h.onward name (Expr.references_of_mem_parts mem hname)
  reached name hname := h.reached name (Expr.references_of_mem_parts mem hname)

/-- A name that is not on the route yet is its next one. -/
theorem Route.hop (h : Route context root resolving (.reference name))
    (hfresh : name ∉ resolving) {bound : Expr} (hbound : Members.get? context name = some bound) :
    Route context root (resolving ++ [name]) bound := by
  have hname : name ∈ (Expr.reference name).references := List.mem_singleton_self name
  have hrefers : ∀ other ∈ bound.references, Refers context name other :=
    fun other mem => ⟨bound, hbound, mem⟩
  constructor
  · rw [List.nodup_append]
    refine ⟨h.nodup, by simp, ?_⟩
    rintro other mem _ hother rfl
    exact hfresh (List.mem_singleton.mp hother ▸ mem)
  · intro other mem
    rcases List.mem_append.mp mem with mem | mem
    · exact h.bound other mem
    · exact ⟨bound, List.mem_singleton.mp mem ▸ hbound⟩
  · intro other mem
    refine (h.onward name hname).append (List.isChain_singleton other) ?_
    simpa using hrefers other mem
  · intro other mem
    exact (h.reached name hname).refers (hrefers other mem)

/-- What is left of a list from the first place of a member on starts with it. -/
theorem exists_dropWhile_eq_cons {names : List String} (mem : name ∈ names) :
    ∃ rest, names.dropWhile (· != name) = name :: rest := by
  induction names with
  | nil => cases mem
  | cons first names ih =>
      by_cases heq : first = name
      · subst heq
        exact ⟨names, List.dropWhile_cons_of_neg (by simp)⟩
      · rw [List.dropWhile_cons_of_pos (by simpa using heq)]
        exact ih ((List.mem_cons.mp mem).resolve_left (Ne.symm heq))

/-- A name that is on the route already closes it to a cycle. -/
theorem Route.cycle (h : Route context root resolving (.reference name))
    (mem : name ∈ resolving) :
    CycleWithin context root (resolving.dropWhile (· != name) ++ [name]) := by
  have hname : name ∈ (Expr.reference name).references := List.mem_singleton_self name
  have hsuffix : resolving.dropWhile (· != name) <:+ resolving := List.dropWhile_suffix _
  obtain ⟨rest, hrest⟩ := exists_dropWhile_eq_cons mem
  constructor
  · simp [hrest]
  · rw [List.getLast?_concat, hrest, List.cons_append, List.head?_cons]
  · rw [List.dropLast_concat]
    exact h.nodup.sublist hsuffix.sublist
  · rw [List.dropLast_concat]
    intro other hother
    exact h.bound other (hsuffix.subset hother)
  · exact (h.onward name hname).suffix ((List.suffix_append_inj_of_length_eq rfl).mpr
      ⟨hsuffix, rfl⟩)
  · intro other hother
    simp only [hrest, List.cons_append, List.head?_cons, Option.mem_some_iff] at hother
    exact hother ▸ h.reached name hname

/-! ### Reduction -/

/-- On a route only cycles within reach are reported. -/
theorem Route.reduce_cyclic {limit : Int} {levels : Nat} {site : Site Origin}
    {chain : List String} (h : Route context root resolving e)
    (hrun : (reduce context limit levels site resolving e).outcome = .error (.cyclic chain)) :
    CycleWithin context root chain := by
  induction levels generalizing site resolving e with
  | zero => cases hrun
  | succ levels ih =>
      rcases reduceLevel_error hrun with hlocal | ⟨name, rfl, hname⟩ | ⟨step, sub, mem, hpart⟩
      · exact hlocal.elim
      · split at hname
        · next mem =>
            cases hname
            exact h.cycle mem
        · next hfresh =>
            unfold followBinding at hname
            split at hname
            · cases hname
            · next bound hbound => exact ih (h.hop hfresh hbound) hname
      · exact ih (h.part mem) hpart

end Routes

/-- **A reported cycle is a real cycle.** The chain of the error leads from a name back
to it, passes no name twice, and every name on it is bound to an expression that refers
to the next one; the first one is within reach of the expression that was asked for. So
where the names within reach have no cycle among them, none is reported. -/
theorem reported_cycle_is_real (context : Context) (e : Expr) (maxDepth : Int) :
    (∀ chain, (evaluate context maxDepth e).outcome = .error (.cyclic chain) →
      CycleWithin context e chain) ∧
    ((∀ name, ¬ Relation.TransGen (RefersWithin context e) name name) →
      ∀ chain, (evaluate context maxDepth e).outcome ≠ .error (.cyclic chain)) := by
  have hreal : ∀ chain, (evaluate context maxDepth e).outcome = .error (.cyclic chain) →
      CycleWithin context e chain := by
    intro chain hrun
    exact (Route.start context e).reduce_cyclic hrun
  refine ⟨hreal, ?_⟩
  intro hacyclic chain hrun
  obtain ⟨name, hcycle⟩ := (hreal chain hrun).exists_transGen
  exact hacyclic name hcycle

/-- Two names that refer to each other, one that leads to them, and one that does not. -/
def detourContext : Context :=
  [("entry", .reference "first"),
    ("first", .ifThenElse (.reference "flag") (.reference "second") (.literal (.bool false))),
    ("second", .reference "first"),
    ("aside", .reference "flag"),
    ("flag", .literal (.bool true))]

/-- The only link within reach of the name aside leads from it to the flag. -/
theorem refersWithin_aside {name other : String}
    (h : RefersWithin detourContext (.reference "aside") name other) :
    name = "aside" ∧ other = "flag" := by
  obtain ⟨hname, _, bound, hbound, mem⟩ := h
  have hreach : name = "aside" ∨ name = "flag" := by
    refine hname.of_closed (fun name => name = "aside" ∨ name = "flag")
      (by simp [Expr.references]) ?_
    rintro name bound (rfl | rfl) hbound other mem
    · cases hbound
      exact .inr (List.mem_singleton.mp mem)
    · cases hbound
      cases mem
  rcases hreach with rfl | rfl
  · cases hbound
    exact ⟨rfl, List.mem_singleton.mp mem⟩
  · cases hbound
    cases mem

/-- The cycle is reported without the name that leads to it, and not at all from the
name aside. -/
theorem detour_reported :
    (evaluate detourContext 5 (.reference "entry")).outcome =
      .error (.cyclic ["first", "second", "first"]) ∧
    CycleWithin detourContext (.reference "entry") ["first", "second", "first"] ∧
    (∀ name, ¬ Relation.TransGen (RefersWithin detourContext (.reference "aside")) name name) ∧
    ∀ chain, (evaluate detourContext 5 (.reference "aside")).outcome ≠ .error (.cyclic chain) := by
  have hrun : (evaluate detourContext 5 (.reference "entry")).outcome =
      .error (.cyclic ["first", "second", "first"]) := rfl
  have hacyclic : ∀ name,
      ¬ Relation.TransGen (RefersWithin detourContext (.reference "aside")) name name := by
    intro name hcycle
    obtain ⟨other, hfirst, _⟩ := Relation.TransGen.head'_iff.mp hcycle
    obtain ⟨other', _, hlast⟩ := Relation.TransGen.tail'_iff.mp hcycle
    have hstart := (refersWithin_aside hfirst).1
    have hend := (refersWithin_aside hlast).2
    exact absurd (hstart.symm.trans hend) (by decide)
  exact ⟨hrun, (reported_cycle_is_real detourContext _ 5).1 _ hrun, hacyclic,
    (reported_cycle_is_real detourContext _ 5).2 hacyclic⟩

end Rulebook
