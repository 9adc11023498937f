import Mathlib.Data.List.Find
import Mathlib.Data.List.Pairwise
import Rulebook.Proofs.Equality
import Rulebook.Proofs.Run

/-!
The cases of a dispatch as a table.

How a reduction ends does not depend on where it stands (`reduce_outcome_site`). Where every
key is a literal, a dispatch therefore ends as the result does that its value has in the table
of its cases (`reduce_finiteBranch_table`). Equal keys are found by the same values, so a case
whose key has come before is never found (`tableResult?_erase`), and where keys differ, one of
them at most is found, wherever it is listed (`tableResult?_perm`).
-/

namespace Rulebook

/-! ### Reductions at other sites -/

/-- How a reduction ends does not depend on the site. -/
theorem reduce_outcome_site (context : Context) (limit : Int) (levels : Nat)
    (site site' : Site Origin) (resolving : List String) (e : Expr) :
    (reduce context limit levels site resolving e).outcome =
      (reduce context limit levels site' resolving e).outcome := by
  have hagree : Run.AgreeUnless (fun _ => False) (fun _ => False) Literal
      (reduce context limit levels site resolving e)
      (reduce context limit levels site' resolving e) := by
    induction levels generalizing site site' e with
    | zero => exact .inr (.inr rfl)
    | succ levels ih =>
        have hR := Run.congruence_agreeUnless (fun _ => False) fun _ => False
        exact hR.reduceLevel (Run.AgreeUnless.record _ _ _ _)
          (fun step sub _ => ih (site.child step) (site'.child step) sub) fun _ _ => hR.refl _
  rcases hagree with ⟨_, hfalse, _⟩ | ⟨_, hfalse, _⟩ | heq
  · exact hfalse.elim
  · exact hfalse.elim
  · exact heq

/-! ### Tables -/

/-- The result that a value has in a table: that of the first case whose key it equals, or the
fallback. -/
def tableResult? (cases : List (Expr × Expr)) (otherwise : Option Expr) (value : Literal) :
    Option Expr :=
  ((cases.find? fun case => case.1.matchesLeaf (.literal value)).map (·.2)).or otherwise

/-- Every key is a literal. -/
def HasLiteralKeys (cases : List (Expr × Expr)) : Prop :=
  ∀ case ∈ cases, ∃ key, case.1 = .literal key

section Table

variable {cases cases' : List (Expr × Expr)} {otherwise : Option Expr} {value : Literal}

/-- Where keys reduce to themselves, cases end as the result does that the value has. -/
theorem reduceCases_table {part : Step → Expr → EvalRun Literal} {site : Site Origin}
    {ends : Expr → Except EvalError Literal} {index : Nat}
    (hends : ∀ step e, (part step e).outcome = ends e)
    (hliteral : ∀ key, ends (.literal key) = .ok key) (hkeys : HasLiteralKeys cases) :
    (reduceCases part site value index cases otherwise).outcome =
      (tableResult? cases otherwise value).elim (.error (.noCaseMatched value)) ends := by
  induction cases generalizing index with
  | nil =>
      cases otherwise with
      | none => rfl
      | some e => exact hends _ e
  | cons case rest ih =>
      obtain ⟨key, result⟩ := case
      obtain ⟨⟨key, rfl⟩, hrest⟩ := List.forall_mem_cons.mp hkeys
      have hkey : (part (.caseKey index) (.literal key)).outcome = .ok key :=
        (hends _ _).trans (hliteral key)
      rw [reduceCases, Run.bind_of_ok hkey]
      have hmatches : (Expr.literal key).matchesLeaf (.literal value) = key.same value := rfl
      simp only [tableResult?, List.find?_cons, hmatches]
      cases hsame : key.same value with
      | true =>
          simp only [if_true]
          exact hends _ result
      | false =>
          simp only [Bool.false_eq_true, if_false]
          exact ih hrest

/-- A dispatch on literal keys ends as its subject does, or as the result does that the value
of its subject has. -/
theorem reduce_finiteBranch_table (context : Context) (limit : Int) (levels : Nat)
    (site : Site Origin) (resolving : List String) (subject : Expr)
    (hkeys : HasLiteralKeys cases) :
    (reduce context limit (levels + 1) site resolving
        (.finiteBranch subject cases otherwise)).outcome =
      ((reduce context limit levels site resolving subject).outcome >>= fun value =>
        (tableResult? cases otherwise value).elim (.error (.noCaseMatched value)) fun result =>
          (reduce context limit levels site resolving result).outcome) := by
  have hends : ∀ step e, (reduce context limit levels (site.child step) resolving e).outcome =
      (reduce context limit levels site resolving e).outcome :=
    fun step e => reduce_outcome_site context limit levels _ site resolving e
  rw [← hends .subject subject]
  cases hsubject :
      (reduce context limit levels (site.child .subject) resolving subject).outcome with
  | error error => rw [reduce, reduceLevel, Run.bind_of_error hsubject]; rfl
  | ok value =>
      rw [reduce, reduceLevel, Run.bind_of_ok hsubject]
      cases levels with
      | zero => cases hsubject
      -- where the subject has a value, there is a level left for the keys
      | succ levels => exact reduceCases_table hends (fun key => rfl) hkeys

/-- Keys that match one value are equal. -/
theorem same_of_matchesLeaf {key key' : Expr} (hkey : ∃ v, key = .literal v)
    (hkey' : ∃ v, key' = .literal v) (h : key.matchesLeaf (.literal value) = true)
    (h' : key'.matchesLeaf (.literal value) = true) : key.same key' = true := by
  obtain ⟨v, rfl⟩ := hkey
  obtain ⟨v', rfl⟩ := hkey'
  have hv' : value.same v' = true := Literal.same_symm h'
  exact Literal.same_trans h hv'

/-- An equal key matches the same values. -/
theorem matchesLeaf_of_same {key key' : Expr} (hkey : ∃ v, key = .literal v)
    (hkey' : ∃ v, key' = .literal v) (hsame : key.same key' = true)
    (h : key'.matchesLeaf (.literal value) = true) : key.matchesLeaf (.literal value) = true := by
  obtain ⟨v, rfl⟩ := hkey
  obtain ⟨v', rfl⟩ := hkey'
  exact Literal.same_trans hsame h

/-- Of keys that differ one at most is found, wherever it is listed. -/
theorem tableResult?_perm (hkeys : HasLiteralKeys cases)
    (hdiffer : cases.Pairwise fun case case' => case.1.same case'.1 = false)
    (hperm : cases.Perm cases') :
    tableResult? cases otherwise value = tableResult? cases' otherwise value := by
  let found (case : Expr × Expr) : Prop := case.1.matchesLeaf (.literal value) = true
  have hapart : cases.Pairwise fun case case' => ¬ (found case ∧ found case') := by
    refine hdiffer.imp_of_mem fun {case case'} mem mem' hdiffer hfound => ?_
    have hsame := same_of_matchesLeaf (hkeys case mem) (hkeys case' mem') hfound.1 hfound.2
    rw [hdiffer] at hsame
    cases hsame
  have : Std.Symm fun case case' => ¬ (found case ∧ found case') := ⟨fun _ _ h h' => h h'.symm⟩
  have hunique : {case ∈ cases | found case}.Subsingleton := by
    rintro case ⟨mem, hfound⟩ case' ⟨mem', hfound'⟩
    by_contra hne
    exact hapart.forall mem mem' hne ⟨hfound, hfound'⟩
  rw [tableResult?, tableResult?, List.find?_eq_find?_of_perm hperm hunique]

/-- A case whose key has come before is never found. -/
theorem tableResult?_erase {before after : List (Expr × Expr)} {later : Expr × Expr}
    (hkeys : HasLiteralKeys (before ++ later :: after))
    (hrepeated : ∃ earlier ∈ before, earlier.1.same later.1 = true) :
    tableResult? (before ++ after) otherwise value =
      tableResult? (before ++ later :: after) otherwise value := by
  obtain ⟨earlier, mem, hsame⟩ := hrepeated
  rw [tableResult?, tableResult?, List.find?_append, List.find?_append, List.find?_cons]
  cases hlater : later.1.matchesLeaf (.literal value) with
  | false => rfl
  | true =>
      have hearlier := matchesLeaf_of_same (hkeys earlier (by simp [mem])) (hkeys later (by simp))
        hsame hlater
      have hsome : (before.find? fun case => case.1.matchesLeaf (.literal value)).isSome = true :=
        List.find?_isSome.mpr ⟨earlier, mem, hearlier⟩
      obtain ⟨found, hfound⟩ := Option.isSome_iff_exists.mp hsome
      simp only [hfound, Option.some_or]

end Table

/-- **Order and repetition in a dispatch.** Where every key is a literal, a dispatch ends alike
whatever order its cases are listed in, if no two keys are equal, and with or without a case
whose key equals that of a case before it. -/
theorem dispatch_ends_by_table (context : Context) (maxDepth : Int) (subject : Expr)
    (cases : List (Expr × Expr)) (otherwise : Option Expr) (hkeys : HasLiteralKeys cases) :
    (∀ cases', cases.Perm cases' →
      cases.Pairwise (fun case case' => case.1.same case'.1 = false) →
      (evaluate context maxDepth (.finiteBranch subject cases' otherwise)).outcome =
        (evaluate context maxDepth (.finiteBranch subject cases otherwise)).outcome) ∧
    ∀ before later after, cases = before ++ later :: after →
      (∃ earlier ∈ before, earlier.1.same later.1 = true) →
      (evaluate context maxDepth (.finiteBranch subject (before ++ after) otherwise)).outcome =
        (evaluate context maxDepth (.finiteBranch subject cases otherwise)).outcome := by
  have hends : ∀ cases', HasLiteralKeys cases' →
      (∀ value, tableResult? cases' otherwise value = tableResult? cases otherwise value) →
      (evaluate context maxDepth (.finiteBranch subject cases' otherwise)).outcome =
        (evaluate context maxDepth (.finiteBranch subject cases otherwise)).outcome := by
    intro cases' hkeys' htable
    unfold evaluate
    cases (maxDepth + 1).toNat with
    | zero => rfl
    | succ levels =>
        rw [reduce_finiteBranch_table _ _ _ _ _ _ hkeys,
          reduce_finiteBranch_table _ _ _ _ _ _ hkeys']
        simp only [htable]
  constructor
  · intro cases' hperm hdiffer
    have hkeys' : HasLiteralKeys cases' := fun case mem => hkeys case (hperm.mem_iff.mpr mem)
    exact hends cases' hkeys' fun value => (tableResult?_perm hkeys hdiffer hperm).symm
  · rintro before later after rfl hrepeated
    have hkeys' : HasLiteralKeys (before ++ after) := by
      intro case mem
      rcases List.mem_append.mp mem with mem | mem
      · exact hkeys case (by simp [mem])
      · exact hkeys case (by simp [mem])
    exact hends _ hkeys' fun value => tableResult?_erase hkeys hrepeated

/-- Cases of a fee: it is a truth value, or a zero. -/
def feeCases : List (Expr × Expr) :=
  [(.literal (.bool false), .literal (.string "unknown")),
    (.literal (.number (.zero true)), .literal (.string "waived"))]

/-- A case for the other zero. -/
def otherZeroCase : Expr × Expr :=
  (.literal (.number (.zero false)), .literal (.string "free"))

/-- How a fee of zero is dispatched. -/
def feeEnding (cases : List (Expr × Expr)) : Except EvalError Literal :=
  (evaluate [("fee", .literal (.number (.zero false)))] 2
    (.finiteBranch (.reference "fee") cases none)).outcome

/-- A fee of zero is dispatched alike by its cases in the other order, and by one more case
behind them whose key is the other zero. -/
theorem zero_fee_relisted :
    feeEnding feeCases = .ok (.string "waived") ∧
      feeEnding feeCases.reverse = feeEnding feeCases ∧
      feeEnding feeCases = feeEnding (feeCases ++ [otherZeroCase]) := by
  have hkeys : HasLiteralKeys feeCases :=
    List.forall_mem_cons.mpr ⟨⟨_, rfl⟩, List.forall_mem_singleton.mpr ⟨_, rfl⟩⟩
  have hkeys' : HasLiteralKeys (feeCases ++ [otherZeroCase]) :=
    List.forall_mem_append.mpr ⟨hkeys, List.forall_mem_singleton.mpr ⟨_, rfl⟩⟩
  have hdiffer : feeCases.Pairwise fun case case' => case.1.same case'.1 = false :=
    List.pairwise_pair.mpr rfl
  have hrepeated : ∃ earlier ∈ feeCases, earlier.1.same otherZeroCase.1 = true :=
    ⟨_, List.mem_cons_of_mem _ List.mem_cons_self, rfl⟩
  refine ⟨rfl, ?_, ?_⟩
  · exact (dispatch_ends_by_table _ _ _ _ _ hkeys).1 _ (List.reverse_perm _).symm hdiffer
  · exact (dispatch_ends_by_table _ _ _ _ _ hkeys').2 feeCases otherZeroCase [] rfl hrepeated

end Rulebook
