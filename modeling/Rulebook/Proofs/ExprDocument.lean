import Rulebook.Expr.Decoding
import Rulebook.Expr.Encoding
import Rulebook.Proofs.JsonText
import Rulebook.Proofs.Parts

/-!
Expressions are read from documents as they were written.

A document can hold an expression if no place in it lies deeper than a number of levels
and all its numbers are finite (`FitsWithin`). Reading the document form settles exactly
that: it returns the expression, with zeros that have no sign (`canonical`), or it is
refused (`settles_decodeWithin`). The induction is on the levels that are left.
-/

namespace Rulebook

/-! ### Readings with a known outcome -/

/-- A reading that returns a value if a condition holds, and is refused if not. -/
def Settles {α : Type} (reading : Except DecodeError α) (condition : Prop) (value : α) : Prop :=
  (condition ∧ reading = .ok value) ∨ (¬ condition ∧ ∃ error, reading = .error error)

section Settles

variable {α β : Type} {reading : Except DecodeError α} {p q : Prop} {a : α}

theorem Settles.of_iff (h : Settles reading p a) (hiff : p ↔ q) : Settles reading q a := by
  rcases h with ⟨hp, hok⟩ | ⟨hp, herror⟩
  · exact .inl ⟨hiff.mp hp, hok⟩
  · refine .inr ⟨?_, herror⟩
    intro hq
    exact hp (hiff.mpr hq)

theorem settles_ok (a : α) : Settles (.ok a) True a :=
  .inl ⟨trivial, rfl⟩

/-- One reading after another returns if both do. -/
theorem Settles.bind {next : α → Except DecodeError β} {b : β} (h : Settles reading p a)
    (hnext : Settles (next a) q b) : Settles (reading >>= next) (p ∧ q) b := by
  rcases h with ⟨hp, rfl⟩ | ⟨hp, error, rfl⟩
  · rcases hnext with ⟨hq, hok⟩ | ⟨hq, error, herror⟩
    · exact .inl ⟨⟨hp, hq⟩, hok⟩
    · exact .inr ⟨fun h => hq h.2, error, herror⟩
  · exact .inr ⟨fun h => hp h.1, error, rfl⟩

theorem Settles.map (h : Settles reading p a) (f : α → β) : Settles (f <$> reading) p (f a) := by
  rcases h with ⟨hp, rfl⟩ | ⟨hp, error, rfl⟩
  · exact .inl ⟨hp, rfl⟩
  · exact .inr ⟨hp, error, rfl⟩

/-- Items are read one by one, each at its place. -/
theorem settles_readItems {read : DataPath → Data → Except DecodeError α} {encode : β → Data}
    {holds : β → Prop} {result : β → α}
    (h : ∀ path item, Settles (read path (encode item)) (holds item) (result item))
    (path : DataPath) (index : Nat) (items : List β) :
    Settles (Expr.readItems read path index (items.map encode)) (∀ item ∈ items, holds item)
      (items.map result) := by
  induction items generalizing index with
  | nil => exact (settles_ok []).of_iff (by simp)
  | cons item items ih =>
      exact ((h _ item).bind ((ih (index + 1)).map (result item :: ·))).of_iff (by simp)

end Settles

/-! ### Literals -/

namespace Literal

/-- The literal that stands for all literals of its value. -/
def canonical : Literal → Literal
  | .number x => .number x.canonical
  | v => v

/-- A number, if the literal is one, is finite. -/
def IsFinite (v : Literal) : Prop :=
  ∀ x, v = .number x → x.isFinite = true

theorem same_canonical {v : Literal} (h : v.IsFinite) : v.same v.canonical = true := by
  cases v with
  | string s => exact beq_self_eq_true s
  | bool b => exact beq_self_eq_true b
  | number x => exact Number.same_canonical (h x rfl)

/-- A number is written as the integer that it is, unless that is too large. -/
theorem encode_number (x : Number) :
    (∃ n : Int, x.toInt? = some n ∧ n.natAbs ≤ maxExactInt ∧ (number x).encode = .int n) ∨
      (x.toInt? ≠ some 0 ∧ (number x).encode = .float x) := by
  simp only [encode]
  split
  · next n hint =>
      split
      · next hsmall => exact .inl ⟨n, hint, hsmall, rfl⟩
      · next hlarge =>
          refine .inr ⟨?_, rfl⟩
          intro hzero
          apply hlarge
          rw [Option.some.inj (hint.symm.trans hzero)]
          exact Nat.zero_le _
  · next hint => exact .inr ⟨by simp [hint], rfl⟩

theorem isContainer_encode (v : Literal) : v.encode.isContainer = false := by
  cases v with
  | string s => rfl
  | bool b => rfl
  | number x =>
      rcases encode_number x with ⟨n, _, _, hencode⟩ | ⟨_, hencode⟩ <;> rw [hencode] <;> rfl

end Literal

namespace Expr

theorem settles_literal (levels : Nat) (path : DataPath) (v : Literal) :
    Settles (decodeWithin (levels + 1) path v.encode) v.IsFinite (.literal v.canonical) := by
  cases v with
  | string s => exact (settles_ok _).of_iff (by simp [Literal.IsFinite])
  | bool b => exact (settles_ok _).of_iff (by simp [Literal.IsFinite])
  | number x =>
      have hfinite : x.isFinite = true ↔ (Literal.number x).IsFinite := by
        simp [Literal.IsFinite]
      refine Settles.of_iff ?_ hfinite
      rcases Literal.encode_number x with ⟨n, hint, _, hencode⟩ | ⟨hint, hencode⟩
      · have hliteral : Literal.ofInt? n = some (Literal.number x).canonical := by
          unfold Literal.ofInt?
          rw [Number.ofInt_of_toInt hint]
          rfl
        rw [hencode]
        refine .inl ⟨Number.isFinite_of_toInt hint, ?_⟩
        have hread : integerLiteral n path = .ok (Literal.number x).canonical := by
          unfold integerLiteral
          rw [hliteral]
          rfl
        simp only [decodeWithin, hread]
        rfl
      · have hcanonical : (Literal.number x).canonical = .number x :=
          congrArg Literal.number (Number.canonical_of_toInt_ne_zero hint)
        rw [hencode, hcanonical]
        refine Settles.map ?_ Expr.literal
        unfold finiteLiteral
        split
        · next h => exact .inl ⟨h, rfl⟩
        · next h => exact .inr ⟨h, _, rfl⟩

/-! ### Branches -/

mutual

/-- The expression that stands for all expressions equal to it: no zero has a sign. -/
def canonical : Expr → Expr
  | .literal v => .literal v.canonical
  | .reference name => .reference name
  | .ifThenElse c t e => .ifThenElse c.canonical t.canonical e.canonical
  | .ruleChain rules o => .ruleChain (canonicalPairs rules) (canonicalFallback o)
  | .finiteBranch s cases o =>
    .finiteBranch s.canonical (canonicalPairs cases) (canonicalFallback o)

/-- Pairs, both parts of each one canonical. -/
def canonicalPairs : List (Expr × Expr) → List (Expr × Expr)
  | [] => []
  | (a, b) :: rest => (a.canonical, b.canonical) :: canonicalPairs rest

/-- A fallback, canonical if there is one. -/
def canonicalFallback : Option Expr → Option Expr
  | none => none
  | some e => some e.canonical

end

/-- The document form of a rule. -/
def encodeRule (rule : Expr × Expr) : Data :=
  .object [("when", rule.1.encode), ("then", rule.2.encode)]

/-- The document form of a case. -/
def encodeCase (case : Expr × Expr) : Data :=
  .array [case.1.encode, case.2.encode]

theorem encodeRules_eq_map (rules : List (Expr × Expr)) :
    encodeRules rules = rules.map encodeRule := by
  induction rules with
  | nil => rfl
  | cons rule rules ih => exact congrArg (encodeRule rule :: ·) ih

theorem encodeCases_eq_map (cases : List (Expr × Expr)) :
    encodeCases cases = cases.map encodeCase := by
  induction cases with
  | nil => rfl
  | cons case cases ih => exact congrArg (encodeCase case :: ·) ih

theorem canonicalPairs_eq_map (pairs : List (Expr × Expr)) :
    canonicalPairs pairs = pairs.map fun pair => (pair.1.canonical, pair.2.canonical) := by
  induction pairs with
  | nil => rfl
  | cons pair pairs ih => exact congrArg ((pair.1.canonical, pair.2.canonical) :: ·) ih

section Branches

variable {read : Reader} {holds : Expr → Prop} {members : List (String × Data)} {path : DataPath}

theorem readField_of_get {name : String} {value : Data}
    (h : Members.get? members name = some value) :
    readField read members name path = read (path ++ [.key name]) value := by
  unfold readField requiredField
  rw [h]
  rfl

theorem settles_readFallback
    (hread : ∀ path e, Settles (read path e.encode) (holds e) e.canonical) {otherwise : Option Expr}
    (h : Members.get? members "otherwise" = otherwise.map encode) :
    Settles (readFallback read members path) (∀ e, otherwise = some e → holds e)
      (canonicalFallback otherwise) := by
  unfold readFallback
  rw [h]
  cases otherwise with
  | none => exact (settles_ok none).of_iff (by simp)
  | some e => exact ((hread _ e).map some).of_iff (by simp)

theorem settles_readRule
    (hread : ∀ path e, Settles (read path e.encode) (holds e) e.canonical) (path : DataPath)
    (rule : Expr × Expr) :
    Settles (readRule read path (encodeRule rule)) (holds rule.1 ∧ holds rule.2)
      (rule.1.canonical, rule.2.canonical) := by
  have hwhen : Members.get? [("when", rule.1.encode), ("then", rule.2.encode)] "when" =
      some rule.1.encode := rfl
  have hthen : Members.get? [("when", rule.1.encode), ("then", rule.2.encode)] "then" =
      some rule.2.encode := rfl
  simp only [encodeRule, readRule, readField_of_get hwhen, readField_of_get hthen]
  exact (hread _ _).bind ((hread _ _).map _)

theorem settles_readCase
    (hread : ∀ path e, Settles (read path e.encode) (holds e) e.canonical) (path : DataPath)
    (case : Expr × Expr) :
    Settles (readCase read path (encodeCase case)) (holds case.1 ∧ holds case.2)
      (case.1.canonical, case.2.canonical) :=
  (hread _ _).bind ((hread _ _).map _)

theorem settles_ifThenElse
    (hread : ∀ path e, Settles (read path e.encode) (holds e) e.canonical) (path : DataPath)
    (condition thenArm elseArm : Expr) :
    Settles
      (readBranchValue read path (.object
        [("if", condition.encode), ("then", thenArm.encode), ("else", elseArm.encode)]))
      (∀ part ∈ (ifThenElse condition thenArm elseArm).parts, holds part.2)
      (ifThenElse condition thenArm elseArm).canonical := by
  generalize hmembers :
    [("if", condition.encode), ("then", thenArm.encode), ("else", elseArm.encode)] = members
  have hif : Members.get? members "if" = some condition.encode := by rw [← hmembers]; rfl
  have hthen : Members.get? members "then" = some thenArm.encode := by rw [← hmembers]; rfl
  have helse : Members.get? members "else" = some elseArm.encode := by rw [← hmembers]; rfl
  have hhas : Members.has members "if" = true := by rw [Members.has, hif]; rfl
  simp only [readBranchValue, hhas, if_true, readIfThenElse, readField_of_get hif,
    readField_of_get hthen, readField_of_get helse]
  exact ((hread _ _).bind ((hread _ _).bind ((hread _ _).map _))).of_iff
    (forall_mem_ifThenElse holds).symm

theorem settles_ruleChain
    (hread : ∀ path e, Settles (read path e.encode) (holds e) e.canonical) (path : DataPath)
    (rules : List (Expr × Expr)) (otherwise : Option Expr) :
    Settles
      (readBranchValue read path (.object
        (("rules", .array (encodeRules rules)) :: encodeFallback otherwise)))
      (∀ part ∈ (ruleChain rules otherwise).parts, holds part.2)
      (ruleChain rules otherwise).canonical := by
  generalize hmembers :
    ("rules", Data.array (encodeRules rules)) :: encodeFallback otherwise = members
  have hif : Members.has members "if" = false := by
    rw [← hmembers]
    cases otherwise <;> rfl
  have hrules : Members.get? members "rules" = some (.array (encodeRules rules)) := by
    rw [← hmembers]
    rfl
  have hotherwise : Members.get? members "otherwise" = otherwise.map encode := by
    rw [← hmembers]
    cases otherwise <;> rfl
  simp only [readBranchValue, hif, hrules, readRuleChain, encodeRules_eq_map, canonical,
    canonicalPairs_eq_map]
  exact ((settles_readItems (settles_readRule hread) _ 0 rules).bind
    ((settles_readFallback hread hotherwise).map (ruleChain _))).of_iff
    (forall_mem_ruleChain holds).symm

theorem settles_finiteBranch
    (hread : ∀ path e, Settles (read path e.encode) (holds e) e.canonical) (path : DataPath)
    (subject : Expr) (cases : List (Expr × Expr)) (otherwise : Option Expr) :
    Settles
      (readBranchValue read path (.object
        (("branchOn", subject.encode) :: ("when", .array (encodeCases cases)) ::
          encodeFallback otherwise)))
      (∀ part ∈ (finiteBranch subject cases otherwise).parts, holds part.2)
      (finiteBranch subject cases otherwise).canonical := by
  generalize hmembers : ("branchOn", subject.encode) :: ("when", Data.array (encodeCases cases)) ::
    encodeFallback otherwise = members
  have hif : Members.has members "if" = false := by
    rw [← hmembers]
    cases otherwise <;> rfl
  have hrules : Members.get? members "rules" = none := by
    rw [← hmembers]
    cases otherwise <;> rfl
  have hsubject : Members.get? members "branchOn" = some subject.encode := by
    rw [← hmembers]
    rfl
  have hwhen : requiredField members "when" path = .ok (.array (encodeCases cases)) := by
    rw [← hmembers]
    rfl
  have hotherwise : Members.get? members "otherwise" = otherwise.map encode := by
    rw [← hmembers]
    cases otherwise <;> rfl
  simp only [readBranchValue, hif, hrules, hsubject, readFiniteBranch, hwhen, encodeCases_eq_map,
    canonical, canonicalPairs_eq_map]
  exact ((hread _ subject).bind ((settles_readItems (settles_readCase hread) _ 0 cases).bind
    ((settles_readFallback hread hotherwise).map (finiteBranch _ _)))).of_iff
    (forall_mem_finiteBranch holds).symm

end Branches

/-! ### Levels -/

/-- No place in an expression lies as many levels below its root, and every number in
it is finite. -/
def FitsWithin (levels : Nat) (e : Expr) : Prop :=
  ∀ path sub, e.at? path = some sub →
    path.length < levels ∧ ∀ x, sub = .literal (.number x) → x.isFinite = true

theorem not_fitsWithin_zero (e : Expr) : ¬ e.FitsWithin 0 := by
  intro h
  exact Nat.not_lt_zero _ (h [] e rfl).1

/-- An expression fits if its direct parts fit into one level less. -/
theorem fitsWithin_succ_iff {levels : Nat} {e : Expr} :
    e.FitsWithin (levels + 1) ↔
      (∀ x, e = .literal (.number x) → x.isFinite = true) ∧
        ∀ part ∈ e.parts, part.2.FitsWithin levels := by
  constructor
  · intro h
    refine ⟨(h [] e rfl).2, ?_⟩
    intro ⟨step, sub⟩ mem path found hfound
    have hplace := h (step :: path) found ((at?_cons_of_mem_parts mem path).trans hfound)
    exact ⟨Nat.lt_of_succ_lt_succ hplace.1, hplace.2⟩
  · rintro ⟨hroot, hparts⟩ path found hfound
    cases path with
    | nil =>
        cases hfound
        exact ⟨Nat.succ_pos _, hroot⟩
    | cons step path =>
        obtain ⟨sub, hpart, hfound⟩ := Option.bind_eq_some_iff.mp hfound
        have hplace := hparts _ (part_eq_some_iff.mp hpart) path found hfound
        exact ⟨Nat.succ_lt_succ hplace.1, hplace.2⟩

theorem fitsWithin_literal {levels : Nat} {v : Literal} (h : v.IsFinite) :
    (literal v).FitsWithin (levels + 1) := by
  refine fitsWithin_succ_iff.mpr ⟨?_, nofun⟩
  rintro x ⟨⟩
  exact h x rfl

theorem fitsWithin_reference (levels : Nat) (name : String) :
    (reference name).FitsWithin (levels + 1) :=
  fitsWithin_succ_iff.mpr ⟨nofun, nofun⟩

/-- Reading what was written returns the expression if it fits into the levels that are
left, and is refused if not. -/
theorem settles_decodeWithin (levels : Nat) (path : DataPath) (e : Expr) :
    Settles (decodeWithin levels path e.encode) (e.FitsWithin levels) e.canonical := by
  induction levels generalizing path e with
  | zero => exact .inr ⟨not_fitsWithin_zero e, _, rfl⟩
  | succ levels ih =>
      have hbranch : ∀ {reading : Except DecodeError Expr}, e.isBranch = true →
          Settles reading (∀ part ∈ e.parts, part.2.FitsWithin levels) e.canonical →
          Settles reading (e.FitsWithin (levels + 1)) e.canonical := by
        intro reading hbranch h
        refine h.of_iff (fitsWithin_succ_iff.trans (and_iff_right ?_)).symm
        rintro x rfl
        cases hbranch
      cases e with
      | literal v =>
          refine (settles_literal levels path v).of_iff (fitsWithin_succ_iff.trans ?_).symm
          simp [parts, Literal.IsFinite]
      | reference name =>
          refine (settles_ok _).of_iff (fitsWithin_succ_iff.trans ?_).symm
          simp [parts]
      | ifThenElse condition thenArm elseArm =>
          exact hbranch rfl (settles_ifThenElse ih _ condition thenArm elseArm)
      | ruleChain rules otherwise => exact hbranch rfl (settles_ruleChain ih _ rules otherwise)
      | finiteBranch subject cases otherwise =>
          exact hbranch rfl (settles_finiteBranch ih _ subject cases otherwise)

theorem samePairs_canonicalPairs {pairs : List (Expr × Expr)}
    (h : ∀ pair ∈ pairs,
      pair.1.same pair.1.canonical = true ∧ pair.2.same pair.2.canonical = true) :
    samePairs pairs (canonicalPairs pairs) = true := by
  induction pairs with
  | nil => rfl
  | cons pair rest ih =>
      obtain ⟨⟨hfirst, hsecond⟩, hrest⟩ := List.forall_mem_cons.mp h
      simp only [canonicalPairs, samePairs, hfirst, hsecond, ih hrest, Bool.and_self]

theorem sameFallback_canonicalFallback {otherwise : Option Expr}
    (h : ∀ e, otherwise = some e → e.same e.canonical = true) :
    sameFallback otherwise (canonicalFallback otherwise) = true := by
  cases otherwise with
  | none => rfl
  | some e => exact h e rfl

/-- An expression whose numbers are finite equals the one that stands for it. -/
theorem same_canonical {levels : Nat} {e : Expr} (h : e.FitsWithin levels) :
    e.same e.canonical = true := by
  induction levels generalizing e with
  | zero => exact absurd h (not_fitsWithin_zero e)
  | succ levels ih =>
      obtain ⟨hroot, hparts⟩ := fitsWithin_succ_iff.mp h
      have hsame : ∀ part ∈ e.parts, part.2.same part.2.canonical = true := by
        intro part mem
        exact ih (hparts part mem)
      cases e with
      | literal v =>
          apply Literal.same_canonical
          intro x hx
          exact hroot x (congrArg literal hx)
      | reference name => exact beq_self_eq_true name
      | ifThenElse condition thenArm elseArm =>
          have hsame := (forall_mem_ifThenElse fun e => e.same e.canonical = true).mp hsame
          simp only [canonical, same, hsame, Bool.and_self]
      | ruleChain rules otherwise =>
          have hsame := (forall_mem_ruleChain fun e => e.same e.canonical = true).mp hsame
          simp only [canonical, same, samePairs_canonicalPairs hsame.1,
            sameFallback_canonicalFallback hsame.2, Bool.and_self]
      | finiteBranch subject cases otherwise =>
          have hsame := (forall_mem_finiteBranch fun e => e.same e.canonical = true).mp hsame
          simp only [canonical, same, hsame.1, samePairs_canonicalPairs hsame.2.1,
            sameFallback_canonicalFallback hsame.2.2, Bool.and_self]

/-! ### Sizes -/

/-- An expression is no higher than the levels that it fits within. -/
theorem height_le_of_fitsWithin {levels : Nat} {e : Expr} (h : e.FitsWithin levels) :
    e.height ≤ levels := by
  induction levels generalizing e with
  | zero => exact absurd h (not_fitsWithin_zero e)
  | succ levels ih =>
      obtain ⟨_, hparts⟩ := fitsWithin_succ_iff.mp h
      exact height_le_succ_iff.mpr fun part mem => ih (hparts part mem)

theorem depth_encode_literal (v : Literal) : v.encode.depth = 0 := by
  cases v with
  | string s => rfl
  | bool b => rfl
  | number x =>
      rcases Literal.encode_number x with ⟨n, _, _, hencode⟩ | ⟨_, hencode⟩
      · rw [hencode]
        rfl
      · rw [hencode]
        rfl

mutual

/-- Every level of an expression takes four containers at most. -/
theorem depth_encode_le (e : Expr) : e.encode.depth ≤ 4 * e.height + 1 := by
  match e with
  | .literal v =>
      rw [encode, depth_encode_literal]
      exact Nat.zero_le _
  | .reference name => exact Nat.le_refl 1
  | .ifThenElse c t e =>
      have hc := depth_encode_le c
      have ht := depth_encode_le t
      have he := depth_encode_le e
      simp only [encode, branchData, Data.depth, Data.membersDepth, height]
      omega
  | .ruleChain rules o =>
      have hrules := depth_encodeRules_le rules
      have ho := depth_encodeFallback_le o
      simp only [encode, branchData, Data.depth, Data.membersDepth, height]
      omega
  | .finiteBranch s cases o =>
      have hs := depth_encode_le s
      have hcases := depth_encodeCases_le cases
      have ho := depth_encodeFallback_le o
      simp only [encode, branchData, Data.depth, Data.membersDepth, height]
      omega

theorem depth_encodeRules_le (rules : List (Expr × Expr)) :
    Data.itemsDepth (encodeRules rules) ≤ 4 * pairsHeight rules + 2 := by
  match rules with
  | [] => exact Nat.zero_le _
  | (condition, result) :: rest =>
      have hcondition := depth_encode_le condition
      have hresult := depth_encode_le result
      have hrest := depth_encodeRules_le rest
      simp only [encodeRules, Data.itemsDepth, Data.depth, Data.membersDepth, pairsHeight]
      omega

theorem depth_encodeCases_le (cases : List (Expr × Expr)) :
    Data.itemsDepth (encodeCases cases) ≤ 4 * pairsHeight cases + 2 := by
  match cases with
  | [] => exact Nat.zero_le _
  | (key, result) :: rest =>
      have hkey := depth_encode_le key
      have hresult := depth_encode_le result
      have hrest := depth_encodeCases_le rest
      simp only [encodeCases, Data.itemsDepth, Data.depth, pairsHeight]
      omega

theorem depth_encodeFallback_le (otherwise : Option Expr) :
    Data.membersDepth (encodeFallback otherwise) ≤ 4 * fallbackHeight otherwise + 1 := by
  match otherwise with
  | none => exact Nat.zero_le _
  | some e =>
      have he := depth_encode_le e
      simp only [encodeFallback, Data.membersDepth, fallbackHeight]
      omega

end

theorem maxExactInt_lt {digits : Nat} (h : 16 ≤ digits) : maxExactInt < Nat.pow 10 digits :=
  Nat.lt_of_lt_of_le (show maxExactInt < Nat.pow 10 16 by decide)
    (Nat.pow_le_pow_right (by decide) h)

/-- A table can hold an integer that a number is written as. -/
theorem tabular_int {n : Int} (h : n.natAbs ≤ maxExactInt) : (Data.int n).Tabular :=
  Nat.lt_of_le_of_lt h (maxExactInt_lt (by decide))

theorem tabular_encode_literal (v : Literal) : v.encode.Tabular := by
  cases v with
  | string s => trivial
  | bool b => trivial
  | number x =>
      rcases Literal.encode_number x with ⟨n, _, hsmall, hencode⟩ | ⟨_, hencode⟩
      · rw [hencode]
        exact tabular_int hsmall
      · rw [hencode]
        trivial

theorem tabular_branchData {value : List (String × Data)} (hnames : (Members.names value).Nodup)
    (h : Data.MembersTabular value) : (branchData value).Tabular :=
  ⟨by simp, trivial, ⟨hnames, h⟩, trivial⟩

mutual

/-- A table can hold the document form of an expression. -/
theorem tabular_encode (e : Expr) : e.encode.Tabular := by
  match e with
  | .literal v => exact tabular_encode_literal v
  | .reference name => exact ⟨by simp, trivial, trivial⟩
  | .ifThenElse c t e =>
      exact tabular_branchData (by simp)
        ⟨tabular_encode c, tabular_encode t, tabular_encode e, trivial⟩
  | .ruleChain rules o =>
      refine tabular_branchData ?_ ⟨tabular_encodeRules rules, tabular_encodeFallback o⟩
      cases o <;> simp [encodeFallback]
  | .finiteBranch s cases o =>
      refine tabular_branchData ?_
        ⟨tabular_encode s, tabular_encodeCases cases, tabular_encodeFallback o⟩
      cases o <;> simp [encodeFallback]

theorem tabular_encodeRules (rules : List (Expr × Expr)) :
    Data.ItemsTabular (encodeRules rules) := by
  match rules with
  | [] => trivial
  | (condition, result) :: rest =>
      exact ⟨⟨by simp, tabular_encode condition, tabular_encode result, trivial⟩,
        tabular_encodeRules rest⟩

theorem tabular_encodeCases (cases : List (Expr × Expr)) :
    Data.ItemsTabular (encodeCases cases) := by
  match cases with
  | [] => trivial
  | (key, result) :: rest =>
      exact ⟨⟨tabular_encode key, tabular_encode result, trivial⟩, tabular_encodeCases rest⟩

theorem tabular_encodeFallback (otherwise : Option Expr) :
    Data.MembersTabular (encodeFallback otherwise) := by
  match otherwise with
  | none => trivial
  | some e => exact ⟨tabular_encode e, trivial⟩

end

/-- The document form of an expression is found again in its text. -/
theorem readable_encode (e : Expr) : e.encode.Readable :=
  (tabular_encode e).readable

end Expr

end Rulebook
