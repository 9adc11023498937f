import Rulebook.Proofs.ExprDocument

/-!
Which documents hold an expression.

`Data.ValidAt` is the grammar of expressions by depth: one level of it
(`Data.Form`) is said in terms of what is valid one level deeper. Reading returns
an expression exactly for what the grammar admits (`accepts_decodeWithin`), and what
it returns fits into the levels that are left.
-/

namespace Rulebook

/-! ### The grammar -/

namespace Data

section Form

variable (valid : Data → Prop)

/-- A member that is there, with a valid value. -/
def HasValid (members : List (String × Data)) (name : String) : Prop :=
  ∃ value, Members.get? members name = some value ∧ valid value

/-- A fallback with a valid value, or no fallback. -/
def FallbackForm (members : List (String × Data)) : Prop :=
  ∀ value, Members.get? members "otherwise" = some value → valid value

/-- A rule: an object of a condition and a result. -/
def RuleForm (item : Data) : Prop :=
  ∃ members, item = .object members ∧ HasValid valid members "when" ∧
    HasValid valid members "then"

/-- A case: an array of a key and a result. -/
def CaseForm (item : Data) : Prop :=
  ∃ key result, item = .array [key, result] ∧ valid key ∧ valid result

/-- The value of a branch, by the first of three fields that it has. -/
inductive BranchForm (body : List (String × Data)) : Prop where
  | ifThenElse : HasValid valid body "if" → HasValid valid body "then" →
      HasValid valid body "else" → BranchForm body
  | ruleChain {items : List Data} : Members.get? body "if" = none →
      Members.get? body "rules" = some (.array items) →
      (∀ item ∈ items, RuleForm valid item) → FallbackForm valid body → BranchForm body
  | finiteBranch {items : List Data} : Members.get? body "if" = none →
      Members.get? body "rules" = none → HasValid valid body "branchOn" →
      Members.get? body "when" = some (.array items) →
      (∀ item ∈ items, CaseForm valid item) → FallbackForm valid body → BranchForm body

/-- One level of an expression, given what is valid one level deeper. A reference
takes precedence over a type, and all other members are ignored. -/
inductive Form : Data → Prop where
  | string (s : String) : Form (.string s)
  | bool (b : Bool) : Form (.bool b)
  | int {n : Int} : (Number.ofRatio (decide (n < 0)) n.natAbs 1).isFinite = true → Form (.int n)
  | float {x : Number} : x.isFinite = true → Form (.float x)
  | reference {members : List (String × Data)} {name : String} :
      Members.get? members "ref" = some (.string name) → Form (.object members)
  | branch {members body : List (String × Data)} : Members.get? members "ref" = none →
      Members.get? members "type" = some (.string "branch") →
      Members.get? members "value" = some (.object body) →
      BranchForm valid body → Form (.object members)

end Form

section Form

variable {valid : Data → Prop} {members body : List (String × Data)}

theorem branchForm_iff_of_if {condition : Data} (hif : Members.get? body "if" = some condition) :
    BranchForm valid body ↔
      HasValid valid body "if" ∧ HasValid valid body "then" ∧ HasValid valid body "else" := by
  constructor
  · rintro (⟨hcondition, hthen, helse⟩ | ⟨hnone, _⟩ | ⟨hnone, _⟩)
    · exact ⟨hcondition, hthen, helse⟩
    · cases hif.symm.trans hnone
    · cases hif.symm.trans hnone
  · rintro ⟨hcondition, hthen, helse⟩
    exact .ifThenElse hcondition hthen helse

theorem branchForm_iff_of_rules {rules : Data} (hif : Members.get? body "if" = none)
    (hrules : Members.get? body "rules" = some rules) :
    BranchForm valid body ↔ ∃ items, rules = .array items ∧
      (∀ item ∈ items, RuleForm valid item) ∧ FallbackForm valid body := by
  constructor
  · rintro (⟨⟨_, hsome, _⟩, _⟩ | ⟨_, hsome, hitems, hotherwise⟩ | ⟨_, hnone, _⟩)
    · cases hif.symm.trans hsome
    · exact ⟨_, Option.some.inj (hrules.symm.trans hsome), hitems, hotherwise⟩
    · cases hrules.symm.trans hnone
  · rintro ⟨items, rfl, hitems, hotherwise⟩
    exact .ruleChain hif hrules hitems hotherwise

theorem branchForm_iff_of_branchOn {subject : Data} (hif : Members.get? body "if" = none)
    (hrules : Members.get? body "rules" = none)
    (hsubject : Members.get? body "branchOn" = some subject) :
    BranchForm valid body ↔ valid subject ∧
      ∃ items, Members.get? body "when" = some (.array items) ∧
        (∀ item ∈ items, CaseForm valid item) ∧ FallbackForm valid body := by
  constructor
  · rintro (⟨⟨_, hsome, _⟩, _⟩ | ⟨_, hsome, _⟩ |
      ⟨_, _, ⟨subject', hsome, hvalid⟩, hwhen, hitems, hotherwise⟩)
    · cases hif.symm.trans hsome
    · cases hrules.symm.trans hsome
    · cases hsubject.symm.trans hsome
      exact ⟨hvalid, _, hwhen, hitems, hotherwise⟩
  · rintro ⟨hvalid, items, hwhen, hitems, hotherwise⟩
    exact .finiteBranch hif hrules ⟨subject, hsubject, hvalid⟩ hwhen hitems hotherwise

theorem not_branchForm (hif : Members.get? body "if" = none)
    (hrules : Members.get? body "rules" = none)
    (hsubject : Members.get? body "branchOn" = none) : ¬ BranchForm valid body := by
  rintro (⟨⟨_, hsome, _⟩, _⟩ | ⟨_, hsome, _⟩ | ⟨_, _, ⟨_, hsome, _⟩, _⟩)
  · cases hif.symm.trans hsome
  · cases hrules.symm.trans hsome
  · cases hsubject.symm.trans hsome

theorem form_iff_of_ref {got : Data} (href : Members.get? members "ref" = some got) :
    Form valid (.object members) ↔ ∃ name, got = .string name := by
  constructor
  · rintro (_ | _ | _ | _ | hname | ⟨hnone, _⟩)
    · exact ⟨_, Option.some.inj (href.symm.trans hname)⟩
    · cases href.symm.trans hnone
  · rintro ⟨name, rfl⟩
    exact .reference href

theorem form_iff_of_no_ref (href : Members.get? members "ref" = none) :
    Form valid (.object members) ↔ Members.get? members "type" = some (.string "branch") ∧
      ∃ body, Members.get? members "value" = some (.object body) ∧ BranchForm valid body := by
  constructor
  · rintro (_ | _ | _ | _ | hname | ⟨_, htype, hvalue, hbody⟩)
    · cases href.symm.trans hname
    · exact ⟨htype, _, hvalue, hbody⟩
  · rintro ⟨htype, body, hvalue, hbody⟩
    exact .branch href htype hvalue hbody

end Form

/-- The documents that hold an expression at a depth. -/
def ValidAt (depth : Nat) (value : Data) : Prop :=
  if depth ≤ defaultMaxDepth then Form (ValidAt (depth + 1)) value else False
termination_by defaultMaxDepth + 1 - depth

/-- A value is valid at a depth that is not too great if its form is that of an
expression whose parts are valid one level deeper. -/
theorem validAt_iff {depth : Nat} {value : Data} :
    value.ValidAt depth ↔ depth ≤ defaultMaxDepth ∧ Form (ValidAt (depth + 1)) value := by
  rw [ValidAt]
  split
  · next h => exact (and_iff_right h).symm
  · next h => exact iff_of_false id fun hvalid => h hvalid.1

end Data

/-! ### Readings that return -/

/-- A reading returns a value exactly under a condition, and then one of a kind. -/
structure Accepts {α : Type} (reading : Except DecodeError α) (condition : Prop)
    (holds : α → Prop) : Prop where
  returns : condition → ∃ value, reading = .ok value
  only : ∀ value, reading = .ok value → condition ∧ holds value

section Accepts

variable {α β : Type} {reading : Except DecodeError α} {p q : Prop} {holds : α → Prop}
  {holds' : β → Prop}

theorem Accepts.of_iff (h : Accepts reading p holds) (hiff : p ↔ q) : Accepts reading q holds where
  returns hq := h.returns (hiff.mpr hq)
  only value hvalue := ⟨hiff.mp (h.only value hvalue).1, (h.only value hvalue).2⟩

theorem Accepts.imp {holds' : α → Prop} (h : Accepts reading p holds)
    (himp : ∀ value, holds value → holds' value) : Accepts reading p holds' where
  returns := h.returns
  only value hvalue := ⟨(h.only value hvalue).1, himp value (h.only value hvalue).2⟩

theorem accepts_ok {value : α} (h : holds value) : Accepts (.ok value) True holds where
  returns _ := ⟨value, rfl⟩
  only _ := by
    rintro ⟨⟩
    exact ⟨trivial, h⟩

theorem accepts_fault (fault : DecodeFault) (path : DataPath) :
    Accepts (faultAt fault path) False holds where
  returns := False.elim
  only _ := nofun

/-- One reading after another returns if both do. -/
theorem Accepts.bind {next : α → Except DecodeError β} (h : Accepts reading p holds)
    (hnext : ∀ value, holds value → Accepts (next value) q holds') :
    Accepts (reading >>= next) (p ∧ q) holds' where
  returns := by
    rintro ⟨hp, hq⟩
    obtain ⟨value, rfl⟩ := h.returns hp
    exact (hnext value (h.only value rfl).2).returns hq
  only result hresult := by
    cases reading with
    | error error => cases hresult
    | ok value =>
        obtain ⟨hp, hvalue⟩ := h.only value rfl
        obtain ⟨hq, hholds⟩ := (hnext value hvalue).only result hresult
        exact ⟨⟨hp, hq⟩, hholds⟩

theorem Accepts.map (h : Accepts reading p holds) (f : α → β)
    (hf : ∀ value, holds value → holds' (f value)) : Accepts (f <$> reading) p holds' := by
  have hmap := h.bind fun value hvalue => accepts_ok (hf value hvalue)
  rw [and_true] at hmap
  cases reading <;> exact hmap

end Accepts

/-! ### Acceptance -/

namespace Expr

section Level

open Data

variable {read : Reader} {valid : Data → Prop} {holds : Expr → Prop}
  (hread : ∀ path value, Accepts (read path value) (valid value) holds)
include hread

theorem accepts_readField (members : List (String × Data)) (name : String) (path : DataPath) :
    Accepts (readField read members name path) (HasValid valid members name) holds := by
  unfold readField requiredField
  cases hget : Members.get? members name with
  | none => exact (accepts_fault _ path).of_iff (by simp [HasValid, hget])
  | some value => exact (hread _ value).of_iff (by simp [HasValid, hget])

theorem accepts_readFallback (members : List (String × Data)) (path : DataPath) :
    Accepts (readFallback read members path) (FallbackForm valid members)
      fun otherwise => ∀ e, otherwise = some e → holds e := by
  unfold readFallback
  cases hget : Members.get? members "otherwise" with
  | none => exact (accepts_ok nofun).of_iff (by simp [FallbackForm, hget])
  | some value =>
      refine ((hread _ value).map some ?_).of_iff (by simp [FallbackForm, hget])
      rintro e he _ ⟨⟩
      exact he

theorem accepts_readRule (path : DataPath) (item : Data) :
    Accepts (readRule read path item) (RuleForm valid item)
      fun rule => holds rule.1 ∧ holds rule.2 := by
  cases item with
  | object members =>
      refine ((accepts_readField hread members "when" path).bind fun condition hcondition =>
        (accepts_readField hread members "then" path).bind fun result hresult =>
          accepts_ok ⟨hcondition, hresult⟩).of_iff ?_
      simp [RuleForm]
  | _ => exact (accepts_fault _ path).of_iff (by simp [RuleForm])

theorem accepts_readCase (path : DataPath) (item : Data) :
    Accepts (readCase read path item) (CaseForm valid item)
      fun case => holds case.1 ∧ holds case.2 := by
  unfold readCase
  split
  · next key result =>
      refine ((hread _ key).bind fun key hkey => (hread _ result).bind fun result hresult =>
        accepts_ok ⟨hkey, hresult⟩).of_iff ?_
      constructor
      · rintro ⟨hkey, hresult, -⟩
        exact ⟨key, result, rfl, hkey, hresult⟩
      · rintro ⟨_, _, ⟨⟩, hkey, hresult⟩
        exact ⟨hkey, hresult, trivial⟩
  · next hnot =>
      refine (accepts_fault _ path).of_iff (iff_of_false id ?_)
      rintro ⟨key, result, rfl, _⟩
      exact hnot key result rfl

omit hread in
/-- Items are read one by one, each at its place. -/
theorem accepts_readItems {α : Type} {read : DataPath → Data → Except DecodeError α}
    {form : Data → Prop} {holds : α → Prop}
    (hread : ∀ path item, Accepts (read path item) (form item) holds) (path : DataPath)
    (index : Nat) (items : List Data) :
    Accepts (readItems read path index items) (∀ item ∈ items, form item)
      fun results => ∀ result ∈ results, holds result := by
  induction items generalizing index with
  | nil => exact (accepts_ok (by simp)).of_iff (by simp)
  | cons item items ih =>
      refine ((hread _ item).bind fun first hfirst => (ih (index + 1)).bind fun others hothers =>
        accepts_ok ?_).of_iff (by simp)
      exact List.forall_mem_cons.mpr ⟨hfirst, hothers⟩

/-- What holds of the parts of a branch that is read. -/
abbrev HoldsOfParts (holds : Expr → Prop) (e : Expr) : Prop :=
  e.isBranch = true ∧ ∀ part ∈ e.parts, holds part.2

theorem accepts_readIfThenElse (members : List (String × Data)) (path : DataPath) :
    Accepts (readIfThenElse read members path)
      (HasValid valid members "if" ∧ HasValid valid members "then" ∧
        HasValid valid members "else") (HoldsOfParts holds) := by
  refine ((accepts_readField hread members "if" path).bind fun condition hcondition =>
    (accepts_readField hread members "then" path).bind fun thenArm hthen =>
      (accepts_readField hread members "else" path).bind fun elseArm helse =>
        accepts_ok ⟨rfl, ?_⟩).of_iff (by simp)
  exact (forall_mem_ifThenElse holds).mpr ⟨hcondition, hthen, helse⟩

theorem accepts_readRuleChain (members : List (String × Data)) (path : DataPath) (rules : Data) :
    Accepts (readRuleChain read members path rules)
      (∃ items, rules = .array items ∧ (∀ item ∈ items, RuleForm valid item) ∧
        FallbackForm valid members) (HoldsOfParts holds) := by
  cases rules with
  | array items =>
      refine ((accepts_readItems (accepts_readRule hread) _ 0 items).bind fun rules hrules =>
        (accepts_readFallback hread members path).bind fun otherwise hotherwise =>
          accepts_ok ⟨rfl, ?_⟩).of_iff (by simp)
      exact (forall_mem_ruleChain holds).mpr ⟨hrules, hotherwise⟩
  | _ => exact (accepts_fault _ _).of_iff (by simp)

theorem accepts_readFiniteBranch (members : List (String × Data)) (path : DataPath)
    (subject : Data) :
    Accepts (readFiniteBranch read members path subject)
      (valid subject ∧ ∃ items, Members.get? members "when" = some (.array items) ∧
        (∀ item ∈ items, CaseForm valid item) ∧ FallbackForm valid members)
      (HoldsOfParts holds) := by
  unfold readFiniteBranch requiredField
  cases hwhen : Members.get? members "when" with
  | none => exact (accepts_fault _ path).of_iff (by simp)
  | some cases =>
      cases cases with
      | array items =>
          refine ((hread _ subject).bind fun subject hsubject =>
            (accepts_readItems (accepts_readCase hread) _ 0 items).bind fun cases hcases =>
              (accepts_readFallback hread members path).bind fun otherwise hotherwise =>
                accepts_ok ⟨rfl, ?_⟩).of_iff (by simp)
          exact (forall_mem_finiteBranch holds).mpr ⟨hsubject, hcases, hotherwise⟩
      | _ => exact (accepts_fault _ _).of_iff (by simp)

theorem accepts_readBranchValue (path : DataPath) (value : Data) :
    Accepts (readBranchValue read path value)
      (∃ body, value = .object body ∧ BranchForm valid body) (HoldsOfParts holds) := by
  cases value with
  | object body =>
      have hform : BranchForm valid body ↔
          ∃ body', Data.object body = .object body' ∧ BranchForm valid body' := by simp
      refine Accepts.of_iff ?_ hform
      cases hif : Members.get? body "if" with
      | some condition =>
          have hhas : Members.has body "if" = true := by rw [Members.has, hif]; rfl
          simp only [readBranchValue, hhas, if_true]
          exact (accepts_readIfThenElse hread body path).of_iff (branchForm_iff_of_if hif).symm
      | none =>
          have hhas : Members.has body "if" = false := by rw [Members.has, hif]; rfl
          simp only [readBranchValue, hhas, Bool.false_eq_true, if_false]
          cases hrules : Members.get? body "rules" with
          | some rules =>
              exact (accepts_readRuleChain hread body path rules).of_iff
                (branchForm_iff_of_rules hif hrules).symm
          | none =>
              cases hsubject : Members.get? body "branchOn" with
              | some subject =>
                  exact (accepts_readFiniteBranch hread body path subject).of_iff
                    (branchForm_iff_of_branchOn hif hrules hsubject).symm
              | none =>
                  exact (accepts_fault _ path).of_iff
                    (iff_of_false id (not_branchForm hif hrules hsubject))
  | _ => exact (accepts_fault _ path).of_iff (by simp)

/-- What holds of an object that is read: it is a reference, or a branch of parts of a
kind. -/
abbrev HoldsOfObject (holds : Expr → Prop) (e : Expr) : Prop :=
  (∃ name, e = .reference name) ∨ HoldsOfParts holds e

theorem accepts_readObject (members : List (String × Data)) (path : DataPath) :
    Accepts (readObject read members path) (Form valid (.object members))
      (HoldsOfObject holds) := by
  unfold readObject
  split
  · next name href =>
      exact (accepts_ok (.inl ⟨name, rfl⟩)).of_iff
        (iff_of_true trivial ((form_iff_of_ref href).mpr ⟨name, rfl⟩))
  · next got hnot href =>
      refine (accepts_fault _ _).of_iff ((false_iff _).mpr ?_)
      rw [form_iff_of_ref href]
      exact fun ⟨name, hname⟩ => hnot name hname
  · next href =>
      refine Accepts.of_iff ?_ (form_iff_of_no_ref href).symm
      split
      · next htype =>
          rw [htype, and_iff_right rfl]
          unfold requiredField
          cases hvalue : Members.get? members "value" with
          | none => exact (accepts_fault _ _).of_iff (by simp)
          | some value =>
              refine ((accepts_readBranchValue hread _ value).imp fun _ => .inr).of_iff ?_
              simp
      · next got hnot htype =>
          refine (accepts_fault _ _).of_iff (iff_of_false id ?_)
          rintro ⟨hsome, _⟩
          exact hnot (Option.some.inj (htype.symm.trans hsome))
      · next htype =>
          refine (accepts_fault _ _).of_iff (iff_of_false id ?_)
          rintro ⟨hsome, _⟩
          cases htype.symm.trans hsome

end Level

theorem accepts_integerLiteral (n : Int) (path : DataPath) :
    Accepts (integerLiteral n path)
      ((Number.ofRatio (decide (n < 0)) n.natAbs 1).isFinite = true) Literal.IsFinite := by
  unfold integerLiteral Literal.ofInt? Number.ofInt?
  cases hnearest : Number.ofRatio (decide (n < 0)) n.natAbs 1 with
  | finite negative rank =>
      refine (accepts_ok ?_).of_iff (iff_of_true trivial rfl)
      rintro x ⟨⟩
      rfl
  | infinite negative => exact (accepts_fault _ path).of_iff (iff_of_false id nofun)
  | nan =>
      unfold Number.ofRatio Number.ofRank at hnearest
      split at hnearest <;> cases hnearest

theorem accepts_finiteLiteral (x : Number) (path : DataPath) :
    Accepts (finiteLiteral x path) (x.isFinite = true) Literal.IsFinite := by
  unfold finiteLiteral
  split
  · next h =>
      refine (accepts_ok ?_).of_iff (iff_of_true trivial h)
      rintro _ ⟨⟩
      exact h
  · next h => exact (accepts_fault _ path).of_iff (iff_of_false id h)

/-- Reading within so many levels returns exactly for what is valid at the depth that
leaves so many, and what it returns fits into them. -/
theorem accepts_decodeWithin {levels depth : Nat} (h : depth + levels = defaultMaxDepth + 1)
    (path : DataPath) (value : Data) :
    Accepts (decodeWithin levels path value) (value.ValidAt depth) (FitsWithin levels) := by
  induction levels generalizing depth path value with
  | zero =>
      refine (accepts_fault _ path).of_iff (iff_of_false id ?_)
      intro hvalid
      have hdepth := (Data.validAt_iff.mp hvalid).1
      omega
  | succ levels ih =>
      have hdepth : depth ≤ defaultMaxDepth := by omega
      refine Accepts.of_iff ?_ (Data.validAt_iff.trans (and_iff_right hdepth)).symm
      have hread := ih (show depth + 1 + levels = defaultMaxDepth + 1 by omega)
      cases value with
      | null => exact (accepts_fault _ path).of_iff (iff_of_false id nofun)
      | moment m => exact (accepts_fault _ path).of_iff (iff_of_false id nofun)
      | array items => exact (accepts_fault _ path).of_iff (iff_of_false id nofun)
      | string s =>
          have hfits : (literal (.string s)).FitsWithin (levels + 1) := fitsWithin_literal nofun
          exact (accepts_ok hfits).of_iff (iff_of_true trivial (.string s))
      | bool b =>
          have hfits : (literal (.bool b)).FitsWithin (levels + 1) := fitsWithin_literal nofun
          exact (accepts_ok hfits).of_iff (iff_of_true trivial (.bool b))
      | int n =>
          refine ((accepts_integerLiteral n path).map _ fun _ => fitsWithin_literal).of_iff
            ⟨.int, ?_⟩
          rintro ⟨⟩
          assumption
      | float x =>
          refine ((accepts_finiteLiteral x path).map _ fun _ => fitsWithin_literal).of_iff
            ⟨.float, ?_⟩
          rintro ⟨⟩
          assumption
      | object members =>
          refine (accepts_readObject hread members path).imp ?_
          rintro e (⟨name, rfl⟩ | ⟨hbranch, hparts⟩)
          · exact fitsWithin_reference levels name
          · refine fitsWithin_succ_iff.mpr ⟨?_, hparts⟩
            rintro x rfl
            cases hbranch

end Expr

end Rulebook
