import Rulebook.Input
import Rulebook.Proofs.ExprDocument
import Rulebook.Proofs.MemberLists
import Rulebook.Proofs.ScopeDocument
import Rulebook.Proofs.ScopeRun

/-!
Texts that are read as inputs pass the check of inputs.

A text is read by the kind that its name is declared with, so a declared name that a text
was given for is bound to a literal of that kind (`get?_of_ofRaw`), whose evaluation needs
one level only. All that the check can find is a declared name that no text was given for
(`Scope.validate_of_ofRaw`). The first text that its kind does not take ends the reading
(`ofRaw_error_iff`), the first declared name that is missing ends the check.
-/

namespace Rulebook

/-! ### Texts of a kind -/

namespace Input

/-- A text is taken for an input of a kind: any text as a string, one without underscores
that names a finite number, and one of two words, in any case and with blanks around
it. -/
def Acceptable (raw : String) : Kind → Prop
  | .string => True
  | .number => '_' ∉ raw.toList ∧ ∃ x, number? raw = some x ∧ x.isFinite = true
  | .bool =>
      String.ofList ((Text.strip Text.isBlank raw.toList).map Char.toLower) ∈ ["true", "false"]

theorem finiteNumber?_eq_some_iff {raw : String} {x : Number} :
    finiteNumber? raw = some x ↔
      '_' ∉ raw.toList ∧ number? raw = some x ∧ x.isFinite = true := by
  unfold finiteNumber?
  split
  · next h => simp [List.contains_iff_mem.mp h]
  · next h =>
      have hnone : '_' ∉ raw.toList := fun mem => h (List.contains_iff_mem.mpr mem)
      rw [Option.filter_eq_some_iff, and_iff_right hnone]

/-- Exactly the texts that a kind takes name a literal. -/
theorem acceptable_iff {raw : String} {kind : Kind} :
    Acceptable raw kind ↔ ∃ v, literal? raw kind = some v := by
  cases kind with
  | string => exact iff_of_true trivial ⟨_, rfl⟩
  | number => simp [Acceptable, literal?, finiteNumber?_eq_some_iff]
  | bool =>
      simp only [Acceptable, literal?, bool?]
      split
      · simp [*]
      · split
        · simp [*]
        · simp [*]

/-- The literal that a text names is of the kind asked for, and finite. -/
theorem literal?_sound {raw : String} {kind : Kind} {v : Literal}
    (h : literal? raw kind = some v) : v.kind = kind ∧ v.IsFinite := by
  cases kind with
  | string =>
      cases h
      exact ⟨rfl, nofun⟩
  | number =>
      obtain ⟨x, hx, rfl⟩ := Option.map_eq_some_iff.mp h
      refine ⟨rfl, ?_⟩
      rintro _ ⟨⟩
      exact (finiteNumber?_eq_some_iff.mp hx).2.2
  | bool =>
      obtain ⟨b, _, rfl⟩ := Option.map_eq_some_iff.mp h
      exact ⟨rfl, nofun⟩

end Input

namespace Scope

variable {scope : Scope} {name raw : String}

/-- A text that is read names a finite literal, of the declared kind if the name is
declared. -/
theorem parseInput_sound {v : Literal} (h : scope.parseInput name raw = .ok v) :
    v.IsFinite ∧ ∀ kind, (name, kind) ∈ scope.inputs → v.kind = kind := by
  unfold parseInput at h
  split at h
  · next declared hdeclared =>
      unfold Input.parse at h
      split at h
      · next hvalue =>
          cases h
          obtain ⟨hkind, hfinite⟩ := Input.literal?_sound hvalue
          refine ⟨hfinite, fun kind mem => ?_⟩
          have hsame := (Members.get?_eq_some_iff scope.nodup_inputs).mpr mem
          cases hdeclared.symm.trans hsame
          exact hkind
      · cases h
  · next hnone =>
      cases h
      refine ⟨nofun, fun kind mem => ?_⟩
      cases hnone.symm.trans ((Members.get?_eq_some_iff scope.nodup_inputs).mpr mem)

/-- A text is refused if its name is declared with a kind that does not take it. -/
theorem parseInput_error_iff {error : RawInputError} :
    scope.parseInput name raw = .error error ↔
      ∃ kind, (name, kind) ∈ scope.inputs ∧ ¬ Input.Acceptable raw kind ∧
        error = ⟨name, raw, kind⟩ := by
  simp only [← Members.get?_eq_some_iff scope.nodup_inputs, Input.acceptable_iff, parseInput,
    input?]
  cases Members.get? scope.inputs name with
  | none => simp
  | some kind =>
      simp only [Option.some.injEq, exists_eq_left', Input.parse]
      cases Input.literal? raw kind with
      | some v => simp
      | none => simp [eq_comm]

end Scope

/-! ### Contexts from texts -/

namespace Context

/-- A named text is taken: no kind that its name is declared with refuses it. -/
def Taken (scope : Scope) (entry : String × String) : Prop :=
  ∀ kind, (entry.1, kind) ∈ scope.inputs → Input.Acceptable entry.2 kind

section OfRaw

variable {scope : Scope} {named : List (String × String)} {context : Context}

/-- A named text is taken if it can be read. -/
theorem taken_iff {entry : String × String} :
    Taken scope entry ↔ ∃ v, scope.parseInput entry.1 entry.2 = .ok v := by
  cases hparse : scope.parseInput entry.1 entry.2 with
  | ok v =>
      refine iff_of_true (fun kind mem => ?_) ⟨v, rfl⟩
      refine Classical.byContradiction fun hnot => ?_
      cases hparse.symm.trans (Scope.parseInput_error_iff.mpr ⟨kind, mem, hnot, rfl⟩)
  | error error =>
      obtain ⟨kind, mem, hnot, _⟩ := Scope.parseInput_error_iff.mp hparse
      refine iff_of_false (fun h => hnot (h kind mem)) ?_
      rintro ⟨_, ⟨⟩⟩

theorem names_of_ofRaw (h : ofRaw scope named = .ok context) :
    Members.names context = Members.names named := by
  induction named generalizing context with
  | nil =>
      cases h
      rfl
  | cons entry rest ih =>
      obtain ⟨_, _, h⟩ := bind_eq_ok_iff.mp h
      obtain ⟨others, hothers, h⟩ := bind_eq_ok_iff.mp h
      cases h
      exact congrArg (entry.1 :: ·) (ih hothers)

/-- A text is bound to a literal that is finite, of the declared kind if there is one. -/
theorem mem_of_ofRaw (h : ofRaw scope named = .ok context) {entry : String × Expr}
    (mem : entry ∈ context) :
    ∃ v : Literal, entry.2 = .literal v ∧ v.IsFinite ∧
      ∀ kind, (entry.1, kind) ∈ scope.inputs → v.kind = kind := by
  induction named generalizing context with
  | nil =>
      cases h
      cases mem
  | cons first rest ih =>
      obtain ⟨value, hvalue, h⟩ := bind_eq_ok_iff.mp h
      obtain ⟨others, hothers, h⟩ := bind_eq_ok_iff.mp h
      cases h
      rcases List.mem_cons.mp mem with rfl | mem
      · exact ⟨value, rfl, Scope.parseInput_sound hvalue⟩
      · exact ih hothers mem

/-- A declared name is bound to a literal of its kind if a text was given for it, and is
not bound if none was. -/
theorem get?_of_ofRaw (h : ofRaw scope named = .ok context) {name : String} {kind : Kind}
    (mem : (name, kind) ∈ scope.inputs) :
    (name ∈ Members.names named ∧
      ∃ v : Literal, Members.get? context name = some (.literal v) ∧ v.kind = kind) ∨
    (name ∉ Members.names named ∧ Members.get? context name = none) := by
  rw [← names_of_ofRaw h]
  cases hbound : Members.get? context name with
  | none => exact .inr ⟨Members.get?_eq_none_iff.mp hbound, rfl⟩
  | some bound =>
      obtain ⟨v, rfl, _, hkind⟩ := mem_of_ofRaw h (Members.mem_of_get? hbound)
      exact .inl ⟨Members.mem_names_iff.mpr ⟨_, hbound⟩, v, rfl, hkind kind mem⟩

/-- The reading of texts is ended by the first one that cannot be read. -/
theorem ofRaw_error_iff {error : RawInputError} :
    ofRaw scope named = .error error ↔ ∃ before entry after, named = before ++ entry :: after ∧
      (∀ other ∈ before, Taken scope other) ∧ scope.parseInput entry.1 entry.2 = .error error := by
  induction named with
  | nil => simp [ofRaw]
  | cons entry rest ih =>
      rw [exists_first_cons_iff, ← ih, taken_iff]
      constructor
      · intro h
        rcases bind_eq_error_iff.mp h with herror | ⟨value, hvalue, h⟩
        · exact .inl herror
        rcases bind_eq_error_iff.mp h with hrest | ⟨_, _, hpure⟩
        · exact .inr ⟨⟨value, hvalue⟩, hrest⟩
        · cases hpure
      · rintro (herror | ⟨⟨value, hvalue⟩, hrest⟩)
        · exact bind_eq_error_iff.mpr (.inl herror)
        · exact bind_eq_error_iff.mpr
            (.inr ⟨value, hvalue, bind_eq_error_iff.mpr (.inl hrest)⟩)

end OfRaw

end Context

/-! ### The check of inputs -/

namespace Scope

section Validate

variable {scope : Scope} {named : List (String × String)} {context : Context} {maxDepth : Int}

/-- In a context that was read from texts, a declared input passes its check exactly if a
text was given for it, and is missing if not. -/
theorem checkInput_of_ofRaw (hdepth : 0 ≤ maxDepth) (h : Context.ofRaw scope named = .ok context)
    {input : String × Kind} (mem : input ∈ scope.inputs) :
    (checkInput context maxDepth input.1 input.2 = .ok () ↔ input.1 ∈ Members.names named) ∧
    ∀ error, checkInput context maxDepth input.1 input.2 = .error error ↔
      input.1 ∉ Members.names named ∧ error = .input input.1 .missing := by
  rcases Context.get?_of_ofRaw h mem with ⟨hgiven, v, hbound, hkind⟩ | ⟨hmissing, hbound⟩
  · have hpass := checkInput_of_literal hdepth hbound
    rw [hkind] at hpass
    simp [hpass, hgiven]
  · have hfail : checkInput context maxDepth input.1 input.2 =
        .error (.input input.1 .missing) := by
      simp only [checkInput, hbound]
    simp [hfail, hmissing, eq_comm]

end Validate

/-- **Texts that are read as inputs pass the check of inputs.** When every text is read,
each name is bound to a finite literal, and the check passes exactly if every declared
input was given; if not, it reports that the first one not given is missing, and nothing
else. When a text is not read, the error names the first one that is not acceptable for
the kind that its name is declared with. -/
theorem raw_inputs_pass_check (scope : Scope) (named : List (String × String)) :
    (∀ context, Context.ofRaw scope named = .ok context →
      Members.names context = Members.names named ∧
      (∀ entry ∈ context, ∃ v : Literal, entry.2 = .literal v ∧
        ∀ x, v = .number x → x.isFinite = true) ∧
      ∀ maxDepth : Int, 0 ≤ maxDepth →
        (scope.validate context maxDepth = .ok () ↔
          ∀ input ∈ scope.inputs, input.1 ∈ Members.names named) ∧
        ∀ error, scope.validate context maxDepth = .error error ↔
          ∃ before input after, scope.inputs = before ++ input :: after ∧
            (∀ other ∈ before, other.1 ∈ Members.names named) ∧
            input.1 ∉ Members.names named ∧ error = .input input.1 .missing) ∧
    ∀ error, Context.ofRaw scope named = .error error ↔
      ∃ before after, named = before ++ (error.name, error.raw) :: after ∧
        (∀ other ∈ before, ∀ kind, (other.1, kind) ∈ scope.inputs →
          Input.Acceptable other.2 kind) ∧
        (error.name, error.kind) ∈ scope.inputs ∧ ¬ Input.Acceptable error.raw error.kind := by
  constructor
  · intro context h
    refine ⟨Context.names_of_ofRaw h, ?_, ?_⟩
    · intro entry mem
      obtain ⟨v, hv, hfinite, _⟩ := Context.mem_of_ofRaw h mem
      exact ⟨v, hv, hfinite⟩
    · intro maxDepth hdepth
      have hcheck : ∀ input ∈ scope.inputs, _ := fun _ mem => checkInput_of_ofRaw hdepth h mem
      constructor
      · exact checkInputs_ok_iff.trans (forall₂_congr fun input mem => (hcheck input mem).1)
      · intro error
        refine checkInputs_error_iff.trans (exists₃_congr fun before input after => ?_)
        refine and_congr_right fun heq => and_congr (forall₂_congr fun other mem => ?_) ?_
        · exact (hcheck other (by simp [heq, mem])).1
        · exact (hcheck input (by simp [heq])).2 error
  · intro error
    refine Context.ofRaw_error_iff.trans ?_
    constructor
    · rintro ⟨before, entry, after, heq, hbefore, herror⟩
      obtain ⟨kind, mem, hnot, rfl⟩ := parseInput_error_iff.mp herror
      exact ⟨before, after, heq, hbefore, mem, hnot⟩
    · rintro ⟨before, after, heq, hbefore, mem, hnot⟩
      exact ⟨before, _, after, heq, hbefore, parseInput_error_iff.mpr ⟨_, mem, hnot, rfl⟩⟩

/-- A scope with a fee and a flag as its inputs, which publishes a note. -/
def feeScope : Scope where
  inputs := [("fee", .number), ("member", .bool)]
  calculations := []
  outputs := ["note"]
  nodup_inputs := by decide
  nodup_calculations := List.nodup_nil
  pairwise_outputs := List.pairwise_singleton _ "note"

/-- A flag on its own is read but leaves the fee missing; a fee that is no number is
refused, though the text after it is no truth value either. -/
theorem fee_missing_or_refused :
    (∃ context, Context.ofRaw feeScope [("member", " True "), ("note", "none")] = .ok context ∧
      feeScope.validate context 0 = .error (.input "fee" .missing)) ∧
    (∃ context, Context.ofRaw feeScope [("member", "false"), ("fee", "2.5")] = .ok context ∧
      feeScope.validate context 0 = .ok ()) ∧
    Context.ofRaw feeScope [("note", "none"), ("fee", "1_0"), ("member", "yes")] =
      .error ⟨"fee", "1_0", .number⟩ := by
  have hflag : Context.ofRaw feeScope [("member", " True "), ("note", "none")] =
      .ok [("member", .literal (.bool true)), ("note", .literal (.string "none"))] := rfl
  obtain ⟨fee, hfee⟩ : ∃ v, Input.literal? "2.5" .number = some v :=
    Option.isSome_iff_exists.mp (by decide +kernel)
  have hboth : Context.ofRaw feeScope [("member", "false"), ("fee", "2.5")] =
      .ok [("member", .literal (.bool false)), ("fee", .literal fee)] := by
    have hparse : feeScope.parseInput "fee" "2.5" = .ok fee := by
      change Input.parse "fee" "2.5" .number = .ok fee
      rw [Input.parse, hfee]
    simp only [Context.ofRaw, hparse]
    rfl
  refine ⟨⟨_, hflag, ?_⟩, ⟨_, hboth, ?_⟩, ?_⟩
  · refine ((((raw_inputs_pass_check feeScope _).1 _ hflag).2.2 0 (Int.le_refl 0)).2 _).mpr ?_
    exact ⟨[], ("fee", .number), [("member", .bool)], rfl, nofun, by decide, rfl⟩
  · refine (((raw_inputs_pass_check feeScope _).1 _ hboth).2.2 0 (Int.le_refl 0)).1.mpr ?_
    decide
  · refine ((raw_inputs_pass_check feeScope _).2 _).mpr
      ⟨[("note", "none")], [("member", "yes")], ?_⟩
    refine ⟨rfl, ?_, by decide, ?_⟩
    · simp [feeScope]
    · rintro ⟨hplain, _⟩
      exact hplain (by decide)

end Scope

end Rulebook
