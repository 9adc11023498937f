import Rulebook.Proofs.LongIntegers
import Rulebook.Proofs.ScopeDocument

/-!
How the loading of a text fails.

A reading of a value that has a text fails only with a fault that can be put into
words (`Reported`), since the faults show parts of that value. Values parsed from a
text have one, so the only other way to fail is an integer in the text of more
digits than are converted.
-/

namespace Rulebook

/-! ### Faults that can be put into words -/

/-- A reading fails, if it does, with a fault that can be put into words. -/
def Reported {α : Type} (reading : Except DecodeError α) : Prop :=
  ∀ error, reading = .error error → error.fault.refusal? = none

section Reported

variable {α β : Type} {reading : Except DecodeError α}

theorem reported_ok (value : α) : Reported (.ok value) := nofun

theorem reported_fault {fault : DecodeFault} (h : fault.refusal? = none) (path : DataPath) :
    Reported (α := α) (faultAt fault path) := by
  rintro _ ⟨⟩
  exact h

theorem Reported.bind {next : α → Except DecodeError β} (h : Reported reading)
    (hnext : ∀ value, reading = .ok value → Reported (next value)) :
    Reported (reading >>= next) := by
  cases reading with
  | ok value => exact hnext value rfl
  | error error =>
      rintro _ ⟨⟩
      exact h error rfl

theorem Reported.map (h : Reported reading) (f : α → β) : Reported (f <$> reading) := by
  cases reading with
  | ok value => exact reported_ok _
  | error error =>
      rintro _ ⟨⟩
      exact h error rfl

end Reported

section Fields

variable {members : List (String × Data)} (h : Json.membersRefusal? members = none)
include h

theorem refusal?_of_get? {name : String} {value : Data}
    (hget : Members.get? members name = some value) : Json.refusal? value = none :=
  Json.membersRefusal?_eq_none_iff.mp h _ (Members.mem_of_get? hget)

theorem refusal?_of_requiredField {name : String} {path : DataPath} {value : Data}
    (hfield : requiredField members name path = .ok value) : Json.refusal? value = none :=
  refusal?_of_get? h (get?_of_requiredField hfield)

omit h in
theorem reported_requiredField (members : List (String × Data)) (name : String) (path : DataPath) :
    Reported (requiredField members name path) := by
  unfold requiredField
  split
  · exact reported_ok _
  · exact reported_fault rfl path

end Fields

/-! ### Expressions -/

namespace Expr

section Level

theorem reported_readItems {α : Type} {read : DataPath → Data → Except DecodeError α}
    {items : List Data} (hread : ∀ item ∈ items, ∀ path, Reported (read path item))
    (path : DataPath) (index : Nat) : Reported (readItems read path index items) := by
  induction items generalizing index with
  | nil => exact reported_ok _
  | cons item items ih =>
      obtain ⟨hitem, hitems⟩ := List.forall_mem_cons.mp hread
      exact (hitem _).bind fun _ _ => (ih hitems _).bind fun _ _ => reported_ok _

variable {read : Reader}
  (hread : ∀ path value, Json.refusal? value = none → Reported (read path value))
include hread

theorem reported_readField {members : List (String × Data)}
    (h : Json.membersRefusal? members = none) (name : String) (path : DataPath) :
    Reported (readField read members name path) :=
  (reported_requiredField members name path).bind fun value hfield =>
    hread _ value (refusal?_of_requiredField h hfield)

theorem reported_readFallback {members : List (String × Data)}
    (h : Json.membersRefusal? members = none) (path : DataPath) :
    Reported (readFallback read members path) := by
  unfold readFallback
  split
  · next value hget => exact (hread _ value (refusal?_of_get? h hget)).map some
  · exact reported_ok _

theorem reported_readRule (path : DataPath) (item : Data) (h : Json.refusal? item = none) :
    Reported (readRule read path item) := by
  cases item with
  | object members =>
      exact (reported_readField hread h "when" path).bind fun _ _ =>
        (reported_readField hread h "then" path).bind fun _ _ => reported_ok _
  | _ => exact reported_fault rfl path

theorem reported_readCase (path : DataPath) (item : Data) (h : Json.refusal? item = none) :
    Reported (readCase read path item) := by
  unfold readCase
  split
  · next key result =>
      have hitems := Json.itemsRefusal?_eq_none_iff.mp h
      exact (hread _ key (hitems key (by simp))).bind fun _ _ =>
        (hread _ result (hitems result (by simp))).bind fun _ _ => reported_ok _
  · exact reported_fault rfl path

theorem reported_readIfThenElse {members : List (String × Data)}
    (h : Json.membersRefusal? members = none) (path : DataPath) :
    Reported (readIfThenElse read members path) :=
  (reported_readField hread h "if" path).bind fun _ _ =>
    (reported_readField hread h "then" path).bind fun _ _ =>
      (reported_readField hread h "else" path).bind fun _ _ => reported_ok _

theorem reported_readRuleChain {members : List (String × Data)}
    (h : Json.membersRefusal? members = none) (path : DataPath) {rules : Data}
    (hrules : Json.refusal? rules = none) : Reported (readRuleChain read members path rules) := by
  cases rules with
  | array items =>
      have hitems : ∀ item ∈ items, ∀ path, Reported (readRule read path item) :=
        fun item mem path => reported_readRule hread path item
          (Json.itemsRefusal?_eq_none_iff.mp hrules item mem)
      exact (reported_readItems hitems _ 0).bind fun _ _ =>
        (reported_readFallback hread h path).bind fun _ _ => reported_ok _
  | _ => exact reported_fault rfl _

theorem reported_readFiniteBranch {members : List (String × Data)}
    (h : Json.membersRefusal? members = none) (path : DataPath) {subject : Data}
    (hsubject : Json.refusal? subject = none) :
    Reported (readFiniteBranch read members path subject) := by
  refine (reported_requiredField members "when" path).bind fun cases hcases => ?_
  have hcases := refusal?_of_requiredField h hcases
  cases cases with
  | array items =>
      have hitems : ∀ item ∈ items, ∀ path, Reported (readCase read path item) :=
        fun item mem path => reported_readCase hread path item
          (Json.itemsRefusal?_eq_none_iff.mp hcases item mem)
      exact (hread _ subject hsubject).bind fun _ _ =>
        (reported_readItems hitems _ 0).bind fun _ _ =>
          (reported_readFallback hread h path).bind fun _ _ => reported_ok _
  | _ => exact reported_fault rfl _

theorem reported_readBranchValue (path : DataPath) (value : Data) (h : Json.refusal? value = none) :
    Reported (readBranchValue read path value) := by
  cases value with
  | object members =>
      simp only [readBranchValue]
      split
      · exact reported_readIfThenElse hread h path
      · split
        · next rules hget => exact reported_readRuleChain hread h path (refusal?_of_get? h hget)
        · split
          · next subject hget =>
              exact reported_readFiniteBranch hread h path (refusal?_of_get? h hget)
          · exact reported_fault rfl path
  | _ => exact reported_fault rfl path

theorem reported_readObject {members : List (String × Data)}
    (h : Json.membersRefusal? members = none) (path : DataPath) :
    Reported (readObject read members path) := by
  unfold readObject
  split
  · exact reported_ok _
  · next got _ hget =>
      have hgot : (DecodeFault.referenceNotString got).refusal? = none :=
        refusal?_of_get? h hget
      exact reported_fault hgot _
  · split
    · exact (reported_requiredField members "value" path).bind fun value hfield =>
        reported_readBranchValue hread _ value (refusal?_of_requiredField h hfield)
    · next got _ hget =>
        have hgot : (DecodeFault.unknownType got).refusal? = none := refusal?_of_get? h hget
        exact reported_fault hgot _
    · exact reported_fault rfl path

end Level

theorem reported_decodeWithin (levels : Nat) (path : DataPath) (value : Data)
    (h : Json.refusal? value = none) : Reported (decodeWithin levels path value) := by
  induction levels generalizing path value with
  | zero => exact reported_fault rfl path
  | succ levels ih =>
      cases value with
      | null => exact reported_fault rfl path
      | moment m => exact reported_fault rfl path
      | array items => exact reported_fault rfl path
      | string s => exact reported_ok _
      | bool b => exact reported_ok _
      | int n =>
          have hliteral : Reported (integerLiteral n path) := by
            unfold integerLiteral
            cases Literal.ofInt? n with
            | none => exact reported_fault rfl path
            | some v => exact reported_ok v
          exact hliteral.map literal
      | float x =>
          have hliteral : Reported (finiteLiteral x path) := by
            unfold finiteLiteral
            split
            · exact reported_ok _
            · exact reported_fault rfl path
          exact hliteral.map literal
      | object members => exact reported_readObject ih h path

theorem reported_decodeAt (machine : Machine) (path : DataPath) {value : Data}
    (h : Json.refusal? value = none) : Reported (decodeAt machine path value) := by
  cases hdecodes : machine.decodes value with
  | true =>
      rw [decodeAt_of_decodes hdecodes]
      exact reported_decodeWithin _ path value h
  | false =>
      rw [decodeAt_of_not_decodes hdecodes]
      exact reported_fault rfl path

end Expr

/-! ### Scopes -/

namespace Scope

theorem reported_readMembers {α : Type} {read : String → Data → Except DecodeError α}
    (hread : ∀ name value, Json.refusal? value = none → Reported (read name value))
    {members : List (String × Data)} (h : Json.membersRefusal? members = none) :
    Reported (readMembers read members) := by
  induction members with
  | nil => exact reported_ok _
  | cons member rest ih =>
      obtain ⟨name, value⟩ := member
      obtain ⟨hvalue, hrest⟩ := List.forall_mem_cons.mp (Json.membersRefusal?_eq_none_iff.mp h)
      exact (hread name value hvalue).bind fun _ _ =>
        (ih (Json.membersRefusal?_eq_none_iff.mpr hrest)).bind fun _ _ => reported_ok _

theorem reported_readKind (name : String) (value : Data) (h : Json.refusal? value = none) :
    Reported (readKind name value) := by
  have hfault : (DecodeFault.unknownInputType value).refusal? = none := h
  have hunknown : ∀ path, Reported (α := Kind) (faultAt (.unknownInputType value) path) :=
    reported_fault hfault
  cases value with
  | string word =>
      simp only [readKind]
      cases Kind.ofWord? word with
      | none => exact hunknown _
      | some kind => exact reported_ok kind
  | _ => exact hunknown _

theorem reported_readCalculation (machine : Machine) (name : String) (value : Data)
    (h : Json.refusal? value = none) : Reported (readCalculation machine name value) :=
  Expr.reported_decodeAt machine _ h

theorem reported_readOutput (path : DataPath) (value : Data) :
    Reported (readOutput path value) := by
  cases value with
  | string name => exact reported_ok name
  | _ => exact reported_fault rfl path

theorem reported_listField (members : List (String × Data)) (name : String) :
    Reported (listField members name) := by
  refine (reported_requiredField members name _).bind fun value _ => ?_
  cases value with
  | array items => exact reported_ok items
  | _ => exact reported_fault rfl _

theorem reported_uniqueField (members : List (String × Data)) (name : String) :
    Reported (uniqueField members name) := by
  refine (reported_requiredField members name _).bind fun value _ => ?_
  cases value with
  | object fields => exact reported_ok _
  | _ => exact reported_fault rfl _

theorem membersRefusal?_of_uniqueField {members : List (String × Data)}
    (h : Json.membersRefusal? members = none) {name : String}
    {fields : { fields : List (String × Data) // (Members.names fields).Nodup }}
    (hfield : uniqueField members name = .ok fields) : Json.membersRefusal? fields.val = none := by
  obtain ⟨listed, mem, hfields⟩ := mem_of_uniqueField hfield
  have hlisted := Json.membersRefusal?_eq_none_iff.mp (Json.membersRefusal?_eq_none_iff.mp h _ mem)
  exact Json.membersRefusal?_eq_none_iff.mpr fun member mem => hlisted member (hfields member mem)

theorem reported_layout {value : Data} (h : Json.refusal? value = none) :
    Reported (Layout.read value) := by
  cases value with
  | object members =>
      refine (reported_uniqueField members "inputs").bind fun inputs hinputs => ?_
      have hinputs := membersRefusal?_of_uniqueField h hinputs
      exact (reported_readMembers reported_readKind hinputs).bind fun _ _ =>
        (reported_uniqueField members "calculations").bind fun _ _ =>
          (reported_listField members "outputs").bind fun _ _ =>
            (Expr.reported_readItems (fun item _ path => reported_readOutput path item) _ 0).bind
              fun _ _ => reported_ok _
  | _ => exact reported_fault rfl []

theorem reported_decode (machine : Machine) {value : Data} (h : Json.refusal? value = none) :
    Reported (decode machine value) := by
  refine (reported_layout h).bind fun layout hlayout => ?_
  have hcalculations : Json.membersRefusal? layout.calculations = none := by
    obtain ⟨members, listed, rfl, mem, hlisted⟩ := calculations_of_layout hlayout
    have hwritable := Json.membersRefusal?_eq_none_iff.mp
      (Json.membersRefusal?_eq_none_iff.mp h _ mem)
    exact Json.membersRefusal?_eq_none_iff.mpr fun member mem =>
      hwritable member (hlisted member mem)
  have hread := reported_readMembers (reported_readCalculation machine) hcalculations
  exact hread.bind fun _ _ => reported_ok _

end Scope

/-! ### Texts -/

/-- What an error of loading says of the text: it is a report in words, or there is an
integer of so many digits, more than are converted. -/
def LoadError.Sound (text : String) : LoadError → Prop
  | .decode error => error.fault.refusal? = none
  | .tooManyDigits count => Json.LongInteger count text.toList

theorem parseDocument_sound {room : Nat} {text : String} {error : LoadError}
    (h : parseDocument room text = .error error) : error.Sound text := by
  unfold parseDocument at h
  split at h
  · cases h
  · cases h
    rfl
  · cases h
    rfl
  · next count hparse =>
      cases h
      exact Json.longInteger_of_parse hparse

theorem refusal?_of_parseDocument {room : Nat} {text : String} {value : Data}
    (h : parseDocument room text = .ok value) : Json.refusal? value = none := by
  unfold parseDocument at h
  split at h
  · next hparse =>
      cases h
      exact Json.refusal?_of_parse hparse
  all_goals cases h

/-- A reading that only fails in words loads a text or fails soundly. -/
theorem loading_sound {α : Type} {room : Nat} {decode : Data → Except DecodeError α}
    (hdecode : ∀ value, Json.refusal? value = none → Reported (decode value)) {text : String}
    {error : LoadError}
    (h : (parseDocument room text >>= fun value => (decode value).mapError .decode) =
      .error error) :
    error.Sound text := by
  rcases bind_eq_error_iff.mp h with hparse | ⟨value, hparse, hdecoded⟩
  · exact parseDocument_sound hparse
  · obtain ⟨fault, hfault, rfl⟩ := mapError_eq_error_iff.mp hdecoded
    exact hdecode value (refusal?_of_parseDocument hparse) fault hfault

theorem load_long_integer (machine : Machine) {text : String}
    (hdigits : ∀ c ∈ text.toList, c.isDigit = true)
    (hleading : text.toList.head? ≠ some '0') (hlong : Data.maxDigits < text.toList.length) :
    Expr.ofJson machine text = .error (.tooManyDigits text.toList.length) ∧
      Scope.ofJson machine text = .error (.tooManyDigits text.toList.length) := by
  have hparse : parseDocument machine.jsonRoom text =
      .error (.tooManyDigits text.toList.length) := by
    have hread := Json.parse_long_integer machine.jsonRoom hdigits hleading hlong
    rw [String.ofList_toList] at hread
    rw [parseDocument, hread]
  rw [Expr.ofJson, Scope.ofJson, hparse]
  exact ⟨rfl, rfl⟩

/-- **How loading fails.** An error of loading an expression or a scope is a decode error
that can be put into words, or the text has an integer of more digits than are
converted; and such an integer on its own fails that way. -/
theorem loading_fails_in_words_or_on_long_integer (machine : Machine) (text : String) :
    (∀ error, Expr.ofJson machine text = .error error → error.Sound text) ∧
    (∀ error, Scope.ofJson machine text = .error error → error.Sound text) ∧
    ((∀ c ∈ text.toList, c.isDigit = true) → text.toList.head? ≠ some '0' →
      Data.maxDigits < text.toList.length →
        Expr.ofJson machine text = .error (.tooManyDigits text.toList.length) ∧
        Scope.ofJson machine text = .error (.tooManyDigits text.toList.length)) := by
  refine ⟨fun error h => ?_, fun error h => ?_, load_long_integer machine⟩
  · exact loading_sound (fun _ => Expr.reported_decodeAt machine []) h
  · exact loading_sound (fun _ => Scope.reported_decode machine) h

/-- An integer of ones, one more than are converted. -/
def longInteger : String := String.ofList (List.replicate 4301 '1')

theorem toList_longInteger : longInteger.toList = List.replicate 4301 '1' :=
  String.toList_ofList

theorem longInteger_digits : ∀ c ∈ longInteger.toList, c.isDigit = true := by
  intro c mem
  rw [toList_longInteger] at mem
  rw [List.eq_of_mem_replicate mem]
  rfl

theorem longInteger_leading : longInteger.toList.head? ≠ some '0' := by
  rw [toList_longInteger, List.head?_replicate]
  decide

theorem longInteger_long : Data.maxDigits < longInteger.toList.length := by
  rw [toList_longInteger, List.length_replicate]
  decide

/-- The integer of ones fails to be loaded as a long integer. -/
theorem loading_fails_on_ones : Data.maxDigits < longInteger.toList.length ∧
    Expr.ofJson .standard longInteger = .error (.tooManyDigits longInteger.toList.length) ∧
    Scope.ofJson .standard longInteger = .error (.tooManyDigits longInteger.toList.length) :=
  ⟨longInteger_long, (loading_fails_in_words_or_on_long_integer .standard longInteger).2.2
    longInteger_digits longInteger_leading longInteger_long⟩

/-- An integer of 4301 ones is loaded neither as an expression nor as a scope, and no
decode error is reported. -/
theorem long_integer_not_reported :
    ¬ ∀ text : String,
      ((∃ e, Expr.ofJson .standard text = .ok e) ∨
        ∃ error, Expr.ofJson .standard text = .error (.decode error)) ∧
      ((∃ s, Scope.ofJson .standard text = .ok s) ∨
        ∃ error, Scope.ofJson .standard text = .error (.decode error)) := by
  intro h
  have hfails := load_long_integer .standard longInteger_digits longInteger_leading longInteger_long
  rcases (h longInteger).1 with ⟨e, he⟩ | ⟨error, herror⟩
  · cases hfails.1.symm.trans he
  · cases hfails.1.symm.trans herror

end Rulebook
