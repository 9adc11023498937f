import Rulebook.Proofs.ExprDocument
import Rulebook.Scope.Document

/-!
What is written as JSON text is read back equal.

An expression is portable if its numbers are finite and no place in it lies deeper than
an evaluation follows by default. Exactly the portable expressions are read back from
their texts, equal to what was written; any other is refused when it is written or when
it is read (`json_round_trip`).
-/

namespace Rulebook

/-! ### Values that have a text -/

namespace Json

mutual

theorem refusal?_of_readable {value : Data} (h : value.Readable) : refusal? value = none := by
  match value with
  | .null | .bool _ | .float _ | .string _ => rfl
  | .int n =>
      have hwritable : (Data.int n).isWritable = true := by
        simp only [Data.isWritable, decide_eq_true_eq]
        exact h
      rw [refusal?, if_pos hwritable]
  | .array items => exact itemsRefusal?_of_readable h
  | .object members => exact membersRefusal?_of_readable h.2

theorem itemsRefusal?_of_readable {items : List Data} (h : Data.ItemsReadable items) :
    itemsRefusal? items = none := by
  match items with
  | [] => rfl
  | item :: items =>
      rw [itemsRefusal?, refusal?_of_readable h.1, itemsRefusal?_of_readable h.2]
      rfl

theorem membersRefusal?_of_readable {members : List (String × Data)}
    (h : Data.MembersReadable members) : membersRefusal? members = none := by
  match members with
  | [] => rfl
  | (name, value) :: members =>
      rw [membersRefusal?, refusal?_of_readable h.1, membersRefusal?_of_readable h.2]
      rfl

end

end Json

/-! ### Texts under an indentation -/

theorem parseDocument_text (room : Nat) (layout : Json.Layout) {value : Data} (h : value.Readable) :
    (value.depth ≤ room ∧ parseDocument room (Json.text layout value) = .ok value) ∨
      (room < value.depth ∧
        parseDocument room (Json.text layout value) = .error (.decode ⟨.textTooDeep, []⟩)) := by
  rcases Json.parse_text room layout h with ⟨hdepth, hparse⟩ | ⟨hdepth, container, hparse⟩
  · exact .inl ⟨hdepth, by rw [parseDocument, hparse]⟩
  · exact .inr ⟨hdepth, by rw [parseDocument, hparse]⟩

namespace Machine

variable {machine : Machine} {indent : Option Int} {value : Data}

/-- What keeps a value that has a text from being written: no layout is to be had for its
lines, or the stack gives out in that layout. -/
inductive Hinders (machine : Machine) (indent : Option Int) (value : Data) : WriteFault → Prop where
  | layout {cause : Json.IndentFault} :
      machine.layoutFor indent value = .error cause → Hinders machine indent value (.indent cause)
  | stack {layout : Json.Layout} :
      machine.layoutFor indent value = .ok layout → machine.writes layout value = false →
      Hinders machine indent value (.refused .outOfStack)

theorem jsonText_of_writes {layout : Json.Layout} (hvalue : value.Readable)
    (h : machine.writes layout value = true) :
    machine.jsonText layout value = .ok (Json.text layout value) := by
  rw [jsonText, if_pos h, Json.refusal?_of_readable hvalue]

theorem writeJson_of_layout {layout : Json.Layout} (hvalue : value.Readable)
    (hlayout : machine.layoutFor indent value = .ok layout)
    (hwrites : machine.writes layout value = true) :
    ∃ layout, machine.writeJson indent value = .ok (Json.text layout value) := by
  unfold writeJson
  split
  · exact ⟨.line, rfl⟩
  · rw [hlayout]
    exact ⟨layout, congrArg (Except.mapError _) (jsonText_of_writes hvalue hwrites)⟩

/-- A value that has a text is written in some layout, unless something hinders it, which
nothing does for a bare string. -/
theorem writeJson_cases (machine : Machine) (indent : Option Int) (hvalue : value.Readable) :
    (∃ layout, machine.writeJson indent value = .ok (Json.text layout value) ∧
      ((∃ s, value = .string s) ∨ machine.layoutFor indent value = .ok layout ∧
        machine.writes layout value = true)) ∨
    ∃ fault, machine.writeJson indent value = .error fault ∧ (∀ s, value ≠ .string s) ∧
      machine.Hinders indent value fault := by
  unfold writeJson
  split
  · next s => exact .inl ⟨.line, rfl, .inl ⟨s, rfl⟩⟩
  · next hstring =>
      cases hlayout : machine.layoutFor indent value with
      | error cause => exact .inr ⟨.indent cause, rfl, hstring, .layout hlayout⟩
      | ok layout =>
          cases hwrites : machine.writes layout value with
          | true =>
              refine .inl ⟨layout, ?_, .inr ⟨rfl, hwrites⟩⟩
              exact congrArg (Except.mapError _) (jsonText_of_writes hvalue hwrites)
          | false =>
              have hrefused : machine.jsonText layout value = .error .outOfStack :=
                if_neg (ne_true_of_eq_false hwrites)
              exact .inr ⟨_, congrArg (Except.mapError _) hrefused, hstring, .stack hlayout hwrites⟩

/-- What is written for a document is its text, in some layout. -/
theorem eq_text_of_writeDocument (hvalue : value.Readable) {fits : Prop} [Decidable fits]
    {text : String}
    (h : machine.writeDocument indent (if fits then some value else none) = .ok text) :
    fits ∧ ∃ layout, text = Json.text layout value := by
  split at h
  · next hfits =>
      rcases machine.writeJson_cases indent hvalue with
        ⟨layout, hwritten, _⟩ | ⟨fault, hwritten, _⟩
      · exact ⟨hfits, layout, Except.ok.inj (h.symm.trans hwritten)⟩
      · cases h.symm.trans hwritten
  · cases h

/-- Only one thing hinders a value, and nothing does where it is written. -/
theorem Hinders.writeJson_eq {fault : WriteFault} (h : machine.Hinders indent value fault)
    (hstring : ∀ s, value ≠ .string s) : machine.writeJson indent value = .error fault := by
  unfold writeJson
  split
  · next s => exact absurd rfl (hstring s)
  · cases h with
    | layout hlayout =>
        rw [hlayout]
        rfl
    | stack hlayout hwrites =>
        have hrefused : machine.jsonText _ value = .error .outOfStack :=
          if_neg (ne_true_of_eq_false hwrites)
        rw [hlayout]
        exact congrArg (Except.mapError _) hrefused

end Machine

/-! ### Expressions -/

namespace Expr

/-- Every number in an expression is finite, and no place lies deeper than an evaluation
follows by default. -/
structure Portable (e : Expr) : Prop where
  finite : ∀ path x, e.at? path = some (.literal (.number x)) → x.isFinite = true
  levels : ∀ path sub, e.at? path = some sub → path.length ≤ defaultMaxDepth

theorem portable_iff_fitsWithin {e : Expr} : e.Portable ↔ e.FitsWithin (defaultMaxDepth + 1) := by
  constructor
  · intro h path sub hsub
    refine ⟨Nat.lt_succ_of_le (h.levels path sub hsub), ?_⟩
    rintro x rfl
    exact h.finite path x hsub
  · intro h
    constructor
    · intro path x hx
      exact (h path _ hx).2 x rfl
    · intro path sub hsub
      exact Nat.le_of_lt_succ (h path sub hsub).1

theorem portable_truth : (literal (.bool true)).Portable :=
  portable_iff_fitsWithin.mpr (fitsWithin_literal nofun)

theorem Portable.height_le {e : Expr} (h : e.Portable) : e.height ≤ defaultMaxDepth + 1 :=
  height_le_of_fitsWithin (portable_iff_fitsWithin.mp h)

theorem same_canonical_of_portable {e : Expr} (h : e.Portable) : e.same e.canonical = true :=
  same_canonical (portable_iff_fitsWithin.mp h)

theorem depth_le_of_portable {e : Expr} (h : e.Portable) :
    e.encode.depth ≤ 4 * (defaultMaxDepth + 1) + 1 := by
  have hheight := h.height_le
  have hencode := depth_encode_le e
  omega

end Expr

namespace Machine

/-- The deepest a document of portable expressions is: four containers for each level and
one below the last, with two around the expressions of a scope. -/
def documentDepth : Nat := 4 * (defaultMaxDepth + 1) + 3

/-- The stack is large enough for portable expressions: they are encoded and decoded, and
documents as deep as theirs are written and read as JSON. -/
structure Ample (machine : Machine) : Prop where
  encodes : ∀ e : Expr, e.Portable → machine.encodes e.encode = true
  decodes : ∀ e : Expr, e.Portable → machine.decodes e.encode = true
  writes : ∀ layout value, value.depth ≤ documentDepth → machine.writes layout value = true
  room : documentDepth ≤ machine.jsonRoom

theorem ample_standard : standard.Ample where
  encodes e h := decide_eq_true (Nat.le_trans (Expr.depth_le_of_portable h) (by decide))
  decodes e _ := decodes_standard e.encode
  writes layout value h := decide_eq_true (Nat.le_trans h (by decide))
  room := by decide

end Machine

namespace Expr

theorem decodeAt_encode {machine : Machine} {e : Expr} (h : e.Portable)
    (hdecodes : machine.decodes e.encode = true) (path : DataPath) :
    decodeAt machine path e.encode = .ok e.canonical := by
  rw [decodeAt_of_decodes hdecodes]
  rcases settles_decodeWithin (defaultMaxDepth + 1) path e with ⟨_, hok⟩ | ⟨hfits, _⟩
  · exact hok
  · exact absurd (portable_iff_fitsWithin.mp h) hfits

/-- Where it is decoded, the written form of an expression gives it back exactly if it is
portable. -/
theorem portable_of_decode_encode {machine : Machine} {e read : Expr}
    (h : decode machine e.encode = .ok read) : e.Portable ∧ read = e.canonical := by
  have hread := (decodeAt_eq_ok_iff.mp h).2
  rcases settles_decodeWithin (defaultMaxDepth + 1) [] e with ⟨hfits, hok⟩ | ⟨_, _, herror⟩
  · exact ⟨portable_iff_fitsWithin.mpr hfits, Except.ok.inj (hread.symm.trans hok)⟩
  · cases hread.symm.trans herror

theorem ofJson_of_parse {machine : Machine} {text : String} {value : Data}
    (h : parseDocument machine.jsonRoom text = .ok value) :
    ofJson machine text = (decode machine value).mapError .decode := by
  rw [ofJson, h]
  rfl

/-- On an ample machine the text of a portable expression is read. -/
theorem ofJson_text_of_ample {machine : Machine} (hample : machine.Ample) (layout : Json.Layout)
    {e : Expr} (h : e.Portable) :
    ofJson machine (Json.text layout e.encode) = .ok e.canonical := by
  have hdepth : e.encode.depth ≤ machine.jsonRoom :=
    Nat.le_trans (depth_le_of_portable h) (Nat.le_trans (Nat.le_add_right _ 2) hample.room)
  rcases parseDocument_text machine.jsonRoom layout (readable_encode e) with
    ⟨_, hparse⟩ | ⟨hdeep, _⟩
  · rw [ofJson_of_parse hparse, decode, decodeAt_encode h (hample.decodes e h)]
    rfl
  · exact absurd hdepth (Nat.not_le.mpr hdeep)

/-- The text of an expression is read as the portable expression that it is, or refused. -/
theorem ofJson_text (machine : Machine) (layout : Json.Layout) (e : Expr) :
    (e.Portable ∧ ofJson machine (Json.text layout e.encode) = .ok e.canonical) ∨
      ∃ error, ofJson machine (Json.text layout e.encode) = .error (.decode error) := by
  rcases parseDocument_text machine.jsonRoom layout (readable_encode e) with
    ⟨_, hparse⟩ | ⟨_, hparse⟩
  · rw [ofJson_of_parse hparse]
    cases hread : decode machine e.encode with
    | ok read =>
        obtain ⟨hportable, rfl⟩ := portable_of_decode_encode hread
        exact .inl ⟨hportable, rfl⟩
    | error error => exact .inr ⟨error, rfl⟩
  · exact .inr ⟨_, by rw [ofJson, hparse]; rfl⟩

end Expr

/-! ### Scopes -/

namespace Scope

/-- A scope with the expressions that stand for those of its calculations. -/
def canonical (scope : Scope) : Scope where
  inputs := scope.inputs
  calculations := scope.calculations.map fun (name, e) => (name, e.canonical)
  outputs := scope.outputs
  nodup_inputs := scope.nodup_inputs
  nodup_calculations := by
    rw [Members.names_map]
    exact scope.nodup_calculations
  pairwise_outputs := scope.pairwise_outputs

theorem same_canonical {scope : Scope}
    (h : ∀ calculation ∈ scope.calculations, calculation.2.Portable) :
    scope.same scope.canonical = true := by
  have hcalculations : ∀ {calculations : List (String × Expr)},
      (∀ calculation ∈ calculations, calculation.2.Portable) →
      sameCalculations calculations
        (calculations.map fun (name, e) => (name, e.canonical)) = true := by
    intro calculations h
    induction calculations with
    | nil => rfl
    | cons calculation rest ih =>
        obtain ⟨hfirst, hrest⟩ := List.forall_mem_cons.mp h
        simp [sameCalculations, Expr.same_canonical_of_portable hfirst, ih hrest]
  simp [same, canonical, hcalculations h]

/-- Members are read under the names that they were written under. -/
theorem readMembers_map {α β : Type} (read : String → Data → Except DecodeError α)
    (encode : β → Data) (result : β → α) {members : List (String × β)}
    (h : ∀ member ∈ members, read member.1 (encode member.2) = .ok (result member.2)) :
    ∃ hnames, readMembers read (members.map fun member => (member.1, encode member.2)) =
      .ok ⟨members.map fun member => (member.1, result member.2), hnames⟩ := by
  induction members with
  | nil => exact ⟨rfl, rfl⟩
  | cons member rest ih =>
      obtain ⟨name, value⟩ := member
      obtain ⟨hfirst, hrest⟩ := List.forall_mem_cons.mp h
      obtain ⟨hnames, hread⟩ := ih hrest
      refine ⟨congrArg (name :: ·) hnames, ?_⟩
      change readMembers read ((name, encode value) :: rest.map _) = _
      rw [readMembers, hfirst, hread]
      rfl

theorem readKind_word (name : String) (kind : Kind) :
    readKind name (.string kind.word) = .ok kind := by
  cases kind <;> rfl

theorem uniqueField_of_nodup {members fields : List (String × Data)} {name : String}
    (hget : Members.get? members name = some (.object fields)) (h : (Members.names fields).Nodup) :
    uniqueField members name = .ok ⟨fields, h⟩ := by
  have hfields : Members.ofList fields = fields := Members.putAll_of_nodup h
  simp only [uniqueField, requiredField, hget]
  exact congrArg Except.ok (Subtype.ext hfields)

theorem readMembers_encodeInputs (inputs : List (String × Kind)) :
    ∃ hnames, readMembers readKind (encodeInputs inputs) = .ok ⟨inputs, hnames⟩ := by
  have hread := readMembers_map readKind (Data.string ∘ Kind.word) id
    fun (member : String × Kind) (_ : member ∈ inputs) => readKind_word member.1 member.2
  have hinputs : inputs.map (fun input => (input.1, id input.2)) = inputs := List.map_id inputs
  rw [hinputs] at hread
  exact hread

theorem readItems_outputs (path : DataPath) (outputs : List String) :
    Expr.readItems readOutput path 0 (outputs.map .string) = .ok outputs := by
  have hread : ∀ path (output : String),
      Settles (readOutput path (.string output)) True (id output) := by
    intro path output
    exact settles_ok output
  rcases settles_readItems hread path 0 outputs with ⟨_, hok⟩ | ⟨hnot, _⟩
  · rwa [List.map_id] at hok
  · exact absurd (fun _ _ => trivial) hnot

theorem nodup_encode (scope : Scope) : (Members.names (encodeInputs scope.inputs)).Nodup ∧
    (Members.names (encodeCalculations scope.calculations)).Nodup :=
  ⟨(Members.names_map (Data.string ∘ Kind.word) scope.inputs).symm ▸ scope.nodup_inputs,
    (Members.names_map Expr.encode scope.calculations).symm ▸ scope.nodup_calculations⟩

/-- The layout of the document form of a scope. -/
theorem read_encode (scope : Scope) :
    ∃ hcalculations, Layout.read scope.encode =
      .ok ⟨scope.inputs, encodeCalculations scope.calculations, scope.outputs, scope.nodup_inputs,
        hcalculations⟩ := by
  obtain ⟨hinputs, hcalculations⟩ := nodup_encode scope
  obtain ⟨hnames, hkinds⟩ := readMembers_encodeInputs scope.inputs
  refine ⟨hcalculations, ?_⟩
  generalize hmembers : [("inputs", Data.object (encodeInputs scope.inputs)),
      ("calculations", .object (encodeCalculations scope.calculations)),
      ("outputs", .array (scope.outputs.map .string))] = members
  have hgetInputs : Members.get? members "inputs" = some (.object (encodeInputs scope.inputs)) := by
    rw [← hmembers]
    rfl
  have hgetCalculations : Members.get? members "calculations" =
      some (.object (encodeCalculations scope.calculations)) := by
    rw [← hmembers]
    rfl
  have hlist : listField members "outputs" = .ok (scope.outputs.map .string) := by
    rw [← hmembers]
    rfl
  have hencode : scope.encode = .object members := congrArg Data.object hmembers
  rw [hencode, Layout.read, uniqueField_of_nodup hgetInputs hinputs,
    uniqueField_of_nodup hgetCalculations hcalculations, hlist]
  change (readMembers readKind (encodeInputs scope.inputs) >>= _) = _
  rw [hkinds]
  change (Expr.readItems readOutput _ 0 (scope.outputs.map .string) >>= _) = _
  rw [readItems_outputs]
  rfl

theorem decode_encode {machine : Machine} {scope : Scope}
    (h : ∀ calculation ∈ scope.calculations, calculation.2.Portable ∧
      machine.decodes calculation.2.encode = true) :
    decode machine scope.encode = .ok scope.canonical := by
  obtain ⟨hcalculations, hlayout⟩ := read_encode scope
  obtain ⟨hnames, hread⟩ := readMembers_map (readCalculation machine) Expr.encode Expr.canonical
    fun calculation mem => Expr.decodeAt_encode (h calculation mem).1 (h calculation mem).2 _
  have hread : readMembers (readCalculation machine) (encodeCalculations scope.calculations) = _ :=
    hread
  rw [decode, hlayout]
  change (readMembers (readCalculation machine) (encodeCalculations scope.calculations) >>= _) = _
  rw [hread]
  refine congrArg Except.ok ?_
  simp only [canonical, sortedNames_of_pairwise scope.pairwise_outputs]

/-! ### Sizes -/

theorem membersReadable_of_forall {members : List (String × Data)}
    (h : ∀ member ∈ members, member.2.Readable) : Data.MembersReadable members := by
  induction members with
  | nil => trivial
  | cons member rest ih =>
      obtain ⟨hfirst, hrest⟩ := List.forall_mem_cons.mp h
      exact ⟨hfirst, ih hrest⟩

theorem itemsReadable_of_forall {items : List Data} (h : ∀ item ∈ items, item.Readable) :
    Data.ItemsReadable items := by
  induction items with
  | nil => trivial
  | cons item rest ih =>
      obtain ⟨hfirst, hrest⟩ := List.forall_mem_cons.mp h
      exact ⟨hfirst, ih hrest⟩

/-- The document form of a scope is found again in its text. -/
theorem readable_encode (scope : Scope) : scope.encode.Readable := by
  obtain ⟨hinputs, hcalculations⟩ := nodup_encode scope
  refine ⟨by simp, ⟨hinputs, membersReadable_of_forall ?_⟩,
    ⟨hcalculations, membersReadable_of_forall ?_⟩, itemsReadable_of_forall ?_, trivial⟩
  · intro member mem
    obtain ⟨input, _, rfl⟩ := List.mem_map.mp mem
    trivial
  · intro member mem
    obtain ⟨calculation, _, rfl⟩ := List.mem_map.mp mem
    exact Expr.readable_encode calculation.2
  · intro item mem
    obtain ⟨output, _, rfl⟩ := List.mem_map.mp mem
    trivial

theorem membersDepth_le {members : List (String × Data)} {bound : Nat}
    (h : ∀ member ∈ members, member.2.depth ≤ bound) : Data.membersDepth members ≤ bound := by
  induction members with
  | nil => exact Nat.zero_le _
  | cons member rest ih =>
      obtain ⟨hfirst, hrest⟩ := List.forall_mem_cons.mp h
      exact Nat.max_le.mpr ⟨hfirst, ih hrest⟩

theorem itemsDepth_le {items : List Data} {bound : Nat} (h : ∀ item ∈ items, item.depth ≤ bound) :
    Data.itemsDepth items ≤ bound := by
  induction items with
  | nil => exact Nat.zero_le _
  | cons item rest ih =>
      obtain ⟨hfirst, hrest⟩ := List.forall_mem_cons.mp h
      exact Nat.max_le.mpr ⟨hfirst, ih hrest⟩

/-- A scope takes two containers more than its calculations. -/
theorem depth_encode_le {scope : Scope} {bound : Nat}
    (h : ∀ calculation ∈ scope.calculations, calculation.2.encode.depth ≤ bound) :
    scope.encode.depth ≤ bound + 2 := by
  have hinputs : Data.membersDepth (encodeInputs scope.inputs) ≤ 0 := by
    apply membersDepth_le
    intro member mem
    obtain ⟨input, _, rfl⟩ := List.mem_map.mp mem
    exact Nat.le_refl 0
  have hcalculations : Data.membersDepth (encodeCalculations scope.calculations) ≤ bound := by
    apply membersDepth_le
    intro member mem
    obtain ⟨calculation, hmem, rfl⟩ := List.mem_map.mp mem
    exact h calculation hmem
  have houtputs : Data.itemsDepth (scope.outputs.map .string) ≤ 0 := by
    apply itemsDepth_le
    intro item mem
    obtain ⟨output, _, rfl⟩ := List.mem_map.mp mem
    exact Nat.le_refl 0
  simp only [encode, Data.depth, Data.membersDepth]
  omega

theorem depth_le_of_portable {scope : Scope}
    (h : ∀ calculation ∈ scope.calculations, calculation.2.Portable) :
    scope.encode.depth ≤ Machine.documentDepth :=
  depth_encode_le fun calculation mem => Expr.depth_le_of_portable (h calculation mem)

/-- A scope of portable calculations is read from its text. -/
theorem ofJson_text {machine : Machine} (hample : machine.Ample) (layout : Json.Layout)
    {scope : Scope} (h : ∀ calculation ∈ scope.calculations, calculation.2.Portable) :
    ofJson machine (Json.text layout scope.encode) = .ok scope.canonical := by
  have hdepth : scope.encode.depth ≤ machine.jsonRoom :=
    Nat.le_trans (depth_le_of_portable h) hample.room
  rcases parseDocument_text machine.jsonRoom layout scope.readable_encode with
    ⟨_, hparse⟩ | ⟨hdeep, _⟩
  · have hdecode : decode machine scope.encode = .ok scope.canonical :=
      decode_encode fun calculation mem =>
        ⟨h calculation mem, hample.decodes _ (h calculation mem)⟩
    rw [ofJson, hparse]
    change (decode machine scope.encode).mapError _ = _
    rw [hdecode]
    rfl
  · exact absurd hdepth (Nat.not_le.mpr hdeep)

theorem encode?_of_ample {machine : Machine} (hample : machine.Ample) {scope : Scope}
    (h : ∀ calculation ∈ scope.calculations, calculation.2.Portable) :
    scope.encode? machine = some scope.encode :=
  if_pos (List.all_eq_true.mpr fun calculation mem => hample.encodes _ (h calculation mem))

end Scope

/-! ### Round trips -/

namespace Expr

variable {machine : Machine} {indent : Option Int} {e : Expr}

theorem toJson_of_encodes (h : machine.encodes e.encode = true) :
    e.toJson machine indent = machine.writeJson indent e.encode :=
  congrArg (machine.writeDocument indent) (if_pos h)

theorem toJson_of_not_encodes (h : machine.encodes e.encode = false) :
    e.toJson machine indent = .error .tooHigh :=
  congrArg (machine.writeDocument indent) (if_neg (ne_true_of_eq_false h))

theorem eq_string_of_encode_eq {s : String} (h : e.encode = .string s) :
    e = .literal (.string s) := by
  cases e with
  | literal v =>
      cases v with
      | string t => exact congrArg (literal ∘ Literal.string) (Data.string.inj h)
      | bool b => cases h
      | number x =>
          rw [encode] at h
          rcases Literal.encode_number x with ⟨n, _, _, hencode⟩ | ⟨_, hencode⟩
          · rw [hencode] at h
            cases h
          · rw [hencode] at h
            cases h
  | reference name => cases h
  | ifThenElse condition thenArm elseArm => cases h
  | ruleChain rules otherwise => cases h
  | finiteBranch subject cases otherwise => cases h

theorem encode_ne_string (h : ∀ s, e ≠ .literal (.string s)) (s : String) :
    e.encode ≠ .string s :=
  fun hs => h s (eq_string_of_encode_eq hs)

/-- On an ample machine a portable expression is read back from what is written for it. -/
theorem Portable.toJson_ok (hample : machine.Ample) (h : e.Portable) {layout : Json.Layout}
    (hlayout : machine.layoutFor indent e.encode = .ok layout) :
    ∃ text read, e.toJson machine indent = .ok text ∧ ofJson machine text = .ok read ∧
      e.same read = true := by
  have hdepth : e.encode.depth ≤ Machine.documentDepth :=
    Nat.le_trans (depth_le_of_portable h) (Nat.le_add_right _ 2)
  obtain ⟨layout, hwritten⟩ := Machine.writeJson_of_layout (readable_encode e) hlayout
    (hample.writes layout _ hdepth)
  exact ⟨_, e.canonical, (toJson_of_encodes (hample.encodes e h)).trans hwritten,
    ofJson_text_of_ample hample layout h, same_canonical_of_portable h⟩

/-- A text that is written is read back equal, and then the expression is portable, or it
is refused. -/
theorem ofJson_of_toJson {text : String} (h : e.toJson machine indent = .ok text) :
    (e.Portable ∧ ∃ read, ofJson machine text = .ok read ∧ e.same read = true) ∨
      ∃ error, ofJson machine text = .error (.decode error) := by
  obtain ⟨_, layout, rfl⟩ := Machine.eq_text_of_writeDocument (readable_encode e) h
  rcases ofJson_text machine layout e with ⟨hportable, hread⟩ | hrefused
  · exact .inl ⟨hportable, e.canonical, hread, same_canonical_of_portable hportable⟩
  · exact .inr hrefused

/-- Nothing is written only for a tree that is too high to be encoded, or where something
hinders its document form. -/
theorem toJson_eq_error_iff {fault : WriteFault} :
    e.toJson machine indent = .error fault ↔
      (fault = .tooHigh ∧ machine.encodes e.encode = false) ∨
        (machine.encodes e.encode = true ∧ (∀ s, e ≠ .literal (.string s)) ∧
          machine.Hinders indent e.encode fault) := by
  cases hencodes : machine.encodes e.encode with
  | false =>
      rw [toJson_of_not_encodes hencodes]
      constructor
      · rintro ⟨⟩
        exact .inl ⟨rfl, rfl⟩
      · rintro (⟨rfl, _⟩ | ⟨⟨⟩, _⟩)
        rfl
  | true =>
      rw [toJson_of_encodes hencodes]
      constructor
      · intro h
        rcases machine.writeJson_cases indent (readable_encode e) with
          ⟨layout, hwritten, _⟩ | ⟨other, hwritten, hstring, hhinders⟩
        · cases h.symm.trans hwritten
        · cases h.symm.trans hwritten
          refine .inr ⟨rfl, ?_, hhinders⟩
          rintro s rfl
          exact hstring s rfl
      · rintro (⟨_, ⟨⟩⟩ | ⟨_, hstring, hhinders⟩)
        exact hhinders.writeJson_eq (encode_ne_string hstring)

end Expr

namespace Scope

variable {machine : Machine} {indent : Option Int} {scope : Scope}

theorem toJson_of_ample (hample : machine.Ample)
    (h : ∀ calculation ∈ scope.calculations, calculation.2.Portable) :
    scope.toJson machine indent = machine.writeJson indent scope.encode :=
  congrArg (machine.writeDocument indent) (encode?_of_ample hample h)

/-- A scope of portable calculations is read back from whatever is written for it. -/
theorem toJson_ok (hample : machine.Ample)
    (h : ∀ calculation ∈ scope.calculations, calculation.2.Portable) {layout : Json.Layout}
    (hlayout : machine.layoutFor indent scope.encode = .ok layout) :
    ∃ text read, scope.toJson machine indent = .ok text ∧ ofJson machine text = .ok read ∧
      scope.same read = true := by
  obtain ⟨layout, hwritten⟩ := Machine.writeJson_of_layout scope.readable_encode hlayout
    (hample.writes layout _ (depth_le_of_portable h))
  exact ⟨_, scope.canonical, (toJson_of_ample hample h).trans hwritten,
    ofJson_text hample layout h, same_canonical h⟩

theorem toJson_error (hample : machine.Ample)
    (h : ∀ calculation ∈ scope.calculations, calculation.2.Portable) {cause : Json.IndentFault}
    (hcause : machine.layoutFor indent scope.encode = .error cause) :
    scope.toJson machine indent = .error (.indent cause) :=
  (toJson_of_ample hample h).trans ((Machine.Hinders.layout hcause).writeJson_eq nofun)

end Scope

/-- **What is written as JSON text is read back equal, or refused.** On a machine that is
ample for portable expressions, each of them is written under every indentation that lines
can be laid out with, and read back equal. On any machine every text that is written is read
back equal, and then the expression is portable, or it is refused when it is read; and
nothing is written only for a tree that is too high to be encoded or, unless it is a bare
string, for an indentation that lines cannot be laid out with or on a stack that gives out.
On an ample machine a scope of portable calculations is written and read back equal, in its
order, under every indentation that lines can be laid out with, and under no other. -/
theorem json_round_trip (machine : Machine) (indent : Option Int) :
    (∀ e : Expr,
      (machine.Ample → e.Portable → ∀ layout, machine.layoutFor indent e.encode = .ok layout →
        ∃ text read, e.toJson machine indent = .ok text ∧ Expr.ofJson machine text = .ok read ∧
          e.same read = true) ∧
      (∀ text, e.toJson machine indent = .ok text →
        (e.Portable ∧ ∃ read, Expr.ofJson machine text = .ok read ∧ e.same read = true) ∨
          ∃ error, Expr.ofJson machine text = .error (.decode error)) ∧
      (∀ fault, e.toJson machine indent = .error fault ↔
        (fault = .tooHigh ∧ machine.encodes e.encode = false) ∨
          (machine.encodes e.encode = true ∧ (∀ s, e ≠ .literal (.string s)) ∧
            machine.Hinders indent e.encode fault))) ∧
    (machine.Ample →
      ∀ scope : Scope, (∀ calculation ∈ scope.calculations, calculation.2.Portable) →
        (∀ layout, machine.layoutFor indent scope.encode = .ok layout →
          ∃ text read, scope.toJson machine indent = .ok text ∧
            Scope.ofJson machine text = .ok read ∧ scope.same read = true) ∧
        (∀ cause, machine.layoutFor indent scope.encode = .error cause →
          scope.toJson machine indent = .error (.indent cause))) := by
  refine ⟨fun e => ⟨?_, ?_, ?_⟩, fun hample scope hportable => ⟨?_, ?_⟩⟩
  · intro hample hportable layout hlayout
    exact hportable.toJson_ok hample hlayout
  · intro text htext
    exact Expr.ofJson_of_toJson htext
  · intro fault
    exact Expr.toJson_eq_error_iff
  · intro layout hlayout
    exact Scope.toJson_ok hample hportable hlayout
  · intro cause hcause
    exact Scope.toJson_error hample hportable hcause

/-- A truth value is written on one line and read back equal. -/
theorem truth_value_round_trip :
    ∃ text read, (Expr.literal (.bool true)).toJson .standard none = .ok text ∧
      Expr.ofJson .standard text = .ok read ∧ (Expr.literal (.bool true)).same read = true :=
  ((json_round_trip .standard none).1 _).1 Machine.ample_standard Expr.portable_truth .line rfl

/-- An indentation beyond the words of the machine is refused even for a single truth
value. -/
theorem indentation_beyond_word_refused :
    (Expr.literal (.bool true)).Portable ∧
      (Expr.literal (.bool true)).toJson .standard (some (Nat.pow 2 70)) =
        .error (.indent .notAWord) := by
  have hlayout : Machine.standard.layoutFor (some (Nat.pow 2 70)) (.bool true) =
      .error .notAWord := by
    rw [Machine.layoutFor, Json.Layout.ofIndent, if_pos (by decide)]
  exact ⟨Expr.portable_truth, Expr.toJson_eq_error_iff.mpr
    (.inr ⟨Machine.standard.encodes_leaf _ rfl, nofun, .layout hlayout⟩)⟩

end Rulebook
