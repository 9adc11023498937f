import Mathlib.Data.List.Nodup
import Rulebook.Input
import Rulebook.Input.File
import Rulebook.Proofs.Provenance
import Rulebook.Proofs.RawInputs
import Rulebook.Proofs.Respelling
import Rulebook.Proofs.RoundTrip
import Rulebook.Proofs.ScopeDocument
import Rulebook.Proofs.TomlDocument
import Rulebook.Results

/-!
Results that are written to a file can be given as values again.

What a scope publishes is bound by its caller or is a literal of the scope or of its
caller's context: it is given by a document, or a literal (`Scope.given_of_evaluate`), and
so it is portable. Results that were given are written, and what is read from their document
form, in whatever order it lists its members, is equal to them (`ofValues_of_sameMap`). A
file of JSON keeps that order (`readValues_json`), one of TOML brings the plain members of
every table to its front (`readValues_toml`).
-/

namespace Rulebook

/-! ### What is given -/

namespace Expr

variable {machine : Machine}

theorem Portable.forLiterals {e : Expr} (h : e.Portable) : e.ForLiterals Literal.IsFinite := by
  rintro path v hv x rfl
  exact h.finite path x hv

theorem portable_literal {v : Literal} (h : v.IsFinite) : (literal v).Portable :=
  portable_iff_fitsWithin.mpr (fitsWithin_literal h)

/-- What is read from a document is portable. -/
theorem portable_of_decodeAt {path : DataPath} {value : Data} {e : Expr}
    (h : decodeAt machine path value = .ok e) : e.Portable := by
  have hread := (decodeAt_eq_ok_iff.mp h).2
  exact portable_iff_fitsWithin.mpr
    ((accepts_decodeWithin (Nat.zero_add (defaultMaxDepth + 1)) path value).only e hread).2

/-- An expression as callers give it: read from a document, or a literal. -/
inductive Given (machine : Machine) : Expr → Prop where
  | document {path : DataPath} {value : Data} {e : Expr} :
      decodeAt machine path value = .ok e → Given machine e
  | literal {v : Literal} : v.IsFinite → Given machine (.literal v)

theorem Given.portable {e : Expr} (h : e.Given machine) : e.Portable := by
  cases h with
  | document h => exact portable_of_decodeAt h
  | literal h => exact portable_literal h

end Expr

namespace Context

variable {machine : Machine}

/-- Everything that is bound was given. -/
def Given (machine : Machine) (context : Context) : Prop :=
  ∀ name bound, Members.get? context name = some bound → bound.Given machine

theorem given_of_mem {context : Context} (h : ∀ entry ∈ context, entry.2.Given machine) :
    Given machine context :=
  fun _ _ hbound => h _ (Members.mem_of_get? hbound)

/-- A value is bound to what is read from it. -/
theorem mem_of_ofValues {values : List (String × Data)} {context : Context}
    (h : ofValues machine values = .ok context) {name : String} {bound : Expr}
    (mem : (name, bound) ∈ context) :
    ∃ value, (name, value) ∈ values ∧ Expr.decodeAt machine [.key name] value = .ok bound := by
  induction values generalizing context with
  | nil =>
      cases h
      cases mem
  | cons entry rest ih =>
      obtain ⟨other, value⟩ := entry
      obtain ⟨first, hfirst, h⟩ := bind_eq_ok_iff.mp h
      obtain ⟨others, hothers, h⟩ := bind_eq_ok_iff.mp h
      cases h
      rcases List.mem_cons.mp mem with heq | mem
      · cases heq
        exact ⟨value, List.mem_cons_self, hfirst⟩
      · obtain ⟨value', mem', hread⟩ := ih hothers mem
        exact ⟨value', List.mem_cons_of_mem _ mem', hread⟩

/-- A context as it is supplied for a scope: from texts, from values, or from values and
texts that go before them. -/
inductive Supplied (machine : Machine) (scope : Scope) : Context → Prop where
  | raw {named : List (String × String)} {context : Context} :
      ofRaw scope named = .ok context → Supplied machine scope context
  | values {values : List (String × Data)} {context : Context} :
      ofValues machine values = .ok context → Supplied machine scope context
  | both {values : List (String × Data)} {named : List (String × String)}
      {context given : Context} :
      ofValues machine values = .ok context → ofRaw scope named = .ok given →
      Supplied machine scope (Members.putAll context given)

/-- What is supplied was given. -/
theorem Supplied.given {scope : Scope} {context : Context} (h : Supplied machine scope context) :
    Given machine context := by
  have hvalues : ∀ {values : List (String × Data)} {context : Context},
      ofValues machine values = .ok context → ∀ entry ∈ context, entry.2.Given machine := by
    intro values context h entry mem
    obtain ⟨value, _, hread⟩ := mem_of_ofValues h mem
    exact .document hread
  have hraw : ∀ {named : List (String × String)} {context : Context},
      ofRaw scope named = .ok context → ∀ entry ∈ context, entry.2.Given machine := by
    intro named context h entry mem
    obtain ⟨v, hv, hfinite, _⟩ := mem_of_ofRaw h mem
    rw [hv]
    exact .literal hfinite
  cases h with
  | raw h => exact given_of_mem (hraw h)
  | values h => exact given_of_mem (hvalues h)
  | both h h' =>
      refine given_of_mem fun entry mem => ?_
      rcases Members.mem_putAll mem with mem | mem
      · exact hraw h' entry mem
      · exact hvalues h entry mem

/-- Where every value is read, the context binds each name to what is read from the value
of the name. -/
theorem ofValues_ok {values : List (String × Data)}
    (h : ∀ entry ∈ values, ∃ e, Expr.decodeAt machine [.key entry.1] entry.2 = .ok e) :
    ∃ context, ofValues machine values = .ok context ∧ ∀ name,
      Members.get? context name = (Members.get? values name).bind fun value =>
        (Expr.decodeAt machine [.key name] value).toOption := by
  induction values with
  | nil => exact ⟨[], rfl, fun _ => rfl⟩
  | cons entry rest ih =>
      obtain ⟨name, value⟩ := entry
      obtain ⟨⟨e, he⟩, hrest⟩ := List.forall_mem_cons.mp h
      obtain ⟨others, hothers, hget⟩ := ih hrest
      refine ⟨(name, e) :: others, ?_, fun other => ?_⟩
      · simp only at he
        rw [ofValues, he, hothers]
        rfl
      · simp only [Members.get?]
        split
        · next hname =>
            subst hname
            simp only at he
            rw [Option.bind_some, he]
            rfl
        · exact hget other

end Context

/-! ### Results -/

namespace Machine

/-- The stack is large enough for files of results. What it was large enough to decode once
can be encoded, and decoded again with its members in whatever order; and documents as deep
as those of portable expressions are written and read whole, as JSON and as TOML. -/
structure AmpleForResults (machine : Machine) : Prop where
  encodes : ∀ (path : DataPath) (value : Data) (e : Expr),
    Expr.decodeAt machine path value = .ok e → machine.encodes e.encode = true
  decodes : ∀ (path : DataPath) (value back : Data) (e : Expr),
    Expr.decodeAt machine path value = .ok e → Data.SameMap e.encode back →
      machine.decodes back = true
  writes : ∀ layout value, value.depth ≤ documentDepth → machine.writes layout value = true
  room : documentDepth ≤ machine.jsonRoom
  tables : machine.tomlStack.most * documentDepth ≤ machine.tomlStack.size
  uncut : ∀ members, Data.membersDepth members ≤ documentDepth → machine.tomlCut? members = none

theorem ampleForResults_standard : standard.AmpleForResults where
  encodes _ _ e h := ample_standard.encodes e (Expr.portable_of_decodeAt h)
  decodes _ _ back _ _ _ := decodes_standard back
  writes := ample_standard.writes
  room := ample_standard.room
  tables := by decide
  uncut _ h := if_pos (Nat.le_trans (Nat.mul_le_mul_left 3 h) (by decide))

variable {machine : Machine} {e : Expr}

theorem AmpleForResults.encodes_of_given (hample : machine.AmpleForResults)
    (h : e.Given machine) : machine.encodes e.encode = true := by
  cases h with
  | document h => exact hample.encodes _ _ e h
  | @literal v _ => exact machine.encodes_leaf _ v.isContainer_encode

theorem AmpleForResults.decodes_of_given (hample : machine.AmpleForResults)
    (h : e.Given machine) {back : Data} (hsame : Data.SameMap e.encode back) :
    machine.decodes back = true := by
  cases h with
  | document h => exact hample.decodes _ _ back e h hsame
  | @literal v _ =>
      have hleaf := v.isContainer_encode
      exact machine.decodes_leaf back (hsame.eq_of_leaf hleaf ▸ hleaf)

end Machine

namespace Scope

/-- What a scope publishes, read from a text and supplied with a context, was given. -/
theorem given_of_evaluate {machine : Machine} {text : String} {scope : Scope}
    (hscope : ofJson machine text = .ok scope)
    {context : Context} (hcontext : Context.Supplied machine scope context) {maxDepth : Int}
    {results : List (String × Expr)}
    (h : (scope.evaluate context maxDepth).outcome = .ok results) :
    ∀ result ∈ results, result.2.Given machine := by
  have hgiven := hcontext.given
  have hcalculations : ∀ calculation ∈ scope.calculations, calculation.2.Portable := by
    intro calculation mem
    obtain ⟨value, _, hdecode⟩ := bind_eq_ok_iff.mp hscope
    obtain ⟨_, hread⟩ := readCalculation_of_decode (mapError_eq_ok_iff.mp hdecode) mem
    exact Expr.portable_of_decodeAt hread
  intro result mem
  rcases evaluate_ok_of_literals (fun name bound hbound =>
    (hgiven name bound hbound).portable.forLiterals)
    (fun calculation mem => (hcalculations calculation mem).forLiterals) h mem with
    hbound | ⟨v, hv, hfinite⟩
  · exact hgiven _ _ hbound
  · rw [hv]
    exact .literal hfinite

/-- Each output is published once. -/
theorem nodup_of_evaluate {scope : Scope} {context : Context} {maxDepth : Int}
    {results : List (String × Expr)}
    (h : (scope.evaluate context maxDepth).outcome = .ok results) :
    (Members.names results).Nodup := by
  obtain ⟨_, final, _, rfl⟩ := evaluate_ok h
  have hnames : ∀ outputs, (Members.names (publish outputs final)).Sublist outputs := by
    intro outputs
    induction outputs with
    | nil => exact .slnil
    | cons name outputs ih =>
        unfold publish Members.names at ih ⊢
        cases hbound : Members.get? final name with
        | none => simpa [hbound] using ih.cons name
        | some bound => simpa [hbound] using ih
  have hdistinct : scope.outputs.Nodup := by
    refine scope.pairwise_outputs.imp ?_
    rintro name _ hlt rfl
    exact String.lt_irrefl name hlt
  exact hdistinct.sublist (hnames scope.outputs)

end Scope

namespace Results

variable {machine : Machine} {results : List (String × Expr)}

theorem get?_encode (results : List (String × Expr)) (name : String) :
    Members.get? (encode results) name = (Members.get? results name).map Expr.encode := by
  induction results with
  | nil => rfl
  | cons result rest ih =>
      obtain ⟨key, e⟩ := result
      simp only [encode, List.map_cons, Members.get?]
      split
      · rfl
      · exact ih

/-- What says the same as an expression that was given is read as the expression. -/
theorem decodeAt_of_sameMap (hample : machine.AmpleForResults) {e : Expr} (h : e.Given machine)
    {value : Data} (hsame : Data.SameMap e.encode value) (path : DataPath) :
    Expr.decodeAt machine path value = .ok e.canonical := by
  have hencoded := Expr.decodeAt_encode h.portable (hample.decodes_of_given h (.refl _)) path
  have hread := Expr.sameResult_decodeWithin (defaultMaxDepth + 1) path hsame
  rw [(Expr.decodeAt_eq_ok_iff.mp hencoded).2] at hread
  rw [Expr.decodeAt_of_decodes (hample.decodes_of_given h hsame)]
  exact hread.eq_ok

/-- What says the same as results that were given is read as a context that binds their
names to equal expressions. -/
theorem ofValues_of_sameMap (hample : machine.AmpleForResults)
    (hgiven : ∀ result ∈ results, result.2.Given machine)
    {back : List (String × Data)} (hnodup : (Members.names back).Nodup)
    (h : ∀ name, Option.Rel Data.SameMap (Members.get? (encode results) name)
      (Members.get? back name)) :
    ∃ context, Context.ofValues machine back = .ok context ∧
      ∀ name, Option.Rel (fun e e' => e.same e' = true) (Members.get? results name)
        (Members.get? context name) := by
  have hread : ∀ name e value, Members.get? results name = some e →
      Members.get? back name = some value →
      Expr.decodeAt machine [.key name] value = .ok e.canonical := by
    intro name e value hresult hvalue
    have hsame := h name
    rw [get?_encode, hresult, hvalue] at hsame
    cases hsame with
    | some hsame =>
        exact decodeAt_of_sameMap hample (hgiven _ (Members.mem_of_get? hresult)) hsame _
  have hall : ∀ entry ∈ back, ∃ e, Expr.decodeAt machine [.key entry.1] entry.2 = .ok e := by
    rintro ⟨name, value⟩ mem
    have hvalue := (Members.get?_eq_some_iff hnodup).mpr mem
    rcases Members.rel_cases (h name) with ⟨_, hnone⟩ | ⟨_, _, hleft, _, _⟩
    · cases hnone.symm.trans hvalue
    · rw [get?_encode] at hleft
      obtain ⟨e, he, _⟩ := Option.map_eq_some_iff.mp hleft
      exact ⟨_, hread name e value he hvalue⟩
  obtain ⟨context, hcontext, hget⟩ := Context.ofValues_ok hall
  refine ⟨context, hcontext, fun name => ?_⟩
  rw [hget name]
  rcases Members.rel_cases (h name) with ⟨hleft, hright⟩ | ⟨_, value, hleft, hright, _⟩
  · rw [get?_encode, Option.map_eq_none_iff] at hleft
    rw [hleft, hright]
    exact .none
  · rw [get?_encode] at hleft
    obtain ⟨e, he, _⟩ := Option.map_eq_some_iff.mp hleft
    rw [he, hright, Option.bind_some, hread name e value he hright]
    exact .some (Expr.same_canonical_of_portable (hgiven _ (Members.mem_of_get? he)).portable)

/-! ### Files -/

theorem encode?_of_given (hample : machine.AmpleForResults)
    (h : ∀ result ∈ results, result.2.Given machine) :
    encode? machine results = some (encode results) := by
  refine if_pos (List.all_eq_true.mpr fun member mem => ?_)
  obtain ⟨result, hresult, rfl⟩ := List.mem_map.mp mem
  exact hample.encodes_of_given (h result hresult)

theorem names_encode (results : List (String × Expr)) :
    Members.names (encode results) = Members.names results :=
  Members.names_map Expr.encode results

theorem tabular_encode (hnames : (Members.names results).Nodup) :
    (Data.object (encode results)).Tabular := by
  refine ⟨(names_encode results).symm ▸ hnames, ?_⟩
  have hmembers : ∀ results : List (String × Expr), Data.MembersTabular (encode results) := by
    intro results
    induction results with
    | nil => trivial
    | cons result rest ih => exact ⟨Expr.tabular_encode result.2, ih⟩
  exact hmembers results

theorem depth_encode_le (h : ∀ result ∈ results, result.2.Portable) :
    (Data.object (encode results)).depth ≤ Machine.documentDepth := by
  have hmembers : Data.membersDepth (encode results) ≤ 4 * (defaultMaxDepth + 1) + 1 := by
    refine Scope.membersDepth_le fun member mem => ?_
    obtain ⟨result, hresult, rfl⟩ := List.mem_map.mp mem
    exact Expr.depth_le_of_portable (h result hresult)
  rw [Data.depth, Machine.documentDepth]
  omega

theorem membersDepth_encode_le (h : ∀ result ∈ results, result.2.Portable) :
    Data.membersDepth (encode results) ≤ Machine.documentDepth := by
  have hdepth := depth_encode_le h
  rw [Data.depth] at hdepth
  omega

/-- Results in a file of JSON are read as they were written. -/
theorem readValues_json (hample : machine.AmpleForResults) {path : PathName}
    (hpath : path.suffix = ".json")
    (hnames : (Members.names results).Nodup) (h : ∀ result ∈ results, result.2.Portable) :
    Input.readValues machine path (Text.encodeUtf8
      (Json.text (.indented 2) (.object (encode results)) ++ "\n")) = .ok (encode results) := by
  have hparse := Json.parse_line (.indented 2) (tabular_encode hnames).readable
    (Nat.le_trans (depth_encode_le h) hample.room)
  have hreturn := Json.no_return_line (.indented 2) (.object (encode results))
  have hfile : fileText (Text.encodeUtf8
      (Json.text (.indented 2) (.object (encode results)) ++ "\n")) =
      .ok (Json.text (.indented 2) (.object (encode results)) ++ "\n").toList := by
    simp only [fileText, Text.decodeUtf8_encodeUtf8, Text.unifyLineEnds_eq_self hreturn]
  have hvalue : Input.jsonValue machine path (Text.encodeUtf8
      (Json.text (.indented 2) (.object (encode results)) ++ "\n")) =
      .ok (.object (encode results)) := by
    unfold Input.jsonValue
    refine bind_eq_ok_iff.mpr ⟨_, hfile, ?_⟩
    rw [String.ofList_toList, hparse]
  rw [Input.readValues, if_pos hpath, hvalue]
  rfl

/-- Results in a file of TOML are read as they were written, the plain members of every
table first. -/
theorem readValues_toml (hample : machine.AmpleForResults) {path : PathName}
    (hpath : path.suffix ≠ ".json") (hnames : (Members.names results).Nodup)
    (h : ∀ result ∈ results, result.2.Portable) :
    Input.readValues machine path (Text.encodeUtf8 (Toml.text (encode results))) =
      .ok (Toml.plain (encode results) ++ Toml.arrangedTables (encode results)) := by
  obtain ⟨hnames, hmembers⟩ := tabular_encode hnames
  have hdepth : machine.tomlStack.most * Data.membersDepth (encode results) ≤
      machine.tomlStack.size :=
    Nat.le_trans (Nat.mul_le_mul_left _ (membersDepth_encode_le h)) hample.tables
  have hvalue : Input.tomlValue machine path (Text.encodeUtf8 (Toml.text (encode results))) =
      .ok (.object (Toml.plain (encode results) ++ Toml.arrangedTables (encode results))) := by
    simp only [Input.tomlValue, Text.decodeUtf8_encodeUtf8,
      Toml.parse_text machine.tomlStack hnames hmembers hdepth]
  rw [Input.readValues, if_neg hpath, hvalue]
  rfl

/-- Results of distinct names that were given are written whole. -/
theorem exported_of_given (hample : machine.AmpleForResults)
    (hnames : (Members.names results).Nodup) (h : ∀ result ∈ results, result.2.Given machine)
    (path : PathName) :
    exported machine path results = ⟨some (if path.suffix = ".json" then
      Json.text (.indented 2) (.object (encode results)) ++ "\n"
      else Toml.text (encode results)), none⟩ := by
  have hencode := encode?_of_given hample h
  have hportable := fun result mem => (h result mem).portable
  unfold exported
  split
  · have hwritten := Machine.jsonText_of_writes (tabular_encode hnames).readable
      (hample.writes (.indented 2) _ (depth_encode_le hportable))
    simp only [Exported.json, toJson, hencode, hwritten]
    rfl
  · simp only [Exported.toml, hencode, hample.uncut _ (membersDepth_encode_le hportable)]

end Results

/-- **Exported results can be fed back.** Where a scope that was read from a text succeeds
in a context that was supplied for it, its results are written whole to a file of either
format, and the values in that file give a context that binds the same names to equal
expressions, on every machine that is ample for files of results. -/
theorem exported_results_fed_back {machine : Machine} (hample : machine.AmpleForResults)
    {text : String} {scope : Scope} (hscope : Scope.ofJson machine text = .ok scope)
    {context : Context} (hcontext : Context.Supplied machine scope context) {maxDepth : Int}
    {results : List (String × Expr)}
    (hrun : (scope.evaluate context maxDepth).outcome = .ok results) (path : PathName) :
    ∃ content values back, Results.exported machine path results = ⟨some content, none⟩ ∧
      Input.readValues machine path (Text.encodeUtf8 content) = .ok values ∧
      Context.ofValues machine values = .ok back ∧
      ∀ name, Option.Rel (fun e e' => e.same e' = true) (Members.get? results name)
        (Members.get? back name) := by
  have hgiven := Scope.given_of_evaluate hscope hcontext hrun
  have hportable := fun result mem => (hgiven result mem).portable
  have hnodup := Scope.nodup_of_evaluate hrun
  have hwritten := Results.exported_of_given hample hnodup hgiven path
  obtain ⟨hnames, hmembers⟩ := Results.tabular_encode hnodup
  by_cases hpath : path.suffix = ".json"
  · rw [if_pos hpath] at hwritten
    obtain ⟨back, hback, hsame⟩ := Results.ofValues_of_sameMap hample hgiven hnames
      fun name => Data.rel_sameMap_refl _
    exact ⟨_, _, back, hwritten, Results.readValues_json hample hpath hnodup hportable,
      hback, hsame⟩
  · rw [if_neg hpath] at hwritten
    obtain ⟨back, hback, hsame⟩ := Results.ofValues_of_sameMap hample hgiven
      (Toml.nodup_arranged hnames) (Toml.rel_arranged hnames hmembers)
    exact ⟨_, _, back, hwritten, Results.readValues_toml hample hpath hnodup hportable,
      hback, hsame⟩

/-- A scope that computes a fee and publishes a rule that it does not declare. -/
def feeAndRule : Scope where
  inputs := [("member", .bool)]
  calculations := [("fee", .ifThenElse (.reference "member") (.literal (.string "none"))
    (.literal (.string "full")))]
  outputs := ["fee", "rule"]
  nodup_inputs := List.nodup_singleton "member"
  nodup_calculations := List.nodup_singleton "fee"
  pairwise_outputs := List.pairwise_pair.mpr (by decide)

/-- The fee of a member and the rule, a reference that was bound and is not reduced. -/
def memberResults : List (String × Expr) :=
  [("fee", .literal (.string "none")), ("rule", .reference "member")]

/-- The results of a scope that was read are fed back through a file of TOML. -/
theorem member_results_fed_back :
    ∃ content values back,
      Results.exported .standard (PathName.mk "" ["out.toml"]) memberResults =
        ⟨some content, none⟩ ∧
      Input.readValues .standard (PathName.mk "" ["out.toml"]) (Text.encodeUtf8 content) =
        .ok values ∧
      Context.ofValues .standard values = .ok back ∧
      ∀ name, Option.Rel (fun e e' => e.same e' = true) (Members.get? memberResults name)
        (Members.get? back name) := by
  have hportable : ∀ calculation ∈ feeAndRule.calculations, calculation.2.Portable := by
    refine List.forall_mem_singleton.mpr (Expr.portable_iff_fitsWithin.mpr ?_)
    refine Expr.fitsWithin_succ_iff.mpr ⟨nofun, ?_⟩
    exact (Expr.forall_mem_ifThenElse (Expr.FitsWithin defaultMaxDepth)).mpr
      ⟨Expr.fitsWithin_reference _ _, Expr.fitsWithin_literal nofun,
        Expr.fitsWithin_literal nofun⟩
  have hcontext : Context.Supplied .standard feeAndRule
      [("rule", .reference "member"), ("member", .literal (.bool true))] :=
    .values (show Context.ofValues .standard [("rule", .object [("ref", .string "member")]),
      ("member", .bool true)] = .ok _ from rfl)
  have hrun : (feeAndRule.evaluate
      [("rule", .reference "member"), ("member", .literal (.bool true))]
      defaultMaxDepth).outcome = .ok memberResults := rfl
  exact exported_results_fed_back Machine.ampleForResults_standard
    (Scope.ofJson_text Machine.ample_standard (.indented 2) hportable) hcontext hrun _

end Rulebook
