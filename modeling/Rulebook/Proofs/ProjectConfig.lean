import Rulebook.Config
import Rulebook.Proofs.DocumentPlaces
import Rulebook.Proofs.ExprDocument
import Rulebook.Proofs.ScopeDocument
import Rulebook.Proofs.TomlDocument
import Rulebook.Proofs.Utf8Text

/-!
What a project file configures.

`Config.Valid` says of a document which entries the section may have, and `FromSettings` what
they configure. A section is read exactly as what its settings configure (`ofSection_ok_iff`),
and a document that is not valid is reported by an error of the section, but for three kinds
of documents: something that says nothing stands in the place of the section, the table around
it is none, or an integer too long to be shown stands in the place of the depth limit
(`Reading`, `reading_ofDocument`).
-/

namespace Rulebook.Config

/-! ### Entries of a document -/

/-- What a document says under names, one inside the other. -/
def entryAt? (document : List (String × Data)) (names : List String) : Option Data :=
  (Data.object document).at? (names.map .key)

/-- A setting of the section. -/
def setting? (document : List (String × Data)) (name : String) : Option Data :=
  entryAt? document ["tool", "pluraal", name]

/-- The settings that are paths. -/
def pathNames : List String := ["scope", "inputs", "output"]

/-- Every path that is set is a text. -/
def PathsAreTexts (setting? : String → Option Data) : Prop :=
  ∀ name ∈ pathNames, ∀ value, setting? name = some value → ∃ s, value = .string s

/-- A positive integer. -/
def IsPositive (value : Data) : Prop := ∃ n, value = .int n ∧ 1 ≤ n

/-- A document whose tables are tables, whose paths are texts, and whose depth limit is a
positive integer, each where it is given. -/
structure Valid (document : List (String × Data)) : Prop where
  tool : ∀ value, entryAt? document ["tool"] = some value → ∃ members, value = .object members
  settings : ∀ value, entryAt? document ["tool", "pluraal"] = some value →
    ∃ members, value = .object members
  paths : PathsAreTexts (setting? document)
  maxDepth : ∀ value, setting? document "max-depth" = some value → IsPositive value

/-- Something other than a table stands in the place of the section and says nothing. -/
def SaysNothing (document : List (String × Data)) : Prop :=
  ∃ value, entryAt? document ["tool", "pluraal"] = some value ∧ value.isEmptyLike = true ∧
    ∀ members, value ≠ .object members

/-- What should be the table around the section is none. -/
def HasNoTable (document : List (String × Data)) (value : Data) : Prop :=
  entryAt? document ["tool"] = some value ∧ ∀ members, value ≠ .object members

/-- Paths are texts, and an integer too long to be shown stands in the place of the depth
limit or inside it. -/
def HasLongInteger (document : List (String × Data)) : Prop :=
  PathsAreTexts (setting? document) ∧ ∃ value, setting? document "max-depth" = some value ∧
    ¬ IsPositive value ∧ value.isWritable = false

/-! ### Settings -/

/-- What a path setting configures: the path as it is written if it is absolute, and else one
inside the folder. -/
inductive PathSetting (root : PathName) : Option Data → Option PathName → Prop where
  | absent : PathSetting root none none
  | absolute {s : String} : (PathName.parse s).isAbsolute = true →
      PathSetting root (some (.string s)) (some (.parse s))
  | relative {s : String} : (PathName.parse s).isAbsolute = false →
      PathSetting root (some (.string s)) (some ⟨root.root, root.parts ++ (PathName.parse s).parts⟩)

/-- What a depth setting configures. -/
inductive DepthSetting : Option Data → Int → Prop where
  | absent : DepthSetting none defaultMaxDepth
  | given {n : Int} : 1 ≤ n → DepthSetting (some (.int n)) n

/-- What settings configure. -/
structure FromSettings (root : PathName) (setting? : String → Option Data) (config : Config) :
    Prop where
  scope : PathSetting root (setting? "scope") config.scope
  inputs : PathSetting root (setting? "inputs") config.inputs
  output : PathSetting root (setting? "output") config.output
  maxDepth : DepthSetting (setting? "max-depth") config.maxDepth
  projectRoot : config.projectRoot = some root

section Settings

variable {root : PathName} {settings : List (String × Data)} {name : String}

theorem PathSetting.text {setting : Option Data} {path : Option PathName}
    (h : PathSetting root setting path) {value : Data} (hvalue : setting = some value) :
    ∃ s, value = .string s := by
  cases h with
  | absent => cases hvalue
  | absolute => exact ⟨_, (Option.some.inj hvalue).symm⟩
  | relative => exact ⟨_, (Option.some.inj hvalue).symm⟩

theorem pathsAreTexts {setting? : String → Option Data} {scope inputs output : Option PathName}
    (hscope : PathSetting root (setting? "scope") scope)
    (hinputs : PathSetting root (setting? "inputs") inputs)
    (houtput : PathSetting root (setting? "output") output) : PathsAreTexts setting? := by
  intro name mem value hvalue
  simp only [pathNames, List.mem_cons, List.not_mem_nil, or_false] at mem
  rcases mem with rfl | rfl | rfl
  · exact hscope.text hvalue
  · exact hinputs.text hvalue
  · exact houtput.text hvalue

theorem DepthSetting.isPositive {setting : Option Data} {n : Int} (h : DepthSetting setting n)
    {value : Data} (hvalue : setting = some value) : IsPositive value := by
  cases h with
  | absent => cases hvalue
  | given h => exact ⟨n, (Option.some.inj hvalue).symm, h⟩

theorem DepthSetting.positive {setting : Option Data} {n : Int} (h : DepthSetting setting n) :
    1 ≤ n := by
  cases h with
  | absent => decide
  | given h => exact h

theorem pathSetting_string_iff {s : String} {path : Option PathName} :
    PathSetting root (some (.string s)) path ↔ path = some (root.join (.parse s)) := by
  cases habsolute : (PathName.parse s).isAbsolute with
  | true =>
      rw [PathName.join, if_pos habsolute]
      constructor
      · rintro (_ | _ | hrelative)
        · rfl
        · cases habsolute.symm.trans hrelative
      · rintro rfl
        exact .absolute habsolute
  | false =>
      rw [PathName.join, if_neg (by simp [habsolute])]
      constructor
      · rintro (_ | hrooted | _)
        · cases habsolute.symm.trans hrooted
        · rfl
      · rintro rfl
        exact .relative habsolute

theorem readPath_ok_iff {path : Option PathName} :
    readPath settings name root = .ok path ↔
      PathSetting root (Members.get? settings name) path := by
  unfold readPath
  cases hsetting : Members.get? settings name with
  | none =>
      constructor
      · rintro ⟨⟩
        exact .absent
      · rintro ⟨⟩
        rfl
  | some value =>
      cases value with
      | string s =>
          rw [pathSetting_string_iff]
          constructor
          · rintro ⟨⟩
            rfl
          · rintro rfl
            rfl
      | _ => exact ⟨nofun, nofun⟩

/-- A path that is no text is named as the fault. -/
theorem readPath_error {error : ConfigError} (h : readPath settings name root = .error error) :
    error = .pathNotString name ∧
      ∃ value, Members.get? settings name = some value ∧ ∀ s, value ≠ .string s := by
  unfold readPath at h
  split at h
  · cases h
  · cases h
  · next value hnot hsetting =>
      cases h
      exact ⟨rfl, value, hsetting, hnot⟩

theorem readMaxDepth_ok_iff {n : Int} :
    readMaxDepth settings = .ok n ↔ DepthSetting (Members.get? settings "max-depth") n := by
  unfold readMaxDepth
  cases hsetting : Members.get? settings "max-depth" with
  | none =>
      constructor
      · rintro ⟨⟩
        exact .absent
      · rintro ⟨⟩
        rfl
  | some value =>
      cases value with
      | int m =>
          simp only
          split
          · next hlow =>
              refine ⟨nofun, ?_⟩
              rintro (_ | hpositive)
              omega
          · next hnot =>
              constructor
              · rintro ⟨⟩
                exact .given (by omega)
              · rintro ⟨⟩
                rfl
      | _ => exact ⟨nofun, nofun⟩

/-- A depth limit that is no positive integer is shown as the fault. -/
theorem readMaxDepth_error_iff {error : ConfigError} : readMaxDepth settings = .error error ↔
    ∃ value, Members.get? settings "max-depth" = some value ∧ ¬ IsPositive value ∧
      error = .badMaxDepth value := by
  unfold readMaxDepth
  cases hsetting : Members.get? settings "max-depth" with
  | none => simp
  | some value =>
      cases value with
      | int m =>
          simp only [Option.some.injEq, exists_eq_left']
          split
          · next hlow =>
              have hnot : ¬ IsPositive (.int m) := by
                rintro ⟨_, ⟨⟩, hpositive⟩
                omega
              simp [hnot, eq_comm]
          · next hhigh =>
              have hpositive : IsPositive (.int m) := ⟨m, rfl, by omega⟩
              simp [hpositive]
      | _ => simp [IsPositive, eq_comm]

/-- A section is read exactly as what its settings configure. -/
theorem ofSection_ok_iff {config : Config} :
    ofSection root settings = .ok config ↔
      FromSettings root (Members.get? settings) config := by
  constructor
  · intro h
    obtain ⟨scope, hscope, h⟩ := bind_eq_ok_iff.mp h
    obtain ⟨inputs, hinputs, h⟩ := bind_eq_ok_iff.mp h
    obtain ⟨output, houtput, h⟩ := bind_eq_ok_iff.mp h
    obtain ⟨maxDepth, hdepth, h⟩ := bind_eq_ok_iff.mp h
    cases h
    exact ⟨readPath_ok_iff.mp hscope, readPath_ok_iff.mp hinputs, readPath_ok_iff.mp houtput,
      readMaxDepth_ok_iff.mp hdepth, rfl⟩
  · rintro ⟨hscope, hinputs, houtput, hdepth, hroot⟩
    refine bind_eq_ok_iff.mpr ⟨config.scope, readPath_ok_iff.mpr hscope, ?_⟩
    refine bind_eq_ok_iff.mpr ⟨config.inputs, readPath_ok_iff.mpr hinputs, ?_⟩
    refine bind_eq_ok_iff.mpr ⟨config.output, readPath_ok_iff.mpr houtput, ?_⟩
    refine bind_eq_ok_iff.mpr ⟨config.maxDepth, readMaxDepth_ok_iff.mpr hdepth, ?_⟩
    rw [← hroot]
    rfl

/-- What keeps a section from being read is a path that is no text or, where paths are
texts, the depth limit. -/
theorem ofSection_error {error : ConfigError} (h : ofSection root settings = .error error) :
    (∃ name ∈ pathNames, readPath settings name root = .error error) ∨
      PathsAreTexts (Members.get? settings) ∧ readMaxDepth settings = .error error := by
  rcases bind_eq_error_iff.mp h with hscope | ⟨_, hscope, h⟩
  · exact .inl ⟨"scope", by decide, hscope⟩
  rcases bind_eq_error_iff.mp h with hinputs | ⟨_, hinputs, h⟩
  · exact .inl ⟨"inputs", by decide, hinputs⟩
  rcases bind_eq_error_iff.mp h with houtput | ⟨_, houtput, h⟩
  · exact .inl ⟨"output", by decide, houtput⟩
  rcases bind_eq_error_iff.mp h with hdepth | ⟨_, _, hdone⟩
  · exact .inr ⟨pathsAreTexts (readPath_ok_iff.mp hscope) (readPath_ok_iff.mp hinputs)
      (readPath_ok_iff.mp houtput), hdepth⟩
  · cases hdone

/-- A section that says nothing is read as the empty configuration. -/
theorem fromSettings_empty {setting? : String → Option Data}
    (h : ∀ name, setting? name = none) : FromSettings root setting? (empty (some root)) where
  scope := by
    rw [h]
    exact .absent
  inputs := by
    rw [h]
    exact .absent
  output := by
    rw [h]
    exact .absent
  maxDepth := by
    rw [h]
    exact .absent
  projectRoot := rfl

end Settings

/-! ### Documents -/

/-- How a document is read: as what its settings configure, or as one of the failures. -/
inductive Reading (root : PathName) (document : List (String × Data)) :
    Except ConfigFailure Config → Prop where
  | returned {config : Config} : Valid document ∨ SaysNothing document →
      FromSettings root (setting? document) config → Reading root document (.ok config)
  | reported {error : ConfigError} : ¬ (Valid document ∨ SaysNothing document) →
      (∀ value, ¬ HasNoTable document value) → ¬ HasLongInteger document →
      Reading root document (.error (.config error))
  | escapedNoTable {value : Data} : HasNoTable document value →
      Reading root document (.error (.toolNotTable value.typeName))
  | escapedLongInteger : HasLongInteger document →
      Reading root document (.error .integerTooLong)

section Documents

variable {root : PathName} {document tool settings : List (String × Data)} {value : Data}

theorem entryAt?_tool : entryAt? document ["tool"] = Members.get? document "tool" := by
  simp [entryAt?, Data.at?]

/-- What stands in the place of the section is read off what stands in that of the table
around it. -/
theorem entryAt?_section (document : List (String × Data)) :
    entryAt? document ["tool", "pluraal"] =
      (entryAt? document ["tool"]).bind (·.at? [.key "pluraal"]) :=
  Data.at?_append (.object document) [.key "tool"] [.key "pluraal"]

theorem setting?_section (document : List (String × Data)) (name : String) :
    setting? document name =
      (entryAt? document ["tool", "pluraal"]).bind (·.at? [.key name]) :=
  Data.at?_append (.object document) [.key "tool", .key "pluraal"] [.key name]

theorem setting?_eq (h : entryAt? document ["tool", "pluraal"] = some (.object settings)) :
    setting? document = Members.get? settings := by
  funext name
  rw [setting?_section, h]
  simp [Data.at?]

/-- What is set is set in a section that is a table. -/
theorem exists_section {name : String} (h : setting? document name = some value) :
    ∃ settings, entryAt? document ["tool", "pluraal"] = some (.object settings) := by
  rw [setting?_section] at h
  obtain ⟨found, hfound, hat⟩ := Option.bind_eq_some_iff.mp h
  cases found with
  | object settings => exact ⟨settings, hfound⟩
  | _ => cases hat

theorem setting?_eq_none
    (h : ∀ value, entryAt? document ["tool", "pluraal"] = some value →
      ∀ settings, value ≠ .object settings) (name : String) :
    setting? document name = none := by
  cases hsetting : setting? document name with
  | none => rfl
  | some value =>
      obtain ⟨settings, hsection⟩ := exists_section hsetting
      exact absurd rfl (h _ hsection settings)

/-- A document without the section is valid unless what should be the table around it is
none. -/
theorem valid_of_no_section (hnone : entryAt? document ["tool", "pluraal"] = none)
    (htool : ∀ value, entryAt? document ["tool"] = some value →
      ∃ members, value = .object members) :
    Valid document := by
  have hunset : ∀ name, setting? document name = none := setting?_eq_none (by simp [hnone])
  refine ⟨htool, by simp [hnone], ?_, ?_⟩
  · intro name _ value hvalue
    cases (hunset name).symm.trans hvalue
  · intro value hvalue
    cases (hunset "max-depth").symm.trans hvalue

theorem HasNoTable.section_none (h : HasNoTable document value) :
    entryAt? document ["tool", "pluraal"] = none := by
  rw [entryAt?_section, h.1]
  cases value with
  | object members => exact absurd rfl (h.2 members)
  | _ => rfl

theorem HasNoTable.not_read (h : HasNoTable document value) :
    ¬ (Valid document ∨ SaysNothing document) := by
  rintro (hvalid | ⟨other, hother, _⟩)
  · obtain ⟨members, rfl⟩ := hvalid.tool value h.1
    exact h.2 members rfl
  · cases h.section_none.symm.trans hother

theorem HasLongInteger.exists_section (h : HasLongInteger document) :
    ∃ settings, entryAt? document ["tool", "pluraal"] = some (.object settings) := by
  obtain ⟨-, value, hvalue, -⟩ := h
  exact Config.exists_section hvalue

theorem HasLongInteger.not_read (h : HasLongInteger document) :
    ¬ (Valid document ∨ SaysNothing document) := by
  rintro (hvalid | ⟨other, hother, _, hnot⟩)
  · obtain ⟨-, value, hvalue, hnot, -⟩ := h
    exact hnot (hvalid.maxDepth value hvalue)
  · obtain ⟨settings, hsection⟩ := h.exists_section
    cases hsection.symm.trans hother
    exact hnot settings rfl

theorem HasNoTable.not_hasLongInteger (h : HasNoTable document value) :
    ¬ HasLongInteger document := by
  intro hlong
  obtain ⟨settings, hsection⟩ := hlong.exists_section
  cases h.section_none.symm.trans hsection

/-- Settings that configure something are valid. -/
theorem FromSettings.valid {config : Config}
    (htool : entryAt? document ["tool"] = some (.object tool))
    (hsection : entryAt? document ["tool", "pluraal"] = some (.object settings))
    (h : FromSettings root (setting? document) config) : Valid document := by
  refine ⟨?_, ?_, pathsAreTexts h.scope h.inputs h.output, fun value => h.maxDepth.isPositive⟩
  · intro value hvalue
    cases htool.symm.trans hvalue
    exact ⟨tool, rfl⟩
  · intro value hvalue
    cases hsection.symm.trans hvalue
    exact ⟨settings, rfl⟩

theorem not_saysNothing
    (hsection : entryAt? document ["tool", "pluraal"] = some (.object settings)) :
    ¬ SaysNothing document := by
  rintro ⟨value, hvalue, -, hnot⟩
  cases hsection.symm.trans hvalue
  exact hnot settings rfl

theorem not_hasNoTable (htool : entryAt? document ["tool"] = some (.object tool)) (value : Data) :
    ¬ HasNoTable document value := by
  rintro ⟨hvalue, hnot⟩
  cases htool.symm.trans hvalue
  exact hnot tool rfl

/-- A path that is no text is reported. -/
theorem reading_badPath {name : String}
    (htool : entryAt? document ["tool"] = some (.object tool))
    (hsection : entryAt? document ["tool", "pluraal"] = some (.object settings))
    (mem : name ∈ pathNames) (hvalue : setting? document name = some value)
    (hnot : ∀ s, value ≠ .string s) :
    Reading root document (.error (.config (.pathNotString name))) := by
  have hpaths : ¬ PathsAreTexts (setting? document) := by
    intro hpaths
    obtain ⟨s, rfl⟩ := hpaths name mem value hvalue
    exact hnot s rfl
  refine .reported ?_ (not_hasNoTable htool) fun hlong => hpaths hlong.1
  rintro (hvalid | hsilent)
  · exact hpaths hvalid.paths
  · exact not_saysNothing hsection hsilent

/-- A depth limit that is no positive integer is reported, if it can be shown. -/
theorem reading_badMaxDepth (htool : entryAt? document ["tool"] = some (.object tool))
    (hsection : entryAt? document ["tool", "pluraal"] = some (.object settings))
    (hpaths : PathsAreTexts (setting? document))
    (hvalue : setting? document "max-depth" = some value) (hnot : ¬ IsPositive value) :
    Reading root document (.error (.ofError (.badMaxDepth value))) := by
  unfold ConfigFailure.ofError
  split
  · next hwritable =>
      refine .reported ?_ (not_hasNoTable htool) ?_
      · rintro (hvalid | hsilent)
        · exact hnot (hvalid.maxDepth value hvalue)
        · exact not_saysNothing hsection hsilent
      · rintro ⟨-, other, hother, -, hlong⟩
        cases hvalue.symm.trans hother
        cases hlong.symm.trans hwritable
  · next hlong =>
      exact .escapedLongInteger ⟨hpaths, value, hvalue, hnot, Bool.eq_false_iff.mpr hlong⟩

/-- A section is read as what it configures, or the first of its faults is reported, unless
the fault cannot be shown. -/
theorem reading_ofSection (htool : entryAt? document ["tool"] = some (.object tool))
    (hsection : entryAt? document ["tool", "pluraal"] = some (.object settings)) :
    Reading root document ((ofSection root settings).mapError .ofError) := by
  have hsettings := setting?_eq hsection
  cases hread : ofSection root settings with
  | ok config =>
      have hfrom := ofSection_ok_iff.mp hread
      rw [← hsettings] at hfrom
      exact .returned (.inl (hfrom.valid htool hsection)) hfrom
  | error error =>
      rcases ofSection_error hread with ⟨name, mem, hpath⟩ | ⟨hpaths, hdepth⟩
      · obtain ⟨rfl, value, hvalue, hnot⟩ := readPath_error hpath
        rw [← hsettings] at hvalue
        exact reading_badPath htool hsection mem hvalue hnot
      · obtain ⟨value, hvalue, hnot, rfl⟩ := readMaxDepth_error_iff.mp hdepth
        rw [← hsettings] at hpaths hvalue
        exact reading_badMaxDepth htool hsection hpaths hvalue hnot

/-- What is no table in the place of the section is reported, unless it says nothing. -/
theorem reading_no_section (htool : entryAt? document ["tool"] = some (.object tool))
    (hvalue : entryAt? document ["tool", "pluraal"] = some value)
    (hnot : ∀ settings, value ≠ .object settings) :
    Reading root document ((if value.isEmptyLike then .ok (empty (some root))
      else .error .notTable : Except ConfigError Config).mapError .ofError) := by
  have hunset : ∀ name, setting? document name = none := by
    refine setting?_eq_none ?_
    rintro other hother
    cases hvalue.symm.trans hother
    exact hnot
  cases hempty : value.isEmptyLike with
  | true => exact .returned (.inr ⟨value, hvalue, hempty, hnot⟩) (fromSettings_empty hunset)
  | false =>
      refine .reported ?_ (not_hasNoTable htool) ?_
      · rintro (hvalid | ⟨other, hother, hsilent, -⟩)
        · obtain ⟨settings, rfl⟩ := hvalid.settings value hvalue
          exact hnot settings rfl
        · cases hvalue.symm.trans hother
          cases hempty.symm.trans hsilent
      · rintro ⟨-, other, hother, -⟩
        cases (hunset "max-depth").symm.trans hother

theorem reading_ofTool (htool : entryAt? document ["tool"] = some (.object tool)) :
    Reading root document ((ofTool root tool).mapError .ofError) := by
  have hsection : entryAt? document ["tool", "pluraal"] = Members.get? tool "pluraal" := by
    rw [entryAt?_section, htool]
    simp [Data.at?]
  have htable : ∀ value, entryAt? document ["tool"] = some value →
      ∃ members, value = .object members := by
    rintro value hvalue
    cases htool.symm.trans hvalue
    exact ⟨tool, rfl⟩
  unfold ofTool
  cases hpluraal : Members.get? tool "pluraal" with
  | none =>
      have hnone := hsection.trans hpluraal
      exact .returned (.inl (valid_of_no_section hnone htable))
        (fromSettings_empty (setting?_eq_none (by simp [hnone])))
  | some value =>
      have hfound := hsection.trans hpluraal
      cases value with
      | object settings =>
          -- An empty section is read as any other one would be.
          have hempty : (if settings.isEmpty then .ok (empty (some root))
              else ofSection root settings) = ofSection root settings := by
            cases settings <;> rfl
          simp only [hempty]
          exact reading_ofSection htool hfound
      | _ => exact reading_no_section htool hfound (by rintro _ ⟨⟩)

/-- A document is read in one of these ways. -/
theorem reading_ofDocument (root : PathName) (document : List (String × Data)) :
    Reading root document (ofDocument root document) := by
  unfold ofDocument
  cases htool : Members.get? document "tool" with
  | none =>
      have hentry := entryAt?_tool.trans htool
      have hnone : entryAt? document ["tool", "pluraal"] = none := by
        rw [entryAt?_section, hentry]
        rfl
      exact .returned (.inl (valid_of_no_section hnone (by simp [hentry])))
        (fromSettings_empty (setting?_eq_none (by simp [hnone])))
  | some value =>
      have hentry := entryAt?_tool.trans htool
      cases value with
      | object tool => exact reading_ofTool hentry
      | _ => exact .escapedNoTable ⟨hentry, by rintro _ ⟨⟩⟩

end Documents

/-! ### Project files -/

/-- The document that a file of these octets is. -/
def IsDocument (machine : Machine) (octets : List UInt8) (document : List (String × Data)) : Prop :=
  ∃ cs, Text.decodeUtf8 octets = .ok cs ∧ Toml.parse machine.tomlStack cs = .ok document

/-- A table that is written as a file is, with its plain members first, what the file is. -/
theorem isDocument_text {machine : Machine} {members : List (String × Data)}
    (hnames : (Members.names members).Nodup) (h : Data.MembersTabular members)
    (hdepth : machine.tomlStack.most * Data.membersDepth members ≤ machine.tomlStack.size) :
    IsDocument machine (Text.encodeUtf8 (Toml.text members))
      (Toml.plain members ++ Toml.arrangedTables members) :=
  ⟨_, Text.decodeUtf8_encodeUtf8 _, Toml.parse_text machine.tomlStack hnames h hdepth⟩

theorem ofFile_of_isDocument {machine : Machine} {octets : List UInt8}
    {document : List (String × Data)} (h : IsDocument machine octets document) (file : PathName) :
    ofFile machine file octets = ofDocument file.parent document := by
  obtain ⟨cs, htext, hread⟩ := h
  rw [ofFile, htext]
  simp only [hread]

end Config

/-- **What a project file configures.** A file that is a document is read exactly if its
entries are valid, or something that says nothing stands in the place of the section. Then its
settings are as they are written, paths being seen from the folder of the file, and the depth
limit is positive. In every other case an error of the section is reported, but where the
table around the section is none, and where an integer too long to be shown stands in the
place of the depth limit. -/
theorem project_file_read_reported_or_escapes (machine : Machine) (file : PathName)
    {octets : List UInt8} {document : List (String × Data)}
    (h : Config.IsDocument machine octets document) :
    ((∃ config, Config.ofFile machine file octets = .ok config) ↔
      Config.Valid document ∨ Config.SaysNothing document) ∧
    (∀ config, Config.ofFile machine file octets = .ok config →
      Config.FromSettings file.parent (Config.setting? document) config ∧
      1 ≤ config.maxDepth) ∧
    ((∃ error, Config.ofFile machine file octets = .error (.config error)) ↔
      ¬ (Config.Valid document ∨ Config.SaysNothing document) ∧
      (∀ value, ¬ Config.HasNoTable document value) ∧ ¬ Config.HasLongInteger document) ∧
    (∀ typeName, Config.ofFile machine file octets = .error (.toolNotTable typeName) ↔
      ∃ value, Config.HasNoTable document value ∧ typeName = value.typeName) ∧
    (Config.ofFile machine file octets = .error .integerTooLong ↔
      Config.HasLongInteger document) := by
  rw [Config.ofFile_of_isDocument h file]
  generalize hresult : Config.ofDocument file.parent document = result
  cases hresult ▸ Config.reading_ofDocument file.parent document with
  | @returned config hread hfrom =>
      have htable : ∀ value, ¬ Config.HasNoTable document value := fun _ h => h.not_read hread
      have hlong : ¬ Config.HasLongInteger document := fun h => h.not_read hread
      refine ⟨by simp [hread], ?_, by simp [hread], by simp [htable], by simp [hlong]⟩
      rintro _ ⟨⟩
      exact ⟨hfrom, hfrom.maxDepth.positive⟩
  | reported hread htable hlong => simp [hread, htable, hlong]
  | @escapedNoTable value htable =>
      have hread := htable.not_read
      have hlong := htable.not_hasLongInteger
      refine ⟨by simp [hread], nofun, ?_, fun typeName => ?_, by simp [hlong]⟩
      · constructor
        · rintro ⟨_, ⟨⟩⟩
        · exact fun hnone => absurd htable (hnone.2.1 value)
      · constructor
        · rintro ⟨⟩
          exact ⟨value, htable, rfl⟩
        · rintro ⟨other, hother, rfl⟩
          cases htable.1.symm.trans hother.1
          rfl
  | escapedLongInteger hlong =>
      have htable : ∀ value, ¬ Config.HasNoTable document value :=
        fun _ h => h.not_hasLongInteger hlong
      simp [hlong, hlong.not_read, htable]

/-- A project file that sets the depth limit, and nothing else. -/
def depthProject : String := "[tool.pluraal]\nmax-depth = 3\n"

/-- What that file says. -/
def depthDocument : List (String × Data) :=
  [("tool", .object [("pluraal", .object [("max-depth", .int 3)])])]

theorem valid_depthDocument : Config.Valid depthDocument := by
  refine ⟨?_, ?_, ?_, ?_⟩
  · rintro _ ⟨⟩
    exact ⟨_, rfl⟩
  · rintro _ ⟨⟩
    exact ⟨_, rfl⟩
  · intro name mem value hvalue
    simp only [Config.pathNames, List.mem_cons, List.not_mem_nil, or_false] at mem
    rcases mem with rfl | rfl | rfl <;> cases hvalue
  · rintro _ ⟨⟩
    exact ⟨3, rfl, by decide⟩

/-- A depth limit that is set is configured. -/
theorem depth_limit_configured :
    ∃ config, Config.ofFile .standard ⟨"/", ["work", "pyproject.toml"]⟩
        (Text.encodeUtf8 depthProject) = .ok config ∧
      config.scope = none ∧ config.maxDepth = 3 := by
  have htext : Toml.text depthDocument = depthProject := by decide +kernel
  have htabular : Data.MembersTabular depthDocument :=
    ⟨⟨by decide, ⟨by decide, Expr.tabular_int (by decide), trivial⟩, trivial⟩, trivial⟩
  have hdocument : Config.IsDocument .standard (Text.encodeUtf8 depthProject) depthDocument :=
    htext ▸ Config.isDocument_text (by decide) htabular (by decide)
  obtain ⟨hread, hconfig, -⟩ :=
    project_file_read_reported_or_escapes .standard ⟨"/", ["work", "pyproject.toml"]⟩ hdocument
  obtain ⟨config, hok⟩ := hread.mpr (.inl valid_depthDocument)
  obtain ⟨hscope, -, -, hdepth, -⟩ := (hconfig config hok).1
  refine ⟨config, hok, ?_, ?_⟩
  · have hunset : Config.setting? depthDocument "scope" = none := rfl
    rw [hunset] at hscope
    generalize config.scope = scope at hscope
    cases hscope
    rfl
  · have hset : Config.setting? depthDocument "max-depth" = some (.int 3) := rfl
    rw [hset] at hdepth
    generalize config.maxDepth = maxDepth at hdepth
    cases hdepth
    rfl

/-- A project file where a number stands in the place of the table around the section. -/
def numberProject : String := "tool = 5\n"

/-- A number in the place of the table around the section is not reported. -/
theorem number_for_table_not_reported :
    ¬ ∀ (file : PathName) (octets : List UInt8) (document : List (String × Data)),
      Config.IsDocument .standard octets document →
        ((∃ config, Config.ofFile .standard file octets = .ok config) ↔ Config.Valid document) ∧
        (¬ Config.Valid document →
          ∃ error, Config.ofFile .standard file octets = .error (.config error)) := by
  intro h
  have htext : Toml.text [("tool", .int 5)] = numberProject := by decide +kernel
  have hdocument : Config.IsDocument .standard (Text.encodeUtf8 numberProject) [("tool", .int 5)] :=
    htext ▸ Config.isDocument_text (by decide) ⟨Expr.tabular_int (by decide), trivial⟩ (by decide)
  have htable : Config.HasNoTable [("tool", .int 5)] (.int 5) := ⟨rfl, by rintro _ ⟨⟩⟩
  have hinvalid : ¬ Config.Valid [("tool", .int 5)] := fun hvalid => htable.not_read (.inl hvalid)
  obtain ⟨error, herror⟩ := (h ⟨"", [Config.fileName]⟩ _ _ hdocument).2 hinvalid
  rw [Config.ofFile_of_isDocument hdocument] at herror
  cases herror

end Rulebook
