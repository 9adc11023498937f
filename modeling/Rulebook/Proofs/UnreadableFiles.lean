import Rulebook.Command
import Rulebook.Input.File
import Rulebook.Proofs.LoadErrors
import Rulebook.Proofs.TomlObstacles

/-!
How files that cannot be read are reported.

What keeps the content of a file from being read is a fault that is put into words, or it
is seen in the content: octets that are no text, a numeral of too many digits, or more
brackets than containers may be open (`ContentError.Sound`). Values that were read may be
no expressions, which is put into words too, unless the words are to show a value that has
no text as JSON (`refused_values`); in a file of JSON there is none. A command that reads
such a file fails with the words of the fault; whatever is no fault, and a fault that has
no words, it does not provide for (`Command.EndsAt`, `Command.EndsAtFault`).
-/

namespace Rulebook

/-! ### Contents -/

/-- What an error says of the content of a file. -/
def ContentError.Sound (machine : Machine) (octets : List UInt8) : ContentError → Prop
  | .decode error => error.fault.refusal? = none
  | .notText fault => Text.decodeUtf8 octets = .error fault
  | .tooManyDigits count => ∃ cs, Text.decodeUtf8 octets = .ok cs ∧ LongNumeral count cs
  | .tooDeep _ => ∃ cs, Text.decodeUtf8 octets = .ok cs ∧ machine.jsonRoom < openings cs
  | .tomlTooDeep =>
    ∃ cs, Text.decodeUtf8 octets = .ok cs ∧
      machine.tomlStack.size < machine.tomlStack.most * openings cs

/-- Whether a file nests too deep for its reader. -/
def ContentError.IsTooDeep : ContentError → Prop
  | .tooDeep _ | .tomlTooDeep => True
  | _ => False

section Contents

variable {machine : Machine} {octets : List UInt8} {error : ContentError}

/-- The text of a file is there, or its content is no text. -/
theorem fileText_cases (octets : List UInt8) :
    (∃ cs, Text.decodeUtf8 octets = .ok cs ∧ fileText octets = .ok (Text.unifyLineEnds cs)) ∨
      ∃ fault, Text.decodeUtf8 octets = .error fault ∧
        fileText octets = .error (.notText fault) := by
  unfold fileText
  cases Text.decodeUtf8 octets with
  | ok cs => exact .inl ⟨cs, rfl, rfl⟩
  | error fault => exact .inr ⟨fault, rfl, rfl⟩

theorem scope_content_sound (h : Scope.ofFile machine octets = .error error) :
    error.Sound machine octets ∧ ¬ error.IsTooDeep := by
  rcases fileText_cases octets with ⟨cs, hdecode, htext⟩ | ⟨fault, hdecode, htext⟩
  · unfold Scope.ofFile at h
    rw [htext, ok_bind] at h
    obtain ⟨cause, hload, rfl⟩ := mapError_eq_error_iff.mp h
    have hsound := loading_sound (fun _ => Scope.reported_decode machine) hload
    cases cause with
    | decode fault => exact ⟨hsound, id⟩
    | tooManyDigits count =>
        have hlong := longNumeral_of_longInteger hsound
        rw [String.toList_ofList] at hlong
        have hnumeral := longNumeral_of_unifyLineEnds hlong
        exact ⟨⟨cs, hdecode, hnumeral⟩, id⟩
  · unfold Scope.ofFile at h
    rw [htext] at h
    cases h
    exact ⟨hdecode, id⟩

theorem jsonValue_sound {path : PathName} (h : Input.jsonValue machine path octets = .error error) :
    error.Sound machine octets := by
  unfold Input.jsonValue at h
  rcases fileText_cases octets with ⟨cs, hdecode, htext⟩ | ⟨fault, hdecode, htext⟩
  · rw [htext] at h
    simp only [ok_bind] at h
    split at h
    · cases h
    · cases h
      rfl
    · next count hparse =>
        have hlong := Json.longInteger_of_parse hparse
        rw [String.toList_ofList] at hlong
        cases h
        exact ⟨cs, hdecode, longNumeral_of_unifyLineEnds (longNumeral_of_longInteger hlong)⟩
    · next container hparse =>
        have hopenings := Json.openings_of_parse hparse
        rw [String.toList_ofList] at hopenings
        cases h
        exact ⟨cs, hdecode, Nat.lt_of_lt_of_le hopenings (openings_unifyLineEnds_le cs)⟩
  · rw [htext] at h
    cases h
    exact hdecode

theorem tomlValue_sound {path : PathName} (h : Input.tomlValue machine path octets = .error error) :
    error.Sound machine octets := by
  unfold Input.tomlValue at h
  split at h
  · next hdecode =>
      cases h
      exact hdecode
  · next cs hdecode =>
      split at h
      · cases h
      · cases h
        rfl
      · next count hread =>
          cases h
          exact ⟨cs, hdecode, longNumeral_of_joinLineEnds (Toml.parse_sound hread)⟩
      · next hread =>
          have hopenings : machine.tomlStack.size <
              machine.tomlStack.most * openings (Text.joinLineEnds cs) := Toml.parse_sound hread
          cases h
          refine ⟨cs, hdecode, Nat.lt_of_lt_of_le hopenings ?_⟩
          exact Nat.mul_le_mul_left _ (openings_joinLineEnds_le cs)

theorem inputs_content_sound {path : PathName}
    (h : Input.readValues machine path octets = .error error) :
    error.Sound machine octets := by
  unfold Input.readValues at h
  simp only at h
  split at h
  · rcases bind_eq_error_iff.mp h with herror | ⟨value, _, hvalue⟩
    · exact jsonValue_sound herror
    · cases value <;> cases hvalue <;> rfl
  · rcases bind_eq_error_iff.mp h with herror | ⟨value, _, hvalue⟩
    · exact tomlValue_sound herror
    · cases value <;> cases hvalue <;> rfl

/-- Content that is no text is never read. -/
theorem not_text_of_decodeUtf8 (machine : Machine) {fault : Text.Utf8Error}
    (h : Text.decodeUtf8 octets = .error fault) (path : PathName) :
    Scope.ofFile machine octets = .error (.notText fault) ∧
      Input.readValues machine path octets = .error (.notText fault) := by
  have htext : fileText octets = .error (.notText fault) := by
    rw [fileText, h]
  refine ⟨?_, ?_⟩
  · rw [Scope.ofFile, htext]
    rfl
  · rw [Input.readValues, Input.jsonValue, Input.tomlValue, htext, h]
    split <;> rfl

/-! ### Values -/

/-- What is read from a file of JSON has a text. -/
theorem membersRefusal?_of_readValues {path : PathName} {values : List (String × Data)}
    (hpath : path.suffix = ".json") (h : Input.readValues machine path octets = .ok values) :
    Json.membersRefusal? values = none := by
  rw [Input.readValues, if_pos hpath] at h
  obtain ⟨value, hvalue, h⟩ := bind_eq_ok_iff.mp h
  have hrefusal : Json.refusal? value = none := by
    obtain ⟨cs, _, hparse⟩ := bind_eq_ok_iff.mp hvalue
    split at hparse
    · next hok =>
        cases hparse
        exact Json.refusal?_of_parse hok
    all_goals cases hparse
  cases value with
  | object members =>
      cases h
      exact hrefusal
  | _ => cases h

theorem reported_ofValues (machine : Machine) {values : List (String × Data)}
    (h : Json.membersRefusal? values = none) : Reported (Context.ofValues machine values) := by
  induction values with
  | nil => exact reported_ok _
  | cons entry rest ih =>
      obtain ⟨name, value⟩ := entry
      obtain ⟨hvalue, hrest⟩ := List.forall_mem_cons.mp (Json.membersRefusal?_eq_none_iff.mp h)
      exact (Expr.reported_decodeAt machine _ hvalue).bind fun _ _ =>
        (ih (Json.membersRefusal?_eq_none_iff.mpr hrest)).bind fun _ _ => reported_ok _

/-- Values that are no expressions are refused in words, unless one of them has no text,
which all values of a file of JSON have. -/
theorem refused_values {path : PathName} {values : List (String × Data)} {error : DecodeError}
    (hvalues : Input.readValues machine path octets = .ok values)
    (h : Context.ofValues machine values = .error error) :
    error.fault.refusal? = none ∨
      (path.suffix ≠ ".json" ∧ ∃ entry ∈ values, Json.refusal? entry.2 ≠ none) := by
  by_cases htext : Json.membersRefusal? values = none
  · exact .inl (reported_ofValues machine htext error h)
  · refine .inr ⟨fun hpath => htext (membersRefusal?_of_readValues hpath hvalues), ?_⟩
    rw [Json.membersRefusal?_eq_none_iff] at htext
    push Not at htext
    exact htext

/-- A reference to a date is read from a file of TOML, and no words refuse it. -/
example :
    (match Input.readValues .standard ⟨"", ["in.toml"]⟩
        (Text.encodeUtf8 "x = \x7bref = 1979-05-27\x7d") with
      | .error _ => none
      | .ok values =>
        match Context.ofValues .standard values with
        | .ok _ => none
        | .error error => error.fault.refusal?) = some (.notSerializable "date") := by
  decide +kernel

end Contents

/-! ### Commands -/

namespace Command

/-- The scope operand of a request, if it is for a command that reads a scope. -/
def Request.scope? : Request → Option (Option PathName)
  | .evaluate scope _ _ _ _ | .check scope | .draw scope _ _ => some scope
  | _ => none

/-- Where the input values come from that a request asks for, if it does. -/
def Request.source? : Request → Option Source
  | .evaluate _ source _ _ _ | .draw _ source _ => some source
  | _ => none

/-- What a command that fails tells at last. -/
def told (message : String) : String :=
  Display.shown terminalWidth (Markup.styled "red" ("✗ " ++ Markup.escape message))

/-- The stage when a command has ended: a failure is told. -/
def Stage.afterEnd (stage : Stage) : Except Stop Unit → Stage
  | .error (.failed message) => { stage with news := stage.news ++ told message }
  | _ => stage

/-- What is told before input values are read. -/
def announcement (path : PathName) : String :=
  Markup.styled "cyan" ("Loading inputs from" ++ ":") ++ " " ++ path.text

/-- A run fails, which is exit code one, and tells why at last. -/
def FailsWith (message : String) (ending : Except Stop Unit × Stage) : Prop :=
  ending.1 = .error (.failed message) ∧ ∃ news, ending.2.news = news ++ told message

/-- How a run ends where values are at fault: it fails in words, or crashes if the words
cannot be had. -/
def EndsAtFault (error : DecodeError) (ending : Except Stop Unit × Stage) : Prop :=
  match error.fault.refusal? with
  | none => FailsWith error.message ending
  | some refusal => ending.1 = .error (.crashed (.notWritten (.refused refusal)))

/-- How a run ends where a content cannot be read: at a decode error it fails in words, at
anything else it crashes. -/
def EndsAt (error : ContentError) (ending : Except Stop Unit × Stage) : Prop :=
  match error with
  | .decode error => FailsWith error.message ending
  | .notText fault => ending.1 = .error (.crashed (.notText fault))
  | .tooManyDigits count => ending.1 = .error (.crashed (.tooManyDigits count))
  | .tooDeep container => ending.1 = .error (.crashed (.tooDeep container))
  | .tomlTooDeep => ending.1 = .error (.crashed .tomlTooDeep)

/-- A command line that asks for a scope, on a stage where the configuration can be had. -/
structure Asked (machine : Machine) (stage : Stage) (arguments : List String) where
  request : Request
  operand : Option PathName
  config : Config
  understood : Request.ofArguments arguments = some request
  readsScope : request.scope? = some operand
  configured : (loadConfig (rehearsal machine)).run stage = (.ok config, stage)

/-- A command line has a file of this content read as a scope. -/
def ReadsScope (machine : Machine) (stage : Stage) (arguments : List String)
    (octets : List UInt8) : Prop :=
  ∃ (asked : Asked machine stage arguments) (path : PathName),
    (asked.operand <|> asked.config.scope) = some path ∧ stage.disk.read path = .ok octets

/-- A command line has a file of this name and content read for input values, once its scope
has been read and the name of the file been told. -/
def ReadsInputs (machine : Machine) (stage : Stage) (arguments : List String)
    (path : PathName) (octets : List UInt8) : Prop :=
  ∃ (asked : Asked machine stage arguments) (scope : Scope) (source : Source),
    (loadScope (rehearsal machine) asked.config asked.operand).run stage = (.ok scope, stage) ∧
    asked.request.source? = some source ∧ (source.inputs <|> asked.config.inputs) = some path ∧
    Markup.fault? (announcement path) = none ∧
    stage.disk.read path = .ok octets

section Runs

variable {machine : Machine} {stage stage' : Stage} {arguments : List String} {octets : List UInt8}
  {error : ContentError} {α β : Type}

theorem bind_apply (action : StateM Stage α) (next : α → StateM Stage β) (stage : Stage) :
    (action >>= next) stage = next (action stage).1 (action stage).2 := rfl

theorem run_bind_ok {action : Action (StateM Stage) α} {next : α → Action (StateM Stage) β}
    {value : α} (h : action.run stage = (.ok value, stage')) :
    (action >>= next).run stage = (next value).run stage' := by
  rw [ExceptT.run_bind, bind_apply, h]

theorem run_bind_error {action : Action (StateM Stage) α} {next : α → Action (StateM Stage) β}
    {stop : Stop} (h : action.run stage = (.error stop, stage')) :
    (action >>= next).run stage = (.error stop, stage') := by
  rw [ExceptT.run_bind, bind_apply, h]
  rfl

theorem run_tryCatch_error {action : Action (StateM Stage) α} {stop : Stop}
    (h : action.run stage = (.error stop, stage')) (handle : Stop → Action (StateM Stage) α) :
    (tryCatch action handle).run stage = (handle stop).run stage' := by
  rw [ExceptT.run_tryCatch, bind_apply, h]

/-- What is done with the content of a file that is there. -/
theorem run_read {path : PathName} {reason : FileError → Stop}
    {next : List UInt8 → Action (StateM Stage) α} (h : stage.disk.read path = .ok octets) :
    (do next (← orStop reason (← (rehearsal machine).read path)) : Action (StateM Stage) α).run
      stage = (next octets).run stage := by
  have hread : (liftM ((rehearsal machine).read path) : Action (StateM Stage) _).run stage =
      (.ok (stage.disk.read path), stage) := rfl
  rw [run_bind_ok hread, h]
  rfl

theorem loadScope_unreadable {config : Config} {operand : Option PathName} {path : PathName}
    (hpath : (operand <|> config.scope) = some path) (hread : stage.disk.read path = .ok octets)
    (h : Scope.ofFile machine octets = .error error) :
    (loadScope (rehearsal machine) config operand).run stage =
      (.error (stopOfContent error), stage) := by
  unfold loadScope
  simp only [hpath]
  have h : Scope.ofFile (rehearsal machine).machine octets = .error error := h
  rw [run_read hread, h]
  rfl

/-- A command that reads a scope ends where its scope cannot be read. -/
theorem perform_of_loadScope (asked : Asked machine stage arguments) {stop : Stop}
    (h : (loadScope (rehearsal machine) asked.config asked.operand).run stage =
      (.error stop, stage')) :
    (perform (rehearsal machine) asked.request).run stage = (.error stop, stage') := by
  obtain ⟨request, operand, config, _, hscope, hconfig⟩ := asked
  cases request with
  | evaluate scope source maxDepth asJson output =>
      cases hscope
      exact (run_bind_ok hconfig).trans (run_bind_error h)
  | check scope =>
      cases hscope
      exact (run_bind_ok hconfig).trans (run_bind_error h)
  | draw scope source maxDepth =>
      cases hscope
      exact (run_bind_ok hconfig).trans (run_bind_error h)
  | calculate => cases hscope
  | schema => cases hscope

/-- The context of the values in a file, or why there is none. -/
def valuesContext (machine : Machine) (path : PathName) (octets : List UInt8) :
    Except Stop Context := do
  let values ← (Input.readValues machine path octets).mapError stopOfContent
  (Context.ofValues machine values).mapError stopOfDecode

theorem run_orStop {ε : Type} (reason : ε → Stop) (result : Except ε α) (stage : Stage) :
    (orStop reason result : Action (StateM Stage) α).run stage =
      (result.mapError reason, stage) := by
  cases result <;> rfl

/-- Input values are told of, and then read. -/
theorem run_loadInputs {path : PathName} (hmarkup : Markup.fault? (announcement path) = none)
    (hread : stage.disk.read path = .ok octets) :
    ∃ stage', (loadInputs (rehearsal machine) (some path)).run stage =
      (valuesContext machine path octets, stage') := by
  have hannounce : ∃ news, (announce (rehearsal machine) "Loading inputs from" path).run stage =
      (.ok (), { stage with news }) := by
    have hline : announce (rehearsal machine) "Loading inputs from" path =
        printLine (rehearsal machine) .news (announcement path) := rfl
    rw [hline, printLine, hmarkup]
    exact ⟨_, rfl⟩
  obtain ⟨news, hannounce⟩ := hannounce
  have hread : ({ stage with news } : Stage).disk.read path = .ok octets := hread
  have hhost : (rehearsal machine).machine = machine := rfl
  have hvalues := run_orStop stopOfContent (Input.readValues machine path octets)
    { stage with news }
  refine ⟨{ stage with news }, ?_⟩
  unfold loadInputs valuesContext
  rw [run_bind_ok hannounce, run_read hread, hhost]
  cases hresult : Input.readValues machine path octets with
  | error error =>
      rw [hresult] at hvalues
      exact run_bind_error hvalues
  | ok values =>
      rw [hresult] at hvalues
      exact (run_bind_ok hvalues).trans (run_orStop _ _ _)

theorem perform_of_loadInputs (asked : Asked machine stage arguments) {scope : Scope}
    {source : Source}
    (hscope : (loadScope (rehearsal machine) asked.config asked.operand).run stage =
      (.ok scope, stage))
    (hsource : asked.request.source? = some source) {path : PathName}
    (hpath : (source.inputs <|> asked.config.inputs) = some path) {stop : Stop}
    (h : (loadInputs (rehearsal machine) (some path)).run stage = (.error stop, stage')) :
    ∃ stage'', (perform (rehearsal machine) asked.request).run stage = (.error stop, stage'') := by
  obtain ⟨request, operand, config, _, hoperand, hconfig⟩ := asked
  have hcontext : ∀ assignments, (scopeContext (rehearsal machine) scope
    (source.inputs <|> config.inputs)
      assignments).run stage = (.error stop, stage') := by
    intro assignments
    simp only at hpath
    rw [scopeContext, hpath]
    exact run_bind_error h
  cases request with
  | evaluate operand source' maxDepth asJson output =>
      cases hoperand
      cases hsource
      exact ⟨stage', (run_bind_ok hconfig).trans ((run_bind_ok hscope).trans
        (run_bind_error (hcontext _)))⟩
  | check operand => cases hsource
  | draw operand source' maxDepth =>
      cases hoperand
      cases hsource
      simp only at hpath hcontext
      have hsome : ¬((source.inputs <|> config.inputs).isNone ∧ source.assignments.isEmpty) := by
        rw [hpath]
        rintro ⟨⟨⟩, _⟩
      rw [perform, drawScope, run_bind_ok hconfig, run_bind_ok hscope]
      simp only [if_neg hsome]
      -- What is caught is thrown again, after the scope has been drawn.
      have hcaught : ∃ stage'', (tryCatch (scopeContext (rehearsal machine) scope
          (source.inputs <|> config.inputs) source.assignments) fun stop => do
            if stop.isFailure then printScope (rehearsal machine) scope []
            throw stop).run stage = (.error stop, stage'') := by
        rw [run_tryCatch_error (hcontext source.assignments)]
        cases stop <;> exact ⟨_, rfl⟩
      obtain ⟨stage'', hcaught⟩ := hcaught
      exact ⟨stage'', run_bind_error hcaught⟩
  | calculate => cases hoperand
  | schema => cases hoperand

/-- A command line ends as its command does, and a failure is told at last. -/
theorem run_of_perform (asked : Asked machine stage arguments) {ending : Except Stop Unit}
    (h : (perform (rehearsal machine) asked.request).run stage = (ending, stage')) :
    run (rehearsal machine) arguments stage = (ending, stage'.afterEnd ending) := by
  simp only [run, asked.understood, bind_apply, h]
  obtain stop | _ := ending
  · cases stop <;> rfl
  · rfl

/-- A command line that fails in its command tells why at last. -/
theorem failsWith_of_perform (asked : Asked machine stage arguments) {message : String}
    (h : (perform (rehearsal machine) asked.request).run stage =
      (.error (.failed message), stage')) :
    FailsWith message (run (rehearsal machine) arguments stage) := by
  rw [run_of_perform asked h]
  exact ⟨rfl, stage'.news, rfl⟩

theorem endsAtFault_of_perform (asked : Asked machine stage arguments) {error : DecodeError}
    (h : (perform (rehearsal machine) asked.request).run stage =
      (.error (stopOfDecode error), stage')) :
    EndsAtFault error (run (rehearsal machine) arguments stage) := by
  unfold EndsAtFault
  unfold stopOfDecode at h
  cases hrefusal : error.fault.refusal? with
  | none =>
      simp only [hrefusal] at h
      exact failsWith_of_perform asked h
  | some refusal =>
      simp only [hrefusal] at h
      simp only [run_of_perform asked h]

theorem endsAt_of_perform (asked : Asked machine stage arguments)
    (hsound : error.Sound machine octets)
    (h : (perform (rehearsal machine) asked.request).run stage =
      (.error (stopOfContent error), stage')) :
    EndsAt error (run (rehearsal machine) arguments stage) := by
  cases error with
  | decode fault =>
      have hends := endsAtFault_of_perform asked h
      have hwords : fault.fault.refusal? = none := hsound
      simp only [EndsAtFault, hwords] at hends
      exact hends
  | notText fault => rw [run_of_perform asked h]; rfl
  | tooManyDigits count => rw [run_of_perform asked h]; rfl
  | tooDeep container => rw [run_of_perform asked h]; rfl
  | tomlTooDeep => rw [run_of_perform asked h]; rfl

/-- A command line that has an unreadable scope read ends there. -/
theorem endsAt_of_readsScope (h : ReadsScope machine stage arguments octets)
    (herror : Scope.ofFile machine octets = .error error) :
    EndsAt error (run (rehearsal machine) arguments stage) := by
  obtain ⟨asked, path, hpath, hread⟩ := h
  have hload := loadScope_unreadable hpath hread herror
  exact endsAt_of_perform asked (scope_content_sound herror).1 (perform_of_loadScope asked hload)

/-- A command line that has input values read stops where there is no context of them. -/
theorem perform_of_readsInputs {path : PathName}
    (h : ReadsInputs machine stage arguments path octets) {stop : Stop}
    (hstop : valuesContext machine path octets = .error stop) :
    ∃ (asked : Asked machine stage arguments) (stage' : Stage),
      (perform (rehearsal machine) asked.request).run stage = (.error stop, stage') := by
  obtain ⟨asked, scope, source, hscope, hsource, hpath, hmarkup, hread⟩ := h
  obtain ⟨_, hload⟩ := run_loadInputs hmarkup hread
  rw [hstop] at hload
  exact ⟨asked, perform_of_loadInputs asked hscope hsource hpath hload⟩

/-- A command line that has unreadable input values read ends there. -/
theorem endsAt_of_readsInputs {path : PathName}
    (h : ReadsInputs machine stage arguments path octets)
    (herror : Input.readValues machine path octets = .error error) :
    EndsAt error (run (rehearsal machine) arguments stage) := by
  have hstop : valuesContext machine path octets = .error (stopOfContent error) := by
    rw [valuesContext, herror]
    rfl
  obtain ⟨asked, _, hperform⟩ := perform_of_readsInputs h hstop
  exact endsAt_of_perform asked (inputs_content_sound herror) hperform

/-- A command line that has values read which are no expressions ends there. -/
theorem endsAtFault_of_readsInputs {path : PathName} {values : List (String × Data)}
    {error : DecodeError} (h : ReadsInputs machine stage arguments path octets)
    (hvalues : Input.readValues machine path octets = .ok values)
    (herror : Context.ofValues machine values = .error error) :
    EndsAtFault error (run (rehearsal machine) arguments stage) := by
  have hstop : valuesContext machine path octets = .error (stopOfDecode error) := by
    have hcontext : (Context.ofValues machine values).mapError stopOfDecode =
        .error (stopOfDecode error) := by
      rw [herror]
      rfl
    rw [valuesContext, hvalues]
    exact hcontext
  obtain ⟨asked, _, hperform⟩ := perform_of_readsInputs h hstop
  exact endsAtFault_of_perform asked hperform

end Runs

end Command

/-- **How unreadable files are reported.** A scope file that cannot be read is reported by a
decode error in words, unless its content is no text or has a numeral of too many digits;
a file of input values is, unless its content also opens more containers than its reader
has room for. Values that were read but are no expressions are reported in words too,
unless the file is one of TOML and a value in it has no text as JSON, such as a date.
Content that is no text is never read and never reported so. A command that reads the file
fails with the words of the decode error, and crashes otherwise. -/
theorem unreadable_files_reported_or_obstructed (machine : Machine) (path : PathName)
    (octets : List UInt8) :
    (∀ error, Scope.ofFile machine octets = .error error →
      error.Sound machine octets ∧ ¬ error.IsTooDeep) ∧
    (∀ error, Input.readValues machine path octets = .error error →
      error.Sound machine octets) ∧
    (∀ values error, Input.readValues machine path octets = .ok values →
      Context.ofValues machine values = .error error → error.fault.refusal? = none ∨
        (path.suffix ≠ ".json" ∧ ∃ entry ∈ values, Json.refusal? entry.2 ≠ none)) ∧
    (∀ fault, Text.decodeUtf8 octets = .error fault →
      Scope.ofFile machine octets = .error (.notText fault) ∧
      Input.readValues machine path octets = .error (.notText fault)) ∧
    (∀ stage arguments error,
      Command.ReadsScope machine stage arguments octets ∧
          Scope.ofFile machine octets = .error error ∨
        Command.ReadsInputs machine stage arguments path octets ∧
          Input.readValues machine path octets = .error error →
      Command.EndsAt error (Command.run (Command.rehearsal machine) arguments stage)) ∧
    ∀ stage arguments values error,
      Command.ReadsInputs machine stage arguments path octets →
      Input.readValues machine path octets = .ok values →
      Context.ofValues machine values = .error error →
      Command.EndsAtFault error (Command.run (Command.rehearsal machine) arguments stage) := by
  refine ⟨fun _ => scope_content_sound, fun _ => inputs_content_sound,
    fun _ _ => refused_values, fun _ h => not_text_of_decodeUtf8 machine h path, ?_, ?_⟩
  · rintro stage arguments error (⟨hreads, herror⟩ | ⟨hreads, herror⟩)
    · exact Command.endsAt_of_readsScope hreads herror
    · exact Command.endsAt_of_readsInputs hreads herror
  · intro stage arguments values error hreads hvalues herror
    exact Command.endsAtFault_of_readsInputs hreads hvalues herror

/-- An octet that starts no character. -/
def strayOctet : List UInt8 := [0x80]

/-- A stage with a stray octet in the file of the scope. -/
def strayStage : Command.Stage :=
  ⟨⟨[("scope.json", .file strayOctet)], []⟩, "", ""⟩

theorem decodeUtf8_strayOctet :
    Text.decodeUtf8 strayOctet = .error ⟨.invalidStart, 0x80, 0, 1⟩ := rfl

theorem parse_scopeName : PathName.parse "scope.json" = ⟨"", ["scope.json"]⟩ := by
  have hsplit : "scope.json".splitOn "/" = ["scope.json"] := by
    rw [String.splitOn, if_neg (by decide)]
    iterate 10 rw [String.splitOnAux.eq_def, if_neg (by decide), if_neg (by decide)]
    rw [String.splitOnAux.eq_def, if_pos (by decide)]
    rfl
  rw [PathName.parse, hsplit]
  rfl

/-- The scope file of a stray octet is not reported, and checking it crashes. -/
theorem check_crashes_on_stray_octet :
    Scope.ofFile .standard strayOctet = .error (.notText ⟨.invalidStart, 0x80, 0, 1⟩) ∧
      (Command.run (Command.rehearsal .standard) ["check", "scope.json"] strayStage).1 =
        .error (.crashed (.notText ⟨.invalidStart, 0x80, 0, 1⟩)) := by
  have hreads : Command.ReadsScope .standard strayStage ["check", "scope.json"] strayOctet := by
    have hrequest : Command.Request.ofArguments ["check", "scope.json"] =
        (Command.Request.path? (some "scope.json")).bind fun path => some (.check path) := rfl
    refine ⟨⟨.check (some ⟨"", ["scope.json"]⟩), some ⟨"", ["scope.json"]⟩, .empty none, ?_, rfl,
      rfl⟩, ⟨"", ["scope.json"]⟩, rfl, rfl⟩
    rw [hrequest, Command.Request.path?, parse_scopeName]
    rfl
  obtain ⟨_, _, _, hstray, hends, _⟩ :=
    unreadable_files_reported_or_obstructed .standard (.parse "scope.json") strayOctet
  have hscope := (hstray _ decodeUtf8_strayOctet).1
  exact ⟨hscope, hends strayStage ["check", "scope.json"] _ (.inl ⟨hreads, hscope⟩)⟩

/-- A stray octet is read neither as a scope nor as input values, and no decode error is
reported. -/
theorem stray_octet_not_reported :
    ¬ ∀ (path : PathName) (octets : List UInt8),
      (∀ cs count, Text.decodeUtf8 octets = .ok cs → ¬ LongNumeral count cs) →
        ((∃ scope, Scope.ofFile .standard octets = .ok scope) ∨
          ∃ error, Scope.ofFile .standard octets = .error (.decode error)) ∧
        ((∃ values, Input.readValues .standard path octets = .ok values) ∨
          ∃ error, Input.readValues .standard path octets = .error (.decode error)) := by
  intro h
  have hstray := not_text_of_decodeUtf8 .standard decodeUtf8_strayOctet ⟨"", ["in.json"]⟩
  have hshort : ∀ cs count, Text.decodeUtf8 strayOctet = .ok cs → ¬ LongNumeral count cs := by
    rintro cs count ⟨⟩
  rcases (h ⟨"", ["in.json"]⟩ strayOctet hshort).2 with ⟨values, hvalues⟩ | ⟨error, herror⟩
  · cases hstray.2.symm.trans hvalues
  · cases hstray.2.symm.trans herror

end Rulebook
