import Rulebook.Proofs.DocumentPlaces
import Rulebook.Proofs.NestedDocument
import Rulebook.Proofs.ReadingOrder
import Rulebook.Proofs.ScopeDocument

/-!
Where a document is wrong.

The tasks of a value stand at places of few shapes (`Data.tasks_fit`): a part that is read is
there, and no other task lies at its place or below (`Data.IsPart.eq_nil`,
`Data.IsPart.not_isFault`). So the place of an error leads to what is wrong
(`Expr.place_of_error`), and the error is that of each expression on the way
(`Expr.decode_of_hasExpression`), while all that was read beside the way is an expression
(`Expr.on_the_way_of_isRead`). The calculations of a scope are read one by one until one fails
(`Scope.readMembers_error_iff`, `Scope.decode_error_iff`).
-/

namespace Rulebook

namespace Data

/-! ### Places of tasks -/

/-- The names of the fields that are read. -/
def fieldNames : List String :=
  ["ref", "type", "value", "if", "then", "else", "rules", "branchOn", "when", "otherwise"]

/-- The fields of a branch whose values are expressions. -/
def partNames : List String := ["if", "then", "else", "branchOn", "otherwise"]

/-- The fields of a branch whose values are lists of rules or cases. -/
def listNames : List String := ["rules", "when"]

theorem partNames_subset : partNames ⊆ fieldNames := by decide

theorem listNames_subset : listNames ⊆ fieldNames := by decide

theorem not_mem_listNames : ∀ name ∈ partNames, name ∉ listNames := by decide

theorem isPlain_of_mem_fieldNames : ∀ name ∈ fieldNames, (Segment.key name).IsPlain := by
  simp [fieldNames, Segment.IsPlain, isNameChar]

/-- The places of expressions in a branch. -/
inductive IsPartOfBranch : DataPath → Prop where
  | field {name : String} : name ∈ partNames → IsPartOfBranch [.key name]
  | element {list : String} {i : Nat} {step : Segment} : list ∈ listNames → step.IsPlain →
      IsPartOfBranch [.key list, .index i, step]

/-- The places of faults of a branch. -/
inductive IsFaultOfBranch : DataPath → Prop where
  | branch : IsFaultOfBranch []
  | list {list : String} : list ∈ listNames → IsFaultOfBranch [.key list]
  | element {list : String} {i : Nat} : list ∈ listNames → IsFaultOfBranch [.key list, .index i]

/-- The places of expressions one level below an expression. -/
inductive IsPart : DataPath → Prop where
  | inBranch {place : DataPath} : IsPartOfBranch place → IsPart (.key "value" :: place)

/-- The places of faults of an expression itself. -/
inductive IsFault : DataPath → Prop where
  | here : IsFault []
  | member {step : Segment} : step.IsPlain → IsFault [step]
  | inBranch {place : DataPath} : IsFaultOfBranch place → IsFault (.key "value" :: place)

/-- A task is there at a place of a shape: what is read is the part at its place. -/
def Task.FitsIn (parts faults : DataPath → Prop) (value : Data) : Task → Prop
  | .read place part => value.at? place = some part ∧ parts place
  | .report _ place => (∃ found, value.at? place = some found) ∧ faults place

section Fits

variable {parts faults : DataPath → Prop} {value sub : Data} {path : DataPath} {task : Task}
  {members body : List (String × Data)}

theorem Task.FitsIn.under (hsub : value.at? path = some sub)
    (h : task.FitsIn (fun place => parts (path ++ place)) (fun place => faults (path ++ place))
      sub) :
    (task.under path).FitsIn parts faults value := by
  cases task with
  | read place part =>
      refine ⟨?_, h.2⟩
      rw [at?_append, hsub]
      exact h.1
  | report fault place =>
      refine ⟨?_, h.2⟩
      rw [at?_append, hsub]
      exact h.1

theorem fits_fault (fault : DecodeFault) (h : faults []) :
    ∀ task ∈ [Task.report fault []], task.FitsIn parts faults value := by
  intro task mem
  cases List.mem_singleton.mp mem
  exact ⟨⟨value, rfl⟩, h⟩

theorem at?_key {name : String} (h : Members.get? members name = some value) :
    (object members).at? [.key name] = some value := by
  simp [at?, h]

theorem at?_index {items : List Data} {i : Nat} (h : items[i]? = some value) :
    (array items).at? [.index i] = some value := by
  simp [at?, h]

theorem fits_fault_at {name : String} (hget : Members.get? members name = some value)
    (fault : DecodeFault) (h : faults [.key name]) :
    ∀ task ∈ [Task.report fault [.key name]], task.FitsIn parts faults (.object members) := by
  intro task mem
  cases List.mem_singleton.mp mem
  exact ⟨⟨value, at?_key hget⟩, h⟩

theorem fits_fieldTask {name : String} (hpart : parts [.key name]) (hfault : faults []) :
    (fieldTask members name).FitsIn parts faults (.object members) := by
  unfold fieldTask
  cases hget : Members.get? members name with
  | none => exact ⟨⟨_, rfl⟩, hfault⟩
  | some part => exact ⟨at?_key hget, hpart⟩

theorem fits_fallbackTasks (hpart : parts [.key "otherwise"]) :
    ∀ task ∈ fallbackTasks members, task.FitsIn parts faults (.object members) := by
  unfold fallbackTasks
  cases hget : Members.get? members "otherwise" with
  | none => exact List.forall_mem_nil _
  | some part =>
      intro task mem
      cases List.mem_singleton.mp mem
      exact ⟨at?_key hget, hpart⟩

theorem fits_ruleTasks (hwhen : parts [.key "when"]) (hthen : parts [.key "then"])
    (hfault : faults []) (item : Data) :
    ∀ task ∈ ruleTasks item, task.FitsIn parts faults item := by
  cases item with
  | object members =>
      exact List.forall_mem_cons.mpr ⟨fits_fieldTask hwhen hfault,
        List.forall_mem_singleton.mpr (fits_fieldTask hthen hfault)⟩
  | _ => exact fits_fault _ hfault

theorem fits_caseTasks (hpart : ∀ i, parts [.index i]) (hfault : faults []) (item : Data) :
    ∀ task ∈ caseTasks item, task.FitsIn parts faults item := by
  unfold caseTasks
  split
  · exact List.forall_mem_cons.mpr ⟨⟨rfl, hpart 0⟩, List.forall_mem_singleton.mpr ⟨rfl, hpart 1⟩⟩
  · exact fits_fault _ hfault

theorem mem_itemTasks {tasks : Data → List Task} {index : Nat} {items : List Data}
    (mem : task ∈ itemTasks tasks index items) :
    ∃ i item, items[i]? = some item ∧ ∃ below ∈ tasks item,
      task = below.under [.index (index + i)] := by
  induction items generalizing index with
  | nil => cases mem
  | cons first items ih =>
      rcases List.mem_append.mp mem with mem | mem
      · obtain ⟨below, hbelow, rfl⟩ := List.mem_map.mp mem
        exact ⟨0, first, rfl, below, hbelow, rfl⟩
      · obtain ⟨i, item, hitem, below, hbelow, rfl⟩ := ih mem
        refine ⟨i + 1, item, hitem, below, hbelow, ?_⟩
        rw [Nat.add_right_comm, Nat.add_assoc]

/-- The items of a list fit if each fits at its place. -/
theorem fits_itemTasks {tasks : Data → List Task} {items : List Data} {list : String}
    (hget : Members.get? body list = some (.array items))
    (h : ∀ i item, ∀ task ∈ tasks item,
      task.FitsIn (fun place => parts (.key list :: .index i :: place))
        (fun place => faults (.key list :: .index i :: place)) item) :
    ∀ task ∈ (itemTasks tasks 0 items).map (Task.under [.key list]),
      task.FitsIn parts faults (.object body) := by
  intro task mem
  obtain ⟨inner, hinner, rfl⟩ := List.mem_map.mp mem
  obtain ⟨i, item, hitem, below, hbelow, rfl⟩ := mem_itemTasks hinner
  rw [Nat.zero_add]
  exact .under (at?_key hget) (.under (at?_index hitem) (h i item below hbelow))

theorem fits_ruleChainTasks {rules : Data} (hget : Members.get? body "rules" = some rules) :
    ∀ task ∈ ruleChainTasks body rules,
      task.FitsIn IsPartOfBranch IsFaultOfBranch (.object body) := by
  have hlist : "rules" ∈ listNames := by decide
  cases rules with
  | array items =>
      refine List.forall_mem_append.mpr ⟨fits_itemTasks hget fun i item => ?_,
        fits_fallbackTasks (.field (by decide))⟩
      have hplain := isPlain_of_mem_fieldNames
      exact fits_ruleTasks (.element hlist (hplain "when" (by decide)))
        (.element hlist (hplain "then" (by decide))) (.element hlist) item
  | _ => exact fits_fault_at hget _ (.list hlist)

theorem fits_finiteBranchTasks {subject : Data}
    (hget : Members.get? body "branchOn" = some subject) :
    ∀ task ∈ finiteBranchTasks body subject,
      task.FitsIn IsPartOfBranch IsFaultOfBranch (.object body) := by
  have hlist : "when" ∈ listNames := by decide
  unfold finiteBranchTasks
  cases hwhen : Members.get? body "when" with
  | none => exact fits_fault _ .branch
  | some cases =>
      cases cases with
      | array items =>
          refine List.forall_mem_cons.mpr ⟨⟨at?_key hget, .field (by decide)⟩, ?_⟩
          refine List.forall_mem_append.mpr ⟨fits_itemTasks hwhen fun i item => ?_,
            fits_fallbackTasks (.field (by decide))⟩
          exact fits_caseTasks (fun _ => .element hlist trivial) (.element hlist) item
      | _ => exact fits_fault_at hwhen _ (.list hlist)

theorem fits_branchTasks (value : Data) :
    ∀ task ∈ branchTasks value, task.FitsIn IsPartOfBranch IsFaultOfBranch value := by
  have hfield : ∀ name ∈ partNames, ∀ body,
      (fieldTask body name).FitsIn IsPartOfBranch IsFaultOfBranch (.object body) :=
    fun name mem body => fits_fieldTask (.field mem) .branch
  cases value with
  | object body =>
      simp only [branchTasks]
      cases Members.has body "if" with
      | true =>
          exact List.forall_mem_cons.mpr ⟨hfield "if" (by decide) body,
            List.forall_mem_cons.mpr ⟨hfield "then" (by decide) body,
              List.forall_mem_singleton.mpr (hfield "else" (by decide) body)⟩⟩
      | false =>
          cases hrules : Members.get? body "rules" with
          | some rules => exact fits_ruleChainTasks hrules
          | none =>
              cases hsubject : Members.get? body "branchOn" with
              | some subject => exact fits_finiteBranchTasks hsubject
              | none => exact fits_fault _ .branch
  | _ => exact fits_fault _ .branch

theorem fits_objectTasks (members : List (String × Data)) :
    ∀ task ∈ objectTasks members, task.FitsIn IsPart IsFault (.object members) := by
  unfold objectTasks
  split
  · exact List.forall_mem_nil _
  · next href =>
      exact fits_fault_at href _ (.member (isPlain_of_mem_fieldNames "ref" (by decide)))
  · split
    · cases hvalue : Members.get? members "value" with
      | none => exact fits_fault _ .here
      | some value =>
          intro task mem
          obtain ⟨below, hbelow, rfl⟩ := List.mem_map.mp mem
          have hfits := fits_branchTasks value below hbelow
          refine .under (at?_key hvalue) ?_
          cases below with
          | read place part => exact ⟨hfits.1, .inBranch hfits.2⟩
          | report fault place => exact ⟨hfits.1, .inBranch hfits.2⟩
    · next htype =>
        exact fits_fault_at htype _ (.member (isPlain_of_mem_fieldNames "type" (by decide)))
    · exact fits_fault _ .here

/-- The tasks of a value are there, at places of parts and faults. -/
theorem tasks_fit (value : Data) : ∀ task ∈ value.tasks, task.FitsIn IsPart IsFault value := by
  cases value with
  | string s => exact List.forall_mem_nil _
  | bool b => exact List.forall_mem_nil _
  | null => exact fits_fault _ .here
  | moment m => exact fits_fault _ .here
  | array items => exact fits_fault _ .here
  | object members => exact fits_objectTasks members
  | int n =>
      simp only [tasks]
      cases (Literal.ofInt? n).isSome with
      | true => exact List.forall_mem_nil _
      | false => exact fits_fault _ .here
  | float x =>
      simp only [tasks]
      cases x.isFinite with
      | true => exact List.forall_mem_nil _
      | false => exact fits_fault _ .here

end Fits

/-! ### Shapes of places -/

section Shapes

variable {place rest : DataPath}

theorem IsPart.isPlain (h : IsPart place) : ∀ step ∈ place, step.IsPlain := by
  have hvalue := isPlain_of_mem_fieldNames "value" (by decide)
  obtain ⟨hbranch⟩ := h
  cases hbranch with
  | field mem =>
      have hname := isPlain_of_mem_fieldNames _ (partNames_subset mem)
      simp [hname, hvalue]
  | element mem hstep =>
      have hlist := isPlain_of_mem_fieldNames _ (listNames_subset mem)
      simp [hlist, hstep, hvalue]

theorem IsFault.isPlain (h : IsFault place) : ∀ step ∈ place, step.IsPlain := by
  have hvalue := isPlain_of_mem_fieldNames "value" (by decide)
  cases h with
  | here => exact List.forall_mem_nil _
  | member hstep => exact List.forall_mem_singleton.mpr hstep
  | inBranch hbranch =>
      cases hbranch with
      | branch => exact List.forall_mem_singleton.mpr hvalue
      | list mem =>
          have hlist := isPlain_of_mem_fieldNames _ (listNames_subset mem)
          simp [hlist, hvalue]
      | element mem =>
          have hlist := isPlain_of_mem_fieldNames _ (listNames_subset mem)
          simp [hlist, hvalue]

/-- No fault of an expression itself lies at a part or below. -/
theorem IsPart.not_isFault (h : IsPart place) : ¬ IsFault (place ++ rest) := by
  obtain ⟨hbranch⟩ := h
  intro hfault
  cases hbranch with
  | field mem =>
      rcases hfault with _ | _ | (_ | hlist | hlist)
      · exact not_mem_listNames _ mem hlist
      · exact not_mem_listNames _ mem hlist
  | element => rcases hfault with _ | _ | (_ | _ | _)

/-- No part lies below another one. -/
theorem IsPart.eq_nil (h : IsPart place) (hrest : IsPart (place ++ rest)) : rest = [] := by
  obtain ⟨hbranch⟩ := h
  obtain ⟨hrest⟩ := hrest
  cases hbranch with
  | field mem =>
      rcases hrest with _ | ⟨hlist, _⟩
      · rfl
      · exact absurd hlist (not_mem_listNames _ mem)
  | element =>
      cases hrest
      rfl

end Shapes

/-! ### Expressions in a value -/

/-- An expression stands at a place in a value: step by step it is a part that is to be
read. -/
inductive HasExpression : (value : Data) → DataPath → (part : Data) → Prop where
  | here {value : Data} : HasExpression value [] value
  | inside {value sub part : Data} {place rest : DataPath} : .read place sub ∈ value.tasks →
      HasExpression sub rest part → HasExpression value (place ++ rest) part

/-- Reading a value with so many levels left comes to reading a part at a place: on the way
there, no task before the one that leads on fails. -/
inductive IsRead : (levels : Nat) → (value : Data) → DataPath → (part : Data) → Prop where
  | here {levels : Nat} {value : Data} : IsRead levels value [] value
  | inside {levels : Nat} {value sub part : Data} {before after : List Task}
      {place rest : DataPath} : value.tasks = before ++ .read place sub :: after →
      (∀ task ∈ before, task.error? (Expr.decodeWithin levels) [] = none) →
      IsRead levels sub rest part → IsRead (levels + 1) value (place ++ rest) part

end Data

namespace Expr

open Data

section Errors

variable {levels : Nat} {value part : Data} {error : DecodeError} {place rest suffix : DataPath}

/-- What is read by itself is read at every place. -/
theorem decodeWithin_ok_iff (path : DataPath) :
    (∃ e, decodeWithin levels path value = .ok e) ↔
      ∃ e, decodeWithin levels [] value = .ok e := by
  rw [← errorOf_eq_none_iff, ← errorOf_eq_none_iff, errorOf_decodeWithin_path,
    Option.map_eq_none_iff]

theorem decodeWithin_error_iff (path : DataPath) :
    decodeWithin levels path value = .error error ↔
      ∃ alone, decodeWithin levels [] value = .error alone ∧ alone.under path = error := by
  rw [← errorOf_eq_some_iff, errorOf_decodeWithin_path, Option.map_eq_some_iff]
  simp only [errorOf_eq_some_iff]

/-- The first task that fails is what reading a value reports. -/
theorem exists_task_of_error (h : decodeWithin (levels + 1) [] value = .error error) :
    ∃ task ∈ value.tasks, task.error? (decodeWithin levels) [] = some error := by
  have hfirst := (errorOf_decodeWithin_succ levels [] value).symm.trans (errorOf_eq_some_iff.mpr h)
  exact List.exists_of_findSome?_eq_some hfirst

theorem error?_read_eq_some_iff :
    (Task.read place part).error? (decodeWithin levels) [] = some error ↔
      ∃ alone, decodeWithin levels [] part = .error alone ∧ alone.under place = error := by
  rw [Task.error?, errorOf_eq_some_iff, decodeWithin_error_iff, List.nil_append]

/-- Where no task before a part fails and the part does, its error is what is reported. -/
theorem decodeWithin_of_part_error {before after : List Task} {alone : DecodeError}
    (htasks : value.tasks = before ++ .read place part :: after)
    (hbefore : ∀ task ∈ before, task.error? (decodeWithin levels) [] = none)
    (halone : decodeWithin levels [] part = .error alone) :
    decodeWithin (levels + 1) [] value = .error (alone.under place) := by
  rw [← errorOf_eq_some_iff, errorOf_decodeWithin_succ, htasks, List.findSome?_append,
    List.findSome?_eq_none_iff.mpr hbefore, List.findSome?_cons,
    error?_read_eq_some_iff.mpr ⟨alone, halone, rfl⟩]
  rfl

/-- The place of an error is there, and can be read back from its text. -/
theorem place_of_error (h : decodeWithin levels [] value = .error error) :
    (∃ found, value.at? error.path = some found) ∧ ∀ step ∈ error.path, step.IsPlain := by
  induction levels generalizing value error with
  | zero =>
      cases h
      exact ⟨⟨value, rfl⟩, List.forall_mem_nil _⟩
  | succ levels ih =>
      obtain ⟨task, mem, htask⟩ := exists_task_of_error h
      have hfits := tasks_fit value task mem
      cases task with
      | report fault place =>
          cases htask
          exact ⟨hfits.1, hfits.2.isPlain⟩
      | read place part =>
          obtain ⟨alone, halone, rfl⟩ := error?_read_eq_some_iff.mp htask
          obtain ⟨⟨found, hfound⟩, hplain⟩ := ih halone
          refine ⟨⟨found, ?_⟩, List.forall_mem_append.mpr ⟨hfits.2.isPlain, hplain⟩⟩
          rw [DecodeError.under, at?_append, hfits.1]
          exact hfound

theorem decodeWithin_of_le (hlevels : levels ≤ defaultMaxDepth + 1) {e : Expr}
    (h : decodeWithin levels [] value = .ok e) :
    decodeWithin (defaultMaxDepth + 1) [] value = .ok e := by
  rcases decodeWithin_cutShort_of_le hlevels [] value with heq | ⟨path, hdeep⟩
  · exact heq.symm.trans h
  · cases hdeep.symm.trans h

/-- What is read is an expression, unless it lies on the way to the error. -/
theorem on_the_way_of_isRead (hread : IsRead levels value place part)
    (hlevels : levels ≤ defaultMaxDepth + 1) :
    ((∃ e, decodeWithin levels [] value = .ok e) →
      ∃ e, decodeWithin (defaultMaxDepth + 1) [] part = .ok e) ∧
      ∀ error, decodeWithin levels [] value = .error error →
        place <+: error.path ∨ ∃ e, decodeWithin (defaultMaxDepth + 1) [] part = .ok e := by
  induction hread with
  | here =>
      refine ⟨?_, fun _ _ => .inl List.nil_prefix⟩
      rintro ⟨e, he⟩
      exact ⟨e, decodeWithin_of_le hlevels he⟩
  | @inside levels value sub part before after place rest htasks hbefore _ ih =>
      obtain ⟨hok, herror⟩ := ih (Nat.le_of_succ_le hlevels)
      cases hsub : decodeWithin levels [] sub with
      | ok e =>
          have hpart := hok ⟨e, hsub⟩
          exact ⟨fun _ => hpart, fun _ _ => .inr hpart⟩
      | error alone =>
          have hvalue := decodeWithin_of_part_error htasks hbefore hsub
          refine ⟨?_, ?_⟩
          · rintro ⟨e, he⟩
            cases hvalue.symm.trans he
          · intro error h
            cases hvalue.symm.trans h
            exact (herror alone hsub).imp_left (List.prefix_append_right_inj place).mpr

/-- Each expression on the way to an error has that error by itself, unless it is the nesting
limit. -/
theorem decodeWithin_of_hasExpression (hpart : HasExpression value place part)
    (hlevels : levels ≤ defaultMaxDepth + 1) (h : decodeWithin levels [] value = .error error)
    (hshallow : ∀ limit, error.fault ≠ .tooDeep limit) (hpath : error.path = place ++ suffix) :
    decodeWithin (defaultMaxDepth + 1) [] part = .error ⟨error.fault, suffix⟩ := by
  induction hpart generalizing levels error with
  | here =>
      obtain ⟨fault, path⟩ := error
      cases hpath
      rcases decodeWithin_cutShort_of_le hlevels [] _ with heq | ⟨path, hdeep⟩
      · exact heq.symm.trans h
      · cases hdeep.symm.trans h
        exact absurd rfl (hshallow defaultMaxDepth)
  | @inside value sub part place rest mem _ ih =>
      cases levels with
      | zero =>
          cases h
          exact absurd rfl (hshallow defaultMaxDepth)
      | succ levels =>
          obtain ⟨task, mem', htask⟩ := exists_task_of_error h
          have hfits := tasks_fit value _ mem
          have hfits' := tasks_fit value task mem'
          rw [List.append_assoc] at hpath
          cases task with
          | report fault place' =>
              cases htask
              subst hpath
              exact absurd hfits'.2 hfits.2.not_isFault
          | read place' sub' =>
              obtain ⟨alone, halone, rfl⟩ := error?_read_eq_some_iff.mp htask
              have hsame : place' = place := by
                rcases List.append_eq_append_iff.mp hpath with ⟨more, rfl, _⟩ | ⟨more, rfl, _⟩
                · rw [hfits'.2.eq_nil hfits.2, List.append_nil]
                · rw [hfits.2.eq_nil hfits'.2, List.append_nil]
              subst hsame
              cases hfits.1.symm.trans hfits'.1
              have hinside := ih (Nat.le_of_succ_le hlevels) halone hshallow
                (List.append_cancel_left hpath)
              exact hinside

variable {machine : Machine}

/-- What is not decoded is not read, unless the stack gives out. -/
theorem decode_error_cases (h : decode machine value = .error error) :
    error = ⟨.outOfStack, []⟩ ∨ decodeWithin (defaultMaxDepth + 1) [] value = .error error := by
  cases hdecodes : machine.decodes value with
  | true =>
      rw [decode, decodeAt_of_decodes hdecodes] at h
      exact .inr h
  | false =>
      rw [decode, decodeAt_of_not_decodes hdecodes] at h
      cases h
      exact .inl rfl

/-- What is decoded by itself is decoded at every place. -/
theorem decodeAt_ok_iff (path : DataPath) :
    (∃ e, decodeAt machine path value = .ok e) ↔ ∃ e, decode machine value = .ok e := by
  simp only [decode, decodeAt_eq_ok_iff, exists_and_left, decodeWithin_ok_iff path]

theorem decodeAt_error_iff (path : DataPath) :
    decodeAt machine path value = .error error ↔
      ∃ alone, decode machine value = .error alone ∧ alone.under path = error := by
  cases hdecodes : machine.decodes value with
  | true =>
      simp only [decode, decodeAt_of_decodes hdecodes]
      exact decodeWithin_error_iff path
  | false =>
      simp [decode, decodeAt_of_not_decodes hdecodes, faultAt, DecodeError.under]

end Errors

end Expr

/-! ### Calculations -/

namespace Scope

section Layout

variable {machine : Machine} {value : Data} {layout : Layout}

/-- The calculations of a document are what stands under that name, each name once. -/
theorem calculations_at (h : Layout.read value = .ok layout) :
    ∃ listed, value.at? [.key "calculations"] = some (.object listed) ∧
      layout.calculations = Members.ofList listed := by
  obtain ⟨members, listed, rfl, hget, hlisted⟩ := listed_of_layout h
  exact ⟨listed, Data.at?_key hget, hlisted⟩

/-- A scope whose layout is read fails at its first calculation that is no expression, with the
error that this has by itself, seen from the scope. -/
theorem decode_error_iff (h : Layout.read value = .ok layout) {error : DecodeError} :
    decode machine value = .error error ↔
      ∃ before name raw after alone, layout.calculations = before ++ (name, raw) :: after ∧
        (∀ earlier ∈ before, ∃ e, Expr.decode machine earlier.2 = .ok e) ∧
        Expr.decode machine raw = .error alone ∧
        error = alone.under [.key "calculations", .key name] := by
  have hread : decode machine value = .error error ↔
      readMembers (readCalculation machine) layout.calculations = .error error := by
    rw [decode, h]
    change readMembers (readCalculation machine) layout.calculations >>= _ = _ ↔ _
    refine bind_eq_error_iff.trans (or_iff_left ?_)
    rintro ⟨_, _, ⟨⟩⟩
  rw [hread, readMembers_error_iff]
  constructor
  · rintro ⟨before, name, raw, after, heq, hbefore, herror⟩
    obtain ⟨alone, halone, rfl⟩ := (Expr.decodeAt_error_iff _).mp herror
    refine ⟨before, name, raw, after, alone, heq, fun earlier mem => ?_, halone, rfl⟩
    exact (Expr.decodeAt_ok_iff _).mp (hbefore earlier mem)
  · rintro ⟨before, name, raw, after, alone, heq, hbefore, halone, rfl⟩
    refine ⟨before, name, raw, after, heq, fun earlier mem => ?_, ?_⟩
    · exact (Expr.decodeAt_ok_iff _).mpr (hbefore earlier mem)
    · exact (Expr.decodeAt_error_iff _).mpr ⟨alone, halone, rfl⟩

end Layout

end Scope

/-- The text of a place below two members of the root. -/
theorem DataPath.text_below (first second : String) (path : DataPath) :
    ∃ below, path.text = "$" ++ below ∧
      DataPath.text ([.key first, .key second] ++ path) =
        "$." ++ first ++ "." ++ second ++ below := by
  refine ⟨String.ofList (path.flatMap fun step => step.text.toList), ?_, ?_⟩
  · rw [← String.toList_inj, DataPath.toList_text]
    simp
  · rw [← String.toList_inj, DataPath.toList_text]
    simp [Segment.text]

/-- **Errors point at what is wrong.** Reading a value reports the first of its tasks that fails.
The place of an error is read back from its text, and something stands there. Unless the stack
gives out, whatever was read before is an expression by itself, unless it lies on the way to
that place. Unless the error is one of the nesting limits, each expression on the way, so the
innermost one too, has the same error by itself, at what is left of the place. A scope whose
layout is read fails exactly at the first of its calculations that is no expression, and the
place of the error is that of the calculation, followed by the place of the error it has by
itself. -/
theorem errors_point_at_what_is_wrong (machine : Machine) (value : Data) :
    (∀ levels path, Follows (Expr.decodeWithin levels) path
      (Expr.decodeWithin (levels + 1) path value) value.tasks) ∧
    (∀ error, Expr.decode machine value = .error error →
      (DataPath.ofText? error.path.text = some error.path ∧
        ∃ found, value.at? error.path = some found) ∧
      (error.fault ≠ .outOfStack →
        ∀ place part, Data.IsRead (defaultMaxDepth + 1) value place part →
          place <+: error.path ∨
            (machine.decodes part = true → ∃ e, Expr.decode machine part = .ok e)) ∧
      (error.fault ≠ .outOfStack → (∀ limit, error.fault ≠ .tooDeep limit) →
        ∀ place part suffix, Data.HasExpression value place part → error.path = place ++ suffix →
          machine.decodes part = true →
            Expr.decode machine part = .error ⟨error.fault, suffix⟩)) ∧
    ∀ layout, Scope.Layout.read value = .ok layout →
      (∃ listed, value.at? [.key "calculations"] = some (.object listed) ∧
        layout.calculations = Members.ofList listed) ∧
      ∀ error, Scope.decode machine value = .error error ↔
        ∃ before name raw after alone, layout.calculations = before ++ (name, raw) :: after ∧
          (∀ earlier ∈ before, ∃ e, Expr.decode machine earlier.2 = .ok e) ∧
          Expr.decode machine raw = .error alone ∧ error.fault = alone.fault ∧
          error.path = [.key "calculations", .key name] ++ alone.path ∧
          ∃ below, alone.path.text = "$" ++ below ∧
            error.path.text = "$.calculations." ++ name ++ below := by
  refine ⟨fun levels path => Expr.errorOf_decodeWithin_succ levels path value,
    fun error h => ?_, fun layout h => ⟨Scope.calculations_at h, fun error => ?_⟩⟩
  · rcases Expr.decode_error_cases h with rfl | hread
    · exact ⟨⟨DataPath.ofText?_text (List.forall_mem_nil _), value, rfl⟩, (absurd rfl ·),
        (absurd rfl ·)⟩
    · refine ⟨?_, fun _ place part hpart => ?_, fun _ hshallow place part suffix hpart hpath => ?_⟩
      · obtain ⟨hfound, hplain⟩ := Expr.place_of_error hread
        exact ⟨DataPath.ofText?_text hplain, hfound⟩
      · refine ((Expr.on_the_way_of_isRead hpart (Nat.le_refl _)).2 error hread).imp_right ?_
        rintro ⟨e, he⟩ hdecodes
        exact ⟨e, Expr.decodeAt_eq_ok_iff.mpr ⟨hdecodes, he⟩⟩
      · intro hdecodes
        rw [Expr.decode, Expr.decodeAt_of_decodes hdecodes]
        exact Expr.decodeWithin_of_hasExpression hpart (Nat.le_refl _) hread hshallow hpath
  · rw [Scope.decode_error_iff h]
    constructor
    · rintro ⟨before, name, raw, after, alone, heq, hbefore, halone, rfl⟩
      obtain ⟨below, hbelow, htext⟩ := DataPath.text_below "calculations" name alone.path
      exact ⟨before, name, raw, after, alone, heq, hbefore, halone, rfl, rfl, below, hbelow, htext⟩
    · rintro ⟨before, name, raw, after, alone, heq, hbefore, halone, hfault, hpath, -⟩
      obtain ⟨fault, path⟩ := error
      cases hfault
      cases hpath
      exact ⟨before, name, raw, after, alone, heq, hbefore, halone, rfl⟩

/-- A branch inside the condition of the second rule of a branch, whose result is a reference to
a number. -/
def nestedOffence : Data :=
  let branch (body : List (String × Data)) : Data :=
    .object [("type", .string "branch"), ("value", .object body)]
  branch [("rules", .array [
    .object [("when", .bool true), ("then", .string "free")],
    .object [
      ("when", branch [("if", .bool true), ("then", .object [("ref", .int 1)]), ("else", .int 2)]),
      ("then", .string "paid")]])]

/-- The reference is what is wrong: it has the error by itself. -/
theorem nested_offence_pointed_at :
    Expr.decode .standard nestedOffence = .error ⟨.referenceNotString (.int 1),
      [.key "value", .key "rules", .index 1, .key "when", .key "value", .key "then",
        .key "ref"]⟩ ∧
    Expr.decode .standard (.object [("ref", .int 1)]) =
      .error ⟨.referenceNotString (.int 1), [.key "ref"]⟩ := by
  have herror : Expr.decode .standard nestedOffence = .error ⟨.referenceNotString (.int 1),
      [.key "value", .key "rules", .index 1, .key "when", .key "value", .key "then",
        .key "ref"]⟩ := by
    rw [Expr.decode, Expr.decodeAt_of_decodes (Machine.decodes_standard _)]
    rfl
  have hreference : Data.HasExpression nestedOffence ([.key "value", .key "rules", .index 1,
      .key "when"] ++ ([.key "value", .key "then"] ++ [])) (.object [("ref", .int 1)]) :=
    .inside (.tail _ (.tail _ (.head _))) (.inside (.tail _ (.head _)) .here)
  obtain ⟨-, -, halone⟩ := (errors_point_at_what_is_wrong .standard nestedOffence).2.1 _ herror
  refine ⟨herror, halone ?_ ?_ _ _ [.key "ref"] hreference rfl (Machine.decodes_standard _)⟩
  · rintro ⟨⟩
  · rintro limit ⟨⟩

end Rulebook
