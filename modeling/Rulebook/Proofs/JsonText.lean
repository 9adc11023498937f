import Rulebook.Data.Depth
import Rulebook.Data.Digits
import Rulebook.Json.Reading
import Rulebook.Proofs.JsonLexeme

/-!
JSON text is read as it was written.

Under every layout a value is found again in its text, as long as the value names
each member of an object once, holds no integer of too many digits, and nests no
deeper than the reader follows (`parse_text`). The induction is over the value, with
the containers around it as the state of the reader; deeper values are refused, never
misread.
-/

namespace Rulebook

namespace Data

mutual

/-- Objects name each member once, integers have no more digits than are read, and there
are no moments. -/
def Readable : Data → Prop
  | .int n => n.natAbs < Nat.pow 10 maxDigits
  | .moment _ => False
  | .array items => ItemsReadable items
  | .object members => (Members.names members).Nodup ∧ MembersReadable members
  | _ => True

/-- Every item is readable. -/
def ItemsReadable : List Data → Prop
  | [] => True
  | item :: rest => item.Readable ∧ ItemsReadable rest

/-- The value of every member is readable. -/
def MembersReadable : List (String × Data) → Prop
  | [] => True
  | (_, value) :: rest => value.Readable ∧ MembersReadable rest

end

mutual

/-- What a table can hold: readable, and no null anywhere. -/
def Tabular : Data → Prop
  | .null | .moment _ => False
  | .int n => n.natAbs < Nat.pow 10 maxDigits
  | .array items => ItemsTabular items
  | .object members => (Members.names members).Nodup ∧ MembersTabular members
  | _ => True

/-- A table can hold every item. -/
def ItemsTabular : List Data → Prop
  | [] => True
  | item :: rest => item.Tabular ∧ ItemsTabular rest

/-- A table can hold the value of every member. -/
def MembersTabular : List (String × Data) → Prop
  | [] => True
  | (_, value) :: rest => value.Tabular ∧ MembersTabular rest

end

mutual

theorem Tabular.readable {value : Data} (h : value.Tabular) : value.Readable := by
  match value with
  | .null => trivial
  | .bool b => trivial
  | .int n => exact h
  | .float x => trivial
  | .string s => trivial
  | .moment m => exact h
  | .array items => exact ItemsTabular.readable h
  | .object members => exact ⟨h.1, MembersTabular.readable h.2⟩

theorem ItemsTabular.readable {items : List Data} (h : ItemsTabular items) :
    ItemsReadable items := by
  match items with
  | [] => trivial
  | item :: items => exact ⟨Tabular.readable h.1, ItemsTabular.readable h.2⟩

theorem MembersTabular.readable {members : List (String × Data)} (h : MembersTabular members) :
    MembersReadable members := by
  match members with
  | [] => trivial
  | (name, value) :: members => exact ⟨Tabular.readable h.1, MembersTabular.readable h.2⟩

end

end Data

namespace Json

/-! ### Runs of the reader -/

/-- From one state before a text, the reader comes to another before its rest. -/
def Leads (room : Nat) (state : State) (cs : List Char) (state' : State)
    (rest : List Char) : Prop :=
  ∀ bound, cs.length ≤ bound → ∃ bound', rest.length ≤ bound' ∧
    run room state (lexemesUpTo bound cs) = run room state' (lexemesUpTo bound' rest)

/-- The text opens more containers than the reader follows. -/
def Overflows (room : Nat) (state : State) (cs : List Char) : Prop :=
  ∀ bound, cs.length ≤ bound →
    ∃ container, run room state (lexemesUpTo bound cs) = .error (.tooDeep container)

/-- The reader gets through a text in which at most `open` containers are open at
once, unless that is too many. -/
def Reads (room depth : Nat) (state : State) (cs : List Char) (state' : State) (rest : List Char) :
    Prop :=
  (depth ≤ room ∧ Leads room state cs state' rest) ∨ (room < depth ∧ Overflows room state cs)

section Runs

variable {room : Nat} {state state' state'' : State} {cs mid rest : List Char} {depth depth' : Nat}

theorem Leads.trans (first : Leads room state cs state' mid)
    (second : Leads room state' mid state'' rest) :
    Leads room state cs state'' rest := by
  intro bound hbound
  obtain ⟨bound', hbound', hfirst⟩ := first bound hbound
  obtain ⟨bound'', hbound'', hsecond⟩ := second bound' hbound'
  exact ⟨bound'', hbound'', hfirst.trans hsecond⟩

theorem Leads.overflows (first : Leads room state cs state' mid)
    (second : Overflows room state' mid) :
    Overflows room state cs := by
  intro bound hbound
  obtain ⟨bound', hbound', hfirst⟩ := first bound hbound
  obtain ⟨container, hsecond⟩ := second bound' hbound'
  exact ⟨container, hfirst.trans hsecond⟩

theorem Leads.reads (first : Leads room state cs state' mid)
    (second : Reads room depth state' mid state'' rest) :
    Reads room depth state cs state'' rest := by
  rcases second with ⟨hdepth, hsecond⟩ | ⟨hdepth, hsecond⟩
  · exact .inl ⟨hdepth, first.trans hsecond⟩
  · exact .inr ⟨hdepth, first.overflows hsecond⟩

theorem Reads.trans (first : Reads room depth state cs state' mid)
    (second : Reads room depth' state' mid state'' rest) :
    Reads room (max depth depth') state cs state'' rest := by
  rcases first with ⟨hdepth, hfirst⟩ | ⟨hdepth, hfirst⟩
  · rcases second with ⟨hdepth', hsecond⟩ | ⟨hdepth', hsecond⟩
    · exact .inl ⟨Nat.max_le.mpr ⟨hdepth, hdepth'⟩, hfirst.trans hsecond⟩
    · exact .inr ⟨by omega, hfirst.overflows hsecond⟩
  · exact .inr ⟨by omega, hfirst⟩

theorem Reads.of_eq (h : Reads room depth state cs state' rest) (heq : depth = depth') :
    Reads room depth' state cs state' rest :=
  heq ▸ h

/-! ### Blanks and lexemes -/

theorem leads_blank {c : Char} (h : isBlank c = true) :
    Leads room state (c :: rest) state rest := by
  intro bound hbound
  obtain ⟨bound, rfl⟩ : ∃ n, bound = n + 1 := ⟨bound - 1, by simp at hbound; omega⟩
  refine ⟨bound, Nat.le_of_succ_le_succ hbound, ?_⟩
  simp only [lexemesUpTo, h, if_true]

theorem leads_spaces (count : Nat) :
    Leads room state (List.replicate count ' ' ++ rest) state rest := by
  induction count with
  | zero =>
      intro bound hbound
      exact ⟨bound, hbound, rfl⟩
  | succ count ih => exact (leads_blank rfl).trans ih

theorem leads_newline (layout : Layout) (level : Nat) :
    Leads room state (layout.newline level rest) state rest := by
  cases layout with
  | line => exact leads_spaces 0
  | indented width => exact (leads_blank rfl).trans (leads_spaces _)

/-- A text that starts with a lexeme. -/
def StartsLexeme (cs : List Char) : Prop :=
  ∃ c tail, cs = c :: tail ∧ isBlank c = false ∧ c ≠ '\ufeff'

theorem lexemesUpTo_of_startsLexeme {lexeme : Lexeme} {bound : Nat} (hstart : StartsLexeme cs)
    (hscan : scanLexeme cs = (lexeme, rest)) (hbound : cs.length ≤ bound) :
    ∃ bound', bound = bound' + 1 ∧
      lexemesUpTo bound cs = (lexeme, cs) :: lexemesUpTo bound' rest := by
  obtain ⟨c, tail, rfl, hblank, _⟩ := hstart
  obtain ⟨bound, rfl⟩ : ∃ n, bound = n + 1 := ⟨bound - 1, by simp at hbound; omega⟩
  refine ⟨bound, rfl, ?_⟩
  simp only [lexemesUpTo, hblank, hscan]
  rfl

theorem leads_lexeme {lexeme : Lexeme} (hstart : StartsLexeme cs)
    (hscan : scanLexeme cs = (lexeme, rest)) (hshort : rest.length < cs.length)
    (hstep : step room state lexeme cs = .ok state') : Leads room state cs state' rest := by
  intro bound hbound
  obtain ⟨bound', rfl, hlexemes⟩ := lexemesUpTo_of_startsLexeme hstart hscan hbound
  refine ⟨bound', by omega, ?_⟩
  rw [hlexemes, run, hstep]
  rfl

theorem overflows_lexeme {lexeme : Lexeme} {container : Container} (hstart : StartsLexeme cs)
    (hscan : scanLexeme cs = (lexeme, rest))
    (hstep : step room state lexeme cs = .error (.tooDeep container)) :
    Overflows room state cs := by
  intro bound hbound
  obtain ⟨bound', rfl, hlexemes⟩ := lexemesUpTo_of_startsLexeme hstart hscan hbound
  refine ⟨container, ?_⟩
  rw [hlexemes, run, hstep]
  rfl

/-- A lexeme of one character. -/
theorem leads_mark {c : Char} {lexeme : Lexeme} (hblank : isBlank c = false) (hbom : c ≠ '\ufeff')
    (hscan : scanLexeme (c :: rest) = (lexeme, rest))
    (hstep : step room state lexeme (c :: rest) = .ok state') :
    Leads room state (c :: rest) state' rest :=
  leads_lexeme ⟨c, rest, rfl, hblank, hbom⟩ hscan (Nat.lt_succ_self _) hstep

theorem leads_separator (layout : Layout) (level : Nat)
    (hstep : ∀ cs, step room state .comma cs = .ok state') :
    Leads room state (layout.separator level rest) state' rest := by
  have hcomma : ∀ rest, Leads room state (',' :: rest) state' rest := by
    intro rest
    exact leads_mark rfl (by decide) rfl (hstep _)
  cases layout with
  | line => exact (hcomma _).trans (leads_blank rfl)
  | indented width => exact (hcomma _).trans (leads_newline _ _)

/-! ### What ends a number -/

theorem endsBefore_nil : Numeral.EndsBefore [] := by
  intro c hc
  cases hc

theorem endsBefore_cons {c : Char} (h : c.isDigit = false ∧ c ≠ '.' ∧ c ≠ 'e' ∧ c ≠ 'E') :
    Numeral.EndsBefore (c :: rest) := by
  rintro _ ⟨⟩
  exact h

theorem endsBefore_newline (layout : Layout) (level : Nat) (h : Numeral.EndsBefore rest) :
    Numeral.EndsBefore (layout.newline level rest) := by
  cases layout with
  | line => exact h
  | indented width => exact endsBefore_cons (by decide)

theorem endsBefore_separator (layout : Layout) (level : Nat) :
    Numeral.EndsBefore (layout.separator level rest) := by
  cases layout <;> exact endsBefore_cons (by decide)

theorem endsBefore_writeItems (layout : Layout) (level : Nat) (items : List Data)
    (rest : List Char) :
    Numeral.EndsBefore
      (writeItems layout (level + 1) items (layout.newline level (']' :: rest))) := by
  cases items with
  | nil =>
      rw [writeItems]
      exact endsBefore_newline layout level (endsBefore_cons (by decide))
  | cons item items =>
      rw [writeItems]
      exact endsBefore_separator layout (level + 1)

theorem endsBefore_writeMembers (layout : Layout) (level : Nat) (members : List (String × Data))
    (rest : List Char) :
    Numeral.EndsBefore
      (writeMembers layout (level + 1) members (layout.newline level ('\x7d' :: rest))) := by
  cases members with
  | nil =>
      rw [writeMembers]
      exact endsBefore_newline layout level (endsBefore_cons (by decide))
  | cons member members =>
      rw [writeMembers]
      exact endsBefore_separator layout (level + 1)

/-! ### Scalars and names -/

/-- A state that takes a value inside the given containers. -/
def State.Expects (room : Nat) (state : State) (frames : List Frame) : Prop :=
  ∀ lexeme cs, lexeme ≠ .arrayClose → step room state lexeme cs = startValue room lexeme cs frames

theorem expects_value (frames : List Frame) : (State.value frames).Expects room frames :=
  fun _ _ _ => rfl

theorem expects_arrayStart (frames : List Frame) :
    (State.arrayStart frames).Expects room (.array [] :: frames) := by
  intro lexeme cs hne
  cases lexeme with
  | arrayClose => exact absurd rfl hne
  | _ => rfl

theorem leads_scalar {value : Data} {text : List Char} {frames : List Frame}
    (hs : state.Expects room frames) (hstart : StartsLexeme text)
    (hscan : scanLexeme (text ++ rest) = (.scalar value, rest)) :
    Leads room state (text ++ rest) (.after value frames) rest := by
  obtain ⟨c, tail, rfl, hc⟩ := hstart
  refine leads_lexeme ⟨c, tail ++ rest, rfl, hc⟩ hscan ?_ (hs _ _ (by simp))
  simp only [List.length_append, List.length_cons]
  omega

theorem length_writeChars (cs : List Char) : rest.length ≤ (writeChars cs rest).length := by
  induction cs with
  | nil => exact Nat.le_refl _
  | cons c cs ih =>
      rw [writeChars, List.length_append]
      omega

theorem leads_string {s : String} (hstep : ∀ cs, step room state (.string s) cs = .ok state') :
    Leads room state (writeString s rest) state' rest := by
  refine leads_lexeme ⟨'"', _, rfl, rfl, by decide⟩ (scanLexeme_writeString s) ?_ (hstep _)
  have hlength : ('"' :: rest).length ≤ (writeChars s.toList ('"' :: rest)).length :=
    length_writeChars _
  exact Nat.lt_succ_of_lt hlength

theorem isBlank_of_isDigit {c : Char} (h : c.isDigit = true) : isBlank c = false := by
  have hblanks : ∀ b ∈ [' ', '\t', '\n', '\r'], b.isDigit = false := by simp
  cases hblank : isBlank c with
  | false => rfl
  | true =>
      have mem : c ∈ [' ', '\t', '\n', '\r'] := by simpa [isBlank, or_assoc] using hblank
      exact absurd rfl (Numeral.ne_of_isDigit h hblanks mem)

theorem startsLexeme_numeral {n : Numeral} (h : n.WellFormed) : StartsLexeme n.text := by
  obtain ⟨d, ds, hwhole, hd⟩ := Numeral.exists_head_whole h
  cases hneg : n.negative with
  | true => exact ⟨'-', n.whole ++ n.tailText, Numeral.text_of_negative hneg, rfl, by decide⟩
  | false =>
      refine ⟨d, ds ++ n.tailText, by simp [Numeral.text_of_nonneg hneg, hwhole],
        isBlank_of_isDigit hd, ?_⟩
      rintro rfl
      revert hd
      decide

theorem startsLexeme_numberText (x : Number) : StartsLexeme (numberText x) := by
  cases x with
  | nan => exact ⟨'N', _, rfl, rfl, by decide⟩
  | infinite negative =>
      cases negative with
      | true => exact ⟨'-', _, rfl, rfl, by decide⟩
      | false => exact ⟨'I', _, rfl, rfl, by decide⟩
  | finite negative rank => exact startsLexeme_numeral (Number.numeralAt_spec negative rank).1

end Runs

/-! ### Values -/

section Values

variable {room : Nat}

theorem Reads.opened {state next final : State} {frames : List Frame} {container : Container}
    {lexeme : Lexeme} {c : Char} {depth : Nat} {cs rest : List Char}
    (hblank : isBlank c = false) (hbom : c ≠ '\ufeff')
    (hscan : scanLexeme (c :: cs) = (lexeme, cs))
    (hstep : step room state lexeme (c :: cs) =
      if room ≤ frames.length then .error (.tooDeep container) else .ok next)
    (hdepth : frames.length < depth)
    (h : frames.length < room → Reads room depth next cs final rest) :
    Reads room depth state (c :: cs) final rest := by
  by_cases hfull : room ≤ frames.length
  · rw [if_pos hfull] at hstep
    exact .inr ⟨Nat.lt_of_le_of_lt hfull hdepth,
      overflows_lexeme ⟨c, cs, rfl, hblank, hbom⟩ hscan hstep⟩
  · rw [if_neg hfull] at hstep
    exact (leads_mark hblank hbom hscan hstep).reads (h (Nat.lt_of_not_le hfull))

theorem leads_name {state : State} {done : List (String × Data)} {name : String}
    {frames : List Frame} {rest : List Char}
    (hstep : ∀ cs, step room state (.string name) cs = .ok (.colon done name frames)) :
    Leads room state (writeString name (':' :: ' ' :: rest)) (.value (.object done name :: frames))
      rest :=
  (leads_string hstep).trans ((leads_mark rfl (by decide) rfl rfl).trans (leads_blank rfl))

mutual

/-- A value is read as it was written, inside the containers that are open. -/
theorem reads_write {value : Data} (h : value.Readable) {state : State} {frames : List Frame}
    (hs : state.Expects room frames) (hopen : frames.length ≤ room) (layout : Layout) (level : Nat)
    {rest : List Char} (hrest : Numeral.EndsBefore rest) :
    Reads room (frames.length + value.depth) state (write layout level value rest)
      (.after value frames) rest := by
  have hleads : ∀ {text : List Char} {v : Data}, Leads room state text (.after v frames) rest →
      Reads room (frames.length + 0) state text (.after v frames) rest := by
    intro text v hleads
    exact .inl ⟨hopen, hleads⟩
  match value with
  | .null => exact hleads (leads_scalar hs ⟨'n', _, rfl, rfl, by decide⟩ rfl)
  | .bool true => exact hleads (leads_scalar hs ⟨'t', _, rfl, rfl, by decide⟩ rfl)
  | .bool false => exact hleads (leads_scalar hs ⟨'f', _, rfl, rfl, by decide⟩ rfl)
  | .int n =>
      refine hleads (leads_scalar hs ?_ (scanLexeme_intText h hrest))
      rw [← Numeral.text_ofInt]
      exact startsLexeme_numeral (Numeral.wellFormed_ofInt n)
  | .float x =>
      have hstart := startsLexeme_numberText x
      exact hleads (leads_scalar hs hstart (scanLexeme_numberText x hrest))
  | .string s => exact hleads (leads_string fun _ => hs _ _ (by simp))
  | .array [] =>
      apply Reads.opened rfl (by decide) rfl (hs _ _ (by simp)) (Nat.lt_succ_self _)
      intro hroom
      exact .inl ⟨hroom, leads_mark rfl (by decide) rfl rfl⟩
  | .array (item :: items) =>
      obtain ⟨hitem, hitems⟩ := h
      have hdeeper : frames.length < frames.length + (Data.array (item :: items)).depth := by
        simp only [Data.depth]
        omega
      apply Reads.opened rfl (by decide) rfl (hs _ _ (by simp)) hdeeper
      intro hroom
      have hfirst := reads_write hitem (expects_arrayStart frames) hroom layout (level + 1)
        (endsBefore_writeItems layout level items rest)
      have hothers := reads_writeItems hitems item [] hroom layout level rest
      refine (leads_newline layout (level + 1)).reads ((hfirst.trans hothers).of_eq ?_)
      simp only [Data.depth, Data.itemsDepth, List.length_cons]
      omega
  | .object [] =>
      apply Reads.opened rfl (by decide) rfl (hs _ _ (by simp)) (Nat.lt_succ_self _)
      intro hroom
      exact .inl ⟨hroom, leads_mark rfl (by decide) rfl rfl⟩
  | .object ((name, member) :: members) =>
      obtain ⟨hnames, hmember, hmembers⟩ := h
      have hdeeper :
          frames.length < frames.length + (Data.object ((name, member) :: members)).depth := by
        simp only [Data.depth]
        omega
      apply Reads.opened rfl (by decide) rfl (hs _ _ (by simp)) hdeeper
      intro hroom
      have hfirst := reads_write hmember (expects_value (.object [] name :: frames)) hroom layout
        (level + 1) (endsBefore_writeMembers layout level members rest)
      have hothers := reads_writeMembers hmembers [] name member hnames hroom layout level rest
      refine (leads_newline layout (level + 1)).reads ((leads_name fun _ => rfl).reads
        ((hfirst.trans hothers).of_eq ?_))
      simp only [Data.depth, Data.membersDepth, List.length_cons]
      omega

/-- Further items are read behind those that are done. -/
theorem reads_writeItems {items : List Data} (h : Data.ItemsReadable items) (item : Data)
    (done : List Data) {frames : List Frame} (hroom : frames.length < room) (layout : Layout)
    (level : Nat) (rest : List Char) :
    Reads room (frames.length + 1 + Data.itemsDepth items) (.after item (.array done :: frames))
      (writeItems layout (level + 1) items (layout.newline level (']' :: rest)))
      (.after (.array (done.reverse ++ item :: items)) frames) rest := by
  match items with
  | [] =>
      refine .inl ⟨hroom, (leads_newline layout level).trans
        (leads_mark rfl (by decide) rfl ?_)⟩
      simp [step, continueAfter]
  | next :: items =>
      obtain ⟨hnext, hitems⟩ := h
      have hfirst := reads_write hnext (expects_value (.array (item :: done) :: frames)) hroom
        layout (level + 1) (endsBefore_writeItems layout level items rest)
      have hothers := reads_writeItems hitems next (item :: done) hroom layout level rest
      rw [List.reverse_cons, List.append_assoc] at hothers
      refine (leads_separator layout (level + 1) fun _ => rfl).reads
        ((hfirst.trans hothers).of_eq ?_)
      simp only [Data.itemsDepth, List.length_cons]
      omega

/-- Further members are read behind those that are done. -/
theorem reads_writeMembers {members : List (String × Data)} (h : Data.MembersReadable members)
    (done : List (String × Data)) (name : String) (value : Data)
    (hnames : (Members.names (done ++ (name, value) :: members)).Nodup) {frames : List Frame}
    (hroom : frames.length < room) (layout : Layout) (level : Nat) (rest : List Char) :
    Reads room (frames.length + 1 + Data.membersDepth members)
      (.after value (.object done name :: frames))
      (writeMembers layout (level + 1) members (layout.newline level ('\x7d' :: rest)))
      (.after (.object (done ++ (name, value) :: members)) frames) rest := by
  have hput := Members.put_of_nodup hnames
  match members with
  | [] =>
      refine .inl ⟨hroom, (leads_newline layout level).trans
        (leads_mark rfl (by decide) rfl ?_)⟩
      simp [step, continueAfter, hput]
  | (next, member) :: members =>
      obtain ⟨hmember, hmembers⟩ := h
      rw [List.append_cons] at hnames
      have hfirst := reads_write hmember
        (expects_value (.object (done ++ [(name, value)]) next :: frames)) hroom layout
        (level + 1) (endsBefore_writeMembers layout level members rest)
      have hothers := reads_writeMembers hmembers (done ++ [(name, value)]) next member hnames hroom
        layout level rest
      rw [List.append_assoc] at hothers
      have hcomma : ∀ cs, step room (.after value (.object done name :: frames)) .comma cs =
          .ok (.name (done ++ [(name, value)]) frames) := by
        intro cs
        simp [step, continueAfter, hput]
      refine (leads_separator layout (level + 1) hcomma).reads
        ((leads_name fun _ => rfl).reads ((hfirst.trans hothers).of_eq ?_))
      simp only [Data.membersDepth, List.length_cons]
      omega

end

end Values

/-! ### Texts -/

theorem startsLexeme_write (layout : Layout) (level : Nat) {value : Data} (h : value.Readable)
    (rest : List Char) : StartsLexeme (write layout level value rest) := by
  have happend : ∀ {text : List Char}, StartsLexeme text → StartsLexeme (text ++ rest) := by
    rintro _ ⟨c, tail, rfl, hc⟩
    exact ⟨c, tail ++ rest, rfl, hc⟩
  match value with
  | .null => exact ⟨'n', _, rfl, rfl, by decide⟩
  | .bool true => exact ⟨'t', _, rfl, rfl, by decide⟩
  | .bool false => exact ⟨'f', _, rfl, rfl, by decide⟩
  | .int n =>
      rw [write, ← Numeral.text_ofInt]
      exact happend (startsLexeme_numeral (Numeral.wellFormed_ofInt n))
  | .float x => exact happend (startsLexeme_numberText x)
  | .string s => exact ⟨'"', _, rfl, rfl, by decide⟩
  | .moment m => exact h.elim
  | .array [] => exact ⟨'[', _, rfl, rfl, by decide⟩
  | .array (item :: items) => exact ⟨'[', _, rfl, rfl, by decide⟩
  | .object [] => exact ⟨'\x7b', _, rfl, rfl, by decide⟩
  | .object ((name, member) :: members) => exact ⟨'\x7b', _, rfl, rfl, by decide⟩

theorem lexemesUpTo_nil (bound : Nat) : lexemesUpTo bound [] = [] := by
  cases bound <;> rfl

/-- Reading a text that starts with no byte order mark is running over its lexemes. -/
theorem read_of_startsLexeme (room : Nat) {cs : List Char} (h : StartsLexeme cs) :
    Json.read room cs = (run room (.value []) (lexemesUpTo cs.length cs)).bind finish := by
  obtain ⟨c, tail, rfl, _, hbom⟩ := h
  unfold Json.read
  split
  · next heq => exact absurd (List.cons.inj heq).1 hbom
  · rfl

/-- A readable value is read from its text, unless it nests too deeply for the reader,
which then says so. -/
theorem parse_text (room : Nat) (layout : Layout) {value : Data} (h : value.Readable) :
    (value.depth ≤ room ∧ parse room (text layout value) = .ok value) ∨
      (room < value.depth ∧
        ∃ container, parse room (text layout value) = .error (.tooDeep container)) := by
  have hread := read_of_startsLexeme room (startsLexeme_write layout 0 h [])
  have hreads := reads_write h (expects_value []) (Nat.zero_le room) layout 0 endsBefore_nil
  rw [List.length_nil, Nat.zero_add] at hreads
  simp only [parse, text, String.toList_ofList]
  rcases hreads with ⟨hdepth, hleads⟩ | ⟨hdepth, hoverflows⟩
  · obtain ⟨bound, _, hrun⟩ := hleads _ (Nat.le_refl _)
    rw [hrun, lexemesUpTo_nil] at hread
    exact .inl ⟨hdepth, by rw [hread]; rfl⟩
  · obtain ⟨container, hrun⟩ := hoverflows _ (Nat.le_refl _)
    rw [hrun] at hread
    exact .inr ⟨hdepth, container, by rw [hread]; rfl⟩

end Json

end Rulebook
