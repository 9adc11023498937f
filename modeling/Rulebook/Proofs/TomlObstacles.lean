import Rulebook.Proofs.Obstacles
import Rulebook.Proofs.TomlScalar
import Rulebook.Toml.Reading

/-!
A text of TOML that is not read is malformed, has a numeral of too many digits, or opens
more containers than there is room for.

Every reading takes text from the front, or stops at something that the text has
(`Takes`); what it leaves is read on, so readings one after another do the same
(`Takes.bind`). Values are read by induction on the bound of their steps; a container
that is entered takes room, and for its bracket the text has one more.
-/

namespace Rulebook.Toml

variable {α β : Type} {stack : Stack} {room : Nat} {cs : List Char}

/-! ### Readings -/

/-- What a stop says of a text that was read with so much room for containers. -/
def Stop.Sound (stack : Stack) (room : Nat) (cs : List Char) : Stop → Prop
  | .fault _ _ => True
  | .tooManyDigits count => LongNumeral count cs
  | .tooDeep => room < stack.most * openings cs

theorem Stop.Sound.mono {stop : Stop} {cs' : List Char} (h : stop.Sound stack room cs)
    (hsuffix : cs <:+ cs') : stop.Sound stack room cs' := by
  cases stop with
  | fault fault rest => trivial
  | tooManyDigits count => exact LongNumeral.mono h hsuffix.isInfix
  | tooDeep =>
      exact Nat.lt_of_lt_of_le h (Nat.mul_le_mul_left _ (openings_le_of_suffix hsuffix))

/-- A reading takes text from the front, so that some of it is left, or stops at something
that the text has. -/
def Takes (left : α → List Char) (stack : Stack) (room : Nat) (cs : List Char) :
    Except Stop α → Prop
  | .ok found => left found <:+ cs
  | .error stop => stop.Sound stack room cs

/-- A step that takes no text stops only at a fault of it. -/
def OnlyRefuses (result : Except Stop α) : Prop :=
  ∀ stop, result = .error stop → ∃ fault rest, stop = .fault fault rest

section Readings

variable {left : α → List Char} {left' : β → List Char} {reading : Except Stop α}

theorem takes_refuse (fault : Fault) (rest : List Char) :
    Takes left stack room cs (refuse fault rest) := trivial

theorem Takes.mono {cs' : List Char} (h : Takes left stack room cs reading) (hsuffix : cs <:+ cs') :
    Takes left stack room cs' reading := by
  cases reading with
  | ok found => exact List.IsSuffix.trans h hsuffix
  | error stop => exact Stop.Sound.mono h hsuffix

theorem Takes.bind {next : α → Except Stop β} (h : Takes left stack room cs reading)
    (hnext : ∀ found, Takes left' stack room (left found) (next found)) :
    Takes left' stack room cs (reading >>= next) := by
  cases reading with
  | ok found => exact (hnext found).mono h
  | error stop => exact h

theorem Takes.map {f : α → β} (h : Takes left stack room cs reading)
    (hleft : ∀ found, left' (f found) = left found) :
    Takes left' stack room cs (reading.map f) := by
  cases reading with
  | ok found =>
      have hsuffix : left' (f found) <:+ cs := (hleft found).symm ▸ h
      exact hsuffix
  | error stop => exact h

theorem onlyRefuses_ok (found : α) : OnlyRefuses (.ok found) := nofun

theorem onlyRefuses_refuse (fault : Fault) (rest : List Char) :
    OnlyRefuses (α := α) (refuse fault rest) := by
  rintro _ ⟨⟩
  exact ⟨fault, rest, rfl⟩

theorem OnlyRefuses.takes (h : OnlyRefuses reading) :
    Takes (fun _ => cs) stack room cs reading := by
  cases reading with
  | ok found => exact List.suffix_refl cs
  | error stop =>
      obtain ⟨fault, rest, rfl⟩ := h stop rfl
      trivial

/-- Tables take no text. -/
theorem takes_placed (rest : List Char) (taken : Except Fault α) :
    Takes (fun _ => cs) stack room cs (placed rest taken) := by
  cases taken with
  | ok found => exact List.suffix_refl cs
  | error fault => trivial

end Readings

theorem suffix_skipBlanks (cs : List Char) : skipBlanks cs <:+ cs := List.dropWhile_suffix _

/-! ### Strings -/

section Strings

variable (multiline : Bool) (c : Char) (rest : List Char)

theorem onlyRefuses_afterText : OnlyRefuses (afterText multiline c rest) := by
  unfold afterText
  repeat' split
  all_goals first | exact onlyRefuses_ok _ | exact onlyRefuses_refuse _ _

theorem onlyRefuses_afterEscape : OnlyRefuses (afterEscape multiline c rest) := by
  unfold afterEscape
  repeat' split
  all_goals first | exact onlyRefuses_ok _ | exact onlyRefuses_refuse _ _

theorem onlyRefuses_afterDigit (start : List Char) (owed value : Nat) :
    OnlyRefuses (afterDigit start owed value c rest) := by
  unfold afterDigit
  split
  · exact onlyRefuses_refuse _ _
  · simp only
    repeat' split
    all_goals first | exact onlyRefuses_ok _ | exact onlyRefuses_refuse _ _

theorem onlyRefuses_next (state : StringState) : OnlyRefuses (state.next multiline c rest) := by
  cases state with
  | text => exact onlyRefuses_afterText multiline c rest
  | escape => exact onlyRefuses_afterEscape multiline c rest
  | digits start owed value => exact onlyRefuses_afterDigit c rest start owed value
  | blanks =>
      simp only [StringState.next]
      repeat' split
      all_goals first | exact onlyRefuses_ok _ | exact onlyRefuses_refuse _ _
  | gap =>
      simp only [StringState.next]
      split
      · exact onlyRefuses_ok _
      · exact onlyRefuses_afterText multiline c rest

end Strings

theorem takes_scanBasic (multiline : Bool) (state : StringState) (read cs : List Char) :
    Takes Prod.snd stack room cs (scanBasic multiline state read cs) := by
  induction cs generalizing state read with
  | nil => cases state <;> trivial
  | cons c rest ih =>
      have hrest := List.suffix_cons c rest
      unfold scanBasic
      split
      · cases multiline with
        | true => exact (List.drop_suffix 2 rest).trans hrest
        | false => exact hrest
      · cases hnext : state.next multiline c rest with
        | ok next => exact (ih _ _).mono hrest
        | error stop =>
            obtain ⟨fault, place, rfl⟩ := onlyRefuses_next multiline c rest state stop hnext
            trivial

theorem takes_scanLiteral (multiline : Bool) (read cs : List Char) :
    Takes Prod.snd stack room cs (scanLiteral multiline read cs) := by
  induction cs generalizing read with
  | nil => exact takes_refuse _ _
  | cons c rest ih =>
      have hrest := List.suffix_cons c rest
      unfold scanLiteral
      split
      · cases multiline with
        | true => exact (List.drop_suffix 2 rest).trans hrest
        | false => exact hrest
      · repeat' split
        · exact takes_refuse _ _
        · exact takes_refuse _ _
        · exact (ih _).mono hrest

theorem takes_scanOneLine (quote : Char) (cs : List Char) :
    Takes Prod.snd stack room cs (scanOneLine quote cs) := by
  unfold scanOneLine
  split
  · exact (takes_scanBasic false .text [] cs).bind fun _ => List.suffix_refl _
  · exact (takes_scanLiteral false [] cs).bind fun _ => List.suffix_refl _

theorem suffix_skipFirstLineEnd (cs : List Char) : skipFirstLineEnd cs <:+ cs := by
  unfold skipFirstLineEnd
  split
  · exact List.suffix_cons _ _
  · exact List.suffix_refl _

theorem takes_scanManyLines (quote : Char) (cs : List Char) :
    Takes Prod.snd stack room cs (scanManyLines quote cs) := by
  refine Takes.mono ?_ (suffix_skipFirstLineEnd cs)
  unfold scanManyLines
  split
  · exact (takes_scanBasic true .text [] _).bind fun _ => List.drop_suffix _ _
  · exact (takes_scanLiteral true [] _).bind fun _ => List.drop_suffix _ _

theorem takes_scanQuoted (quote : Char) (cs : List Char) :
    Takes Prod.snd stack room cs (scanQuoted quote cs) := by
  unfold scanQuoted
  split
  · exact (takes_scanManyLines quote _).mono (List.drop_suffix 2 cs)
  · exact takes_scanOneLine quote cs

/-! ### Keys -/

theorem takes_scanKeyPart (cs : List Char) : Takes Prod.snd stack room cs (scanKeyPart cs) := by
  unfold scanKeyPart
  split
  · exact (takes_scanOneLine '"' _).mono (List.suffix_cons _ _)
  · exact (takes_scanOneLine '\'' _).mono (List.suffix_cons _ _)
  · simp only
    split
    · exact takes_refuse _ _
    · exact List.dropWhile_suffix _

theorem takes_scanKeyParts (bound : Nat) (cs : List Char) :
    Takes Prod.snd stack room cs (scanKeyParts bound cs) := by
  fun_induction scanKeyParts bound cs with
  | case1 bound rest ih =>
      refine Takes.mono ?_ (List.suffix_cons '.' rest)
      refine ((takes_scanKeyPart _).mono (suffix_skipBlanks rest)).bind fun found => ?_
      refine ((ih found.2).mono (suffix_skipBlanks found.2)).bind fun _ => ?_
      exact List.suffix_refl _
  | case2 bound cs => exact List.suffix_refl cs

theorem takes_scanKey (cs : List Char) : Takes Prod.snd stack room cs (scanKey cs) := by
  refine (takes_scanKeyPart cs).bind fun found => ?_
  refine ((takes_scanKeyParts cs.length _).mono (suffix_skipBlanks found.2)).bind fun _ => ?_
  exact List.suffix_refl _

/-! ### Numbers -/

section Digits

variable {isDigit : Char → Bool}

theorem suffix_moreDigits (cs : List Char) : (moreDigits isDigit cs).2 <:+ cs := by
  fun_induction moreDigits isDigit cs with
  | case1 d rest _ digits rest' hmore ih =>
      rw [hmore] at ih
      exact ih.trans ((List.suffix_cons d rest).trans (List.suffix_cons '_' _))
  | case2 d rest => exact List.suffix_refl _
  | case3 d rest _ _ digits rest' hmore ih =>
      rw [hmore] at ih
      exact ih.trans (List.suffix_cons d rest)
  | case4 d rest => exact List.suffix_refl _
  | case5 => exact List.suffix_refl _

theorem suffix_digits {digits rest : List Char} (h : digits? isDigit cs = some (digits, rest)) :
    rest <:+ cs := by
  unfold digits? at h
  split at h
  · next d tail =>
      split at h
      · have hsuffix : (moreDigits isDigit tail).2 <:+ tail := suffix_moreDigits tail
        cases h
        exact hsuffix.trans (List.suffix_cons d tail)
      · cases h
  · cases h

end Digits

theorem suffix_scanBased {n : Int} {rest : List Char} (h : scanBased? cs = some (n, rest)) :
    rest <:+ cs := by
  unfold scanBased? at h
  split at h
  · next mark tail =>
      obtain ⟨⟨base, isDigit⟩, h⟩ : ∃ base : Nat × (Char → Bool),
          ((digits? base.2 tail).bind fun found =>
            some (Int.ofNat (valueIn base.1 found.1), found.2)) = some (n, rest) := by
        simp only at h
        repeat' split at h
        · exact ⟨(16, _), h⟩
        · exact ⟨(8, _), h⟩
        · exact ⟨(2, _), h⟩
        · cases h
      obtain ⟨⟨digits, rest'⟩, hdigits, hrest⟩ := Option.bind_eq_some_iff.mp h
      cases hrest
      have hmark := (List.suffix_cons mark tail).trans (List.suffix_cons '0' _)
      exact (suffix_digits hdigits).trans hmark
  · cases h

theorem suffix_scanSign (cs : List Char) : (scanSign cs).2 <:+ cs := by
  unfold scanSign
  split
  · exact List.suffix_cons _ _
  · exact List.suffix_cons _ _
  · exact List.suffix_refl _

theorem suffix_scanFraction (cs : List Char) : (scanFraction cs).2 <:+ cs := by
  unfold scanFraction
  split
  · split
    · next hdigits => exact (suffix_digits hdigits).trans (List.suffix_cons _ _)
    · exact List.suffix_refl _
  · exact List.suffix_refl _

theorem suffix_scanExponent (cs : List Char) : (scanExponent cs).2 <:+ cs := by
  unfold scanExponent
  split
  · next mark rest =>
      split
      · simp only
        split
        · next hdigits =>
            have hsign := (suffix_scanSign rest).trans (List.suffix_cons mark rest)
            exact (suffix_digits hdigits).trans hsign
        · exact List.suffix_refl _
      · exact List.suffix_refl _
  · exact List.suffix_refl _

theorem moreDigits_sound (cs : List Char) :
    ∃ run, run <+: cs ∧ DigitRun (moreDigits Char.isDigit cs).1.length run := by
  fun_induction moreDigits Char.isDigit cs with
  | case1 d rest hd digits rest' hmore ih =>
      obtain ⟨run, hprefix, hrun⟩ := ih
      rw [hmore] at hrun
      refine ⟨'_' :: d :: run, ?_, (hrun.digit hd).underscore⟩
      exact List.cons_prefix_cons.mpr ⟨rfl, List.cons_prefix_cons.mpr ⟨rfl, hprefix⟩⟩
  | case2 d rest => exact ⟨[], List.nil_prefix, digitRun_nil⟩
  | case3 d rest _ hd digits rest' hmore ih =>
      obtain ⟨run, hprefix, hrun⟩ := ih
      rw [hmore] at hrun
      exact ⟨d :: run, List.cons_prefix_cons.mpr ⟨rfl, hprefix⟩, hrun.digit hd⟩
  | case4 d rest => exact ⟨[], List.nil_prefix, digitRun_nil⟩
  | case5 => exact ⟨[], List.nil_prefix, digitRun_nil⟩

theorem digits_sound {digits rest : List Char} (h : digits? Char.isDigit cs = some (digits, rest)) :
    ∃ run, run <+: cs ∧ DigitRun digits.length run := by
  unfold digits? at h
  split at h
  · next d tail =>
      split at h
      · next hd =>
          obtain ⟨run, hprefix, hrun⟩ := moreDigits_sound tail
          cases h
          exact ⟨d :: run, List.cons_prefix_cons.mpr ⟨rfl, hprefix⟩, hrun.digit hd⟩
      · cases h
  · cases h

theorem scanWhole_sound {whole rest : List Char} (h : scanWhole? cs = some (whole, rest)) :
    rest <:+ cs ∧ ∃ run, run <+: cs ∧ DigitRun whole.length run := by
  unfold scanWhole? at h
  split at h
  · cases h
    exact ⟨List.suffix_cons _ _, ['0'], ⟨rest, rfl⟩, digitRun_nil.digit rfl⟩
  · exact ⟨suffix_digits h, digits_sound h⟩

/-- What is read as the whole part of a number stands in the text, with nothing but
underscores between its digits. -/
theorem scanDecimal_sound {n : Numeral} {rest : List Char} (h : scanDecimal? cs = some (n, rest)) :
    rest <:+ cs ∧ ∃ run, run <:+: cs ∧ DigitRun n.whole.length run := by
  unfold scanDecimal? at h
  obtain ⟨⟨whole, tail⟩, hwhole, h⟩ := Option.bind_eq_some_iff.mp h
  obtain ⟨htail, run, hprefix, hrun⟩ := scanWhole_sound hwhole
  have hsign := suffix_scanSign cs
  have hfraction := suffix_scanFraction tail
  have hexponent := suffix_scanExponent (scanFraction tail).2
  cases h
  exact ⟨hexponent.trans (hfraction.trans (htail.trans hsign)), run,
    hprefix.isInfix.trans hsign.isInfix, hrun⟩

theorem takes_scanNumber (cs : List Char) : Takes Prod.snd stack room cs (scanNumber cs) := by
  unfold scanNumber
  split
  · next hbased => exact suffix_scanBased hbased
  · split
    · next n rest hdecimal =>
        obtain ⟨hrest, run, hinfix, hrun⟩ := scanDecimal_sound hdecimal
        unfold numeralData
        split
        · split
          · next hlong => exact ⟨hlong, run, hinfix, hrun⟩
          · exact hrest
        · exact hrest
    · split
      · exact List.drop_suffix _ _
      · exact takes_refuse _ _

/-! ### Dates and times -/

section Moments

variable {rest : List Char}

theorem suffix_mark {mark : Char} (h : mark? mark cs = some rest) : rest <:+ cs := by
  unfold mark? at h
  split at h
  · obtain ⟨_, ⟨⟩⟩ := Option.ite_none_right_eq_some.mp h
    exact List.suffix_cons _ _
  · cases h

theorem suffix_twoDigits {least most n : Nat} (h : twoDigits? least most cs = some (n, rest)) :
    rest <:+ cs := by
  obtain ⟨tens, ones, rfl, _⟩ := twoDigits?_eq_some h
  exact (List.suffix_cons ones rest).trans (List.suffix_cons tens _)

theorem suffix_scanMicro (cs : List Char) : (scanMicro cs).2 <:+ cs := by
  unfold scanMicro
  split
  · simp only
    split
    · exact List.suffix_refl _
    · exact (List.dropWhile_suffix _).trans (List.suffix_cons _ _)
  · exact List.suffix_refl _

theorem suffix_scanClock {clock : TimeOfDay} (h : scanClock? cs = some (clock, rest)) :
    rest <:+ cs := by
  obtain ⟨⟨hour, cs₁⟩, hhour, h⟩ := Option.bind_eq_some_iff.mp h
  obtain ⟨cs₂, hcolon, h⟩ := Option.bind_eq_some_iff.mp h
  obtain ⟨⟨minute, cs₃⟩, hminute, h⟩ := Option.bind_eq_some_iff.mp h
  obtain ⟨cs₄, hcolon', h⟩ := Option.bind_eq_some_iff.mp h
  obtain ⟨⟨second, cs₅⟩, hsecond, h⟩ := Option.bind_eq_some_iff.mp h
  obtain ⟨_, _, heq⟩ := Option.map_eq_some_iff.mp h
  cases heq
  exact (suffix_scanMicro cs₅).trans ((suffix_twoDigits hsecond).trans ((suffix_mark hcolon').trans
    ((suffix_twoDigits hminute).trans ((suffix_mark hcolon).trans (suffix_twoDigits hhour)))))

theorem suffix_scanSpan {sign minutes : Int} (h : scanSpan? sign cs = some (minutes, rest)) :
    rest <:+ cs := by
  obtain ⟨⟨hours, cs₁⟩, hhours, h⟩ := Option.bind_eq_some_iff.mp h
  obtain ⟨cs₂, hcolon, h⟩ := Option.bind_eq_some_iff.mp h
  obtain ⟨⟨more, cs₃⟩, hmore, h⟩ := Option.bind_eq_some_iff.mp h
  cases h
  exact (suffix_twoDigits hmore).trans ((suffix_mark hcolon).trans (suffix_twoDigits hhours))

theorem suffix_scanOffset (cs : List Char) : (scanOffset cs).2 <:+ cs := by
  unfold scanOffset
  simp only
  split
  · next minutes rest hread =>
      split at hread
      · cases hread
        exact List.suffix_cons _ _
      · cases hread
        exact List.suffix_cons _ _
      · exact (suffix_scanSpan hread).trans (List.suffix_cons _ _)
      · exact (suffix_scanSpan hread).trans (List.suffix_cons _ _)
      · cases hread
  · exact List.suffix_refl cs

theorem suffix_scanDate {numbers : Nat × Nat × Nat} (h : scanDate? cs = some (numbers, rest)) :
    rest <:+ cs := by
  unfold scanDate? at h
  split at h
  · next a b c d tail =>
      obtain ⟨_, h⟩ := Option.ite_none_right_eq_some.mp h
      obtain ⟨cs₁, hdash, h⟩ := Option.bind_eq_some_iff.mp h
      obtain ⟨⟨month, cs₂⟩, hmonth, h⟩ := Option.bind_eq_some_iff.mp h
      obtain ⟨cs₃, hdash', h⟩ := Option.bind_eq_some_iff.mp h
      obtain ⟨⟨day, cs₄⟩, hday, h⟩ := Option.bind_eq_some_iff.mp h
      cases h
      have hyear : tail <:+ a :: b :: c :: d :: tail := ⟨[a, b, c, d], rfl⟩
      exact (suffix_twoDigits hday).trans ((suffix_mark hdash').trans
        ((suffix_twoDigits hmonth).trans ((suffix_mark hdash).trans hyear)))
  · cases h

theorem suffix_scanDayTime {found : TimeOfDay × Option Int}
    (h : scanDayTime? cs = some (found, rest)) : rest <:+ cs := by
  unfold scanDayTime? at h
  split at h
  · obtain ⟨_, h⟩ := Option.ite_none_right_eq_some.mp h
    obtain ⟨⟨clock, cs₁⟩, hclock, h⟩ := Option.bind_eq_some_iff.mp h
    cases h
    exact (suffix_scanOffset cs₁).trans ((suffix_scanClock hclock).trans (List.suffix_cons _ _))
  · cases h

/-- A date or a time takes text from the front, if there is one. -/
theorem takes_scanMoment (cs : List Char) :
    Takes (fun found => found.elim cs Prod.snd) stack room cs (scanMoment? cs) := by
  unfold scanMoment?
  split
  · cases hclock : scanClock? cs with
    | none => exact List.suffix_refl cs
    | some found => exact suffix_scanClock hclock
  · next hdate =>
      split
      · exact takes_refuse _ _
      · split
        · next hclock => exact (suffix_scanDayTime hclock).trans (suffix_scanDate hdate)
        · exact suffix_scanDate hdate

end Moments

theorem takes_scanPlain (cs : List Char) : Takes Prod.snd stack room cs (scanPlain cs) := by
  refine (takes_scanMoment cs).bind fun found => ?_
  cases found with
  | none => exact takes_scanNumber cs
  | some found => exact List.suffix_refl _

/-! ### Values -/

theorem takes_skipFiller (inComment : Bool) (cs : List Char) :
    Takes id stack room cs (skipFiller inComment cs) := by
  induction cs generalizing inComment with
  | nil => cases inComment <;> exact List.suffix_refl []
  | cons c rest ih =>
      have hrest := List.suffix_cons c rest
      cases inComment with
      | false =>
          simp only [skipFiller]
          repeat' split
          · exact (ih false).mono hrest
          · exact (ih true).mono hrest
          · exact List.suffix_refl (c :: rest)
      | true =>
          simp only [skipFiller]
          repeat' split
          · exact (ih false).mono hrest
          · exact takes_refuse _ _
          · exact (ih true).mono hrest

/-- A container that is entered takes room, and its bracket is one more than those inside. -/
theorem takes_enter {left : α → List Char} {taken : Nat} {c : Char} (htaken : taken ≤ stack.most)
    (hc : isOpening c = true) {next : Nat → Except Stop α}
    (h : ∀ inside, Takes left stack inside cs (next inside)) :
    Takes left stack room (c :: cs) (enter taken room >>= next) := by
  have hopenings : stack.most * openings (c :: cs) = stack.most * openings cs + stack.most := by
    rw [openings_cons_of_isOpening hc, Nat.mul_succ]
  unfold enter
  split
  · next hfull =>
      show room < stack.most * openings (c :: cs)
      omega
  · have hinside := h (room - taken)
    simp only [bind, Except.bind]
    cases hnext : next (room - taken) with
    | ok found =>
        rw [hnext] at hinside
        exact List.IsSuffix.trans hinside (List.suffix_cons c cs)
    | error stop =>
        rw [hnext] at hinside
        cases stop with
        | fault fault rest => trivial
        | tooManyDigits count => exact LongNumeral.mono hinside (List.suffix_cons c cs).isInfix
        | tooDeep =>
            have hless : room - taken < stack.most * openings cs := hinside
            show room < stack.most * openings (c :: cs)
            omega

mutual

/-- A value takes text from the front, or stops at something that the text has. -/
theorem takes_scanValue (bound room : Nat) (cs : List Char) :
    Takes Prod.snd stack room cs (scanValue stack bound room cs) := by
  match bound with
  | 0 => exact takes_refuse _ _
  | bound + 1 =>
      unfold scanValue
      split
      · exact ((takes_scanQuoted '"' _).mono (List.suffix_cons _ _)).map fun _ => rfl
      · exact ((takes_scanQuoted '\'' _).mono (List.suffix_cons _ _)).map fun _ => rfl
      · next rest => exact List.drop_suffix 4 ('t' :: 'r' :: 'u' :: 'e' :: rest)
      · next rest => exact List.drop_suffix 5 ('f' :: 'a' :: 'l' :: 's' :: 'e' :: rest)
      · next rest =>
          refine takes_enter (Nat.le_max_left stack.array stack.table) rfl fun inside => ?_
          refine (takes_skipFiller false rest).bind fun found => ?_
          split
          · exact List.drop_suffix 1 _
          · exact (takes_scanItems bound inside found).bind fun _ => List.suffix_refl _
      · next rest =>
          refine takes_enter (Nat.le_max_right stack.array stack.table) rfl fun inside => ?_
          refine Takes.mono ?_ (suffix_skipBlanks rest)
          simp only
          split
          · exact List.drop_suffix 1 _
          · exact (takes_scanInline bound inside [] [] _).bind fun _ => List.suffix_refl _
      · exact takes_scanPlain cs

theorem takes_scanItems (bound room : Nat) (cs : List Char) :
    Takes Prod.snd stack room cs (scanItems stack bound room cs) := by
  match bound with
  | 0 => exact takes_refuse _ _
  | bound + 1 =>
      unfold scanItems
      refine (takes_scanValue bound room cs).bind fun item => ?_
      refine (takes_skipFiller false _).bind fun found => ?_
      split
      · exact List.drop_suffix 1 _
      · split
        · refine Takes.mono ?_ (List.drop_suffix 1 found)
          refine (takes_skipFiller false _).bind fun found => ?_
          split
          · exact List.drop_suffix 1 _
          · exact (takes_scanItems bound room _).bind fun _ => List.suffix_refl _
        · exact takes_refuse _ _

theorem takes_scanInline (bound room : Nat) (closed : List (List String))
    (table : List (String × Data)) (cs : List Char) :
    Takes Prod.snd stack room cs (scanInline stack bound room closed table cs) := by
  match bound with
  | 0 => exact takes_refuse _ _
  | bound + 1 =>
      unfold scanInline
      refine (takes_scanKey cs).bind fun (key, behind) => ?_
      simp only
      split
      · have hvalue := (suffix_skipBlanks (behind.drop 1)).trans (List.drop_suffix 1 behind)
        refine ((takes_scanValue bound room _).mono hvalue).bind fun (value, behind) => ?_
        refine (takes_placed _ _).bind fun table' => ?_
        refine Takes.mono ?_ (suffix_skipBlanks behind)
        simp only
        split
        · exact List.drop_suffix 1 _
        · split
          · refine (takes_scanInline bound room _ table' _).mono ?_
            exact (suffix_skipBlanks _).trans (List.drop_suffix 1 _)
          · exact takes_refuse _ _
      · exact takes_refuse _ _

end

theorem takes_scanPair (cs : List Char) :
    Takes (fun found => found.2.2) stack stack.size cs (scanPair stack cs) := by
  refine (takes_scanKey cs).bind fun (key, behind) => ?_
  simp only
  split
  · have hvalue := (suffix_skipBlanks (behind.drop 1)).trans (List.drop_suffix 1 behind)
    refine ((takes_scanValue cs.length stack.size _).mono hvalue).bind fun _ => ?_
    exact List.suffix_refl _
  · exact takes_refuse _ _

/-! ### Documents -/

namespace Document

theorem takes_scanHeader (d : Document) (cs : List Char) :
    Takes Prod.snd stack room cs (d.scanHeader cs) := by
  unfold scanHeader
  split
  · next rest =>
      refine Takes.mono ?_ ((suffix_skipBlanks rest).trans (List.suffix_cons '[' rest))
      refine (takes_scanKey _).bind fun (key, behind) => ?_
      refine (takes_placed _ _).bind fun d' => ?_
      split
      · exact List.drop_suffix 2 behind
      · exact takes_refuse _ _
  · refine Takes.mono ?_ (suffix_skipBlanks cs)
    refine (takes_scanKey _).bind fun (key, behind) => ?_
    refine (takes_placed _ _).bind fun d' => ?_
    split
    · exact List.drop_suffix 1 behind
    · exact takes_refuse _ _

theorem takes_scanStatement (d : Document) (cs : List Char) :
    Takes Prod.snd stack stack.size cs (d.scanStatement stack cs) := by
  unfold scanStatement
  split
  · exact List.suffix_refl []
  · next c rest =>
      repeat' split
      · exact List.suffix_refl (c :: rest)
      · exact (takes_scanHeader d.settle rest).mono (List.suffix_cons c rest)
      · refine (takes_scanPair (c :: rest)).bind fun (key, value, behind) => ?_
        exact (takes_placed _ _).bind fun _ => List.suffix_refl behind
      · exact takes_refuse _ _

theorem takes_skipCommentText (cs : List Char) : Takes id stack room cs (skipCommentText cs) := by
  induction cs with
  | nil => exact List.suffix_refl []
  | cons c rest ih =>
      unfold skipCommentText
      repeat' split
      · exact List.suffix_refl (c :: rest)
      · exact takes_refuse _ _
      · exact ih.mono (List.suffix_cons c rest)

theorem takes_skipComment (cs : List Char) : Takes id stack room cs (skipComment cs) := by
  unfold skipComment
  split
  · exact (takes_skipCommentText _).mono (List.suffix_cons '#' _)
  · exact List.suffix_refl cs

/-- A document is read line by line, or stops at something that the text has. -/
theorem takes_scanLines (bound : Nat) (d : Document) (cs : List Char) :
    Takes (fun _ => []) stack stack.size cs (d.scanLines stack bound cs) := by
  induction bound generalizing d cs with
  | zero => exact List.nil_suffix
  | succ bound ih =>
      unfold scanLines
      refine ((takes_scanStatement d _).mono (suffix_skipBlanks cs)).bind fun (d', behind) => ?_
      refine ((takes_skipComment _).mono (suffix_skipBlanks behind)).bind fun behind => ?_
      split
      · exact List.nil_suffix
      · next rest => exact (ih d' rest).mono (List.suffix_cons '\n' rest)
      · exact takes_refuse _ _

end Document

/-- What an error says of a text that was parsed. -/
def Error.Sound (stack : Stack) (cs : List Char) : Error → Prop
  | .malformed _ _ => True
  | .tooManyDigits count => LongNumeral count cs
  | .tooDeep => stack.size < stack.most * openings cs

/-- An error of parsing a text says nothing false of it. -/
theorem parse_sound {text : List Char} {error : Error} (h : parse stack text = .error error) :
    error.Sound stack (Text.joinLineEnds text) := by
  have hlines : Takes (fun _ => []) stack stack.size (Text.joinLineEnds text)
      (read stack (Text.joinLineEnds text)) :=
    (Document.takes_scanLines _ Document.empty _).bind fun _ => List.nil_suffix
  unfold parse at h
  cases hread : read stack (Text.joinLineEnds text) with
  | ok members =>
      simp only [hread] at h
      cases h
  | error stop =>
      rw [hread] at hlines
      simp only [hread] at h
      cases h
      cases stop with
      | fault fault rest => cases rest <;> trivial
      | tooManyDigits count => exact hlines
      | tooDeep => exact hlines

end Rulebook.Toml
