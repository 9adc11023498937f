import Rulebook.Data.Digits
import Rulebook.Proofs.JsonText
import Rulebook.Proofs.MemberLists

/-!
Integers of too many digits are the only obstacle beside the faults of a text.

Lexing takes text from the front (`scanLexeme_sound`), so what a lexeme says of digits
is there in the text. The reader keeps values that have texts themselves, and stops at
an integer only if the text has too many digits for it (`longInteger_of_parse`).
-/

namespace Rulebook

/-! ### Values that can be written -/

namespace Json

theorem itemsRefusal?_eq_none_iff {items : List Data} :
    itemsRefusal? items = none ↔ ∀ item ∈ items, refusal? item = none := by
  induction items with
  | nil => simp [itemsRefusal?]
  | cons item items ih => simp [itemsRefusal?, ih]

theorem membersRefusal?_eq_none_iff {members : List (String × Data)} :
    membersRefusal? members = none ↔ ∀ member ∈ members, refusal? member.2 = none := by
  induction members with
  | nil => simp [membersRefusal?]
  | cons member members ih =>
      obtain ⟨name, value⟩ := member
      simp [membersRefusal?, ih]

end Json

/-! ### Numerals -/

namespace Numeral

theorem suffix_scanFraction (cs : List Char) : (scanFraction cs).2 <:+ cs := by
  unfold scanFraction
  split
  · next d rest =>
      split
      · exact (List.dropWhile_suffix _).trans ⟨['.', d], rfl⟩
      · exact List.suffix_refl _
  · exact List.suffix_refl _

theorem suffix_scanExponentDigits {negative : Bool} {cs rest : List Char} {exponent : Int}
    (h : scanExponentDigits negative cs = some (exponent, rest)) : rest <:+ cs := by
  cases cs with
  | nil => cases h
  | cons d cs =>
      simp only [scanExponentDigits] at h
      split at h
      · cases h
        exact (List.dropWhile_suffix _).trans (List.suffix_cons d cs)
      · cases h

theorem suffix_scanSignedExponent {cs rest : List Char} {exponent : Int}
    (h : scanSignedExponent cs = some (exponent, rest)) : rest <:+ cs := by
  unfold scanSignedExponent at h
  split at h
  · exact (suffix_scanExponentDigits h).trans (List.suffix_cons _ _)
  · exact (suffix_scanExponentDigits h).trans (List.suffix_cons _ _)
  · exact suffix_scanExponentDigits h

theorem suffix_scanExponent (cs : List Char) : (scanExponent cs).2 <:+ cs := by
  unfold scanExponent
  split
  · next c rest =>
      split
      · split
        · next h => exact (suffix_scanSignedExponent h).trans (List.suffix_cons c rest)
        · exact List.suffix_refl _
      · exact List.suffix_refl _
  · exact List.suffix_refl _

theorem suffix_scanTail (negative : Bool) (whole cs : List Char) :
    (scanTail negative whole cs).2 <:+ cs :=
  (suffix_scanExponent _).trans (suffix_scanFraction cs)

/-- What is read as the whole part of a numeral are digits at the front of the text. -/
theorem scanUnsigned_sound {negative : Bool} {cs rest : List Char} {n : Numeral}
    (h : scanUnsigned? negative cs = some (n, rest)) :
    rest <:+ cs ∧ n.whole <+: cs ∧ ∀ c ∈ n.whole, c.isDigit = true := by
  unfold scanUnsigned? at h
  split at h
  · next tail =>
      have hsuffix := suffix_scanTail negative ['0'] tail
      cases h
      exact ⟨hsuffix.trans (List.suffix_cons _ _), ⟨tail, rfl⟩, by simp⟩
  · next d tail _ =>
      split at h
      · have hsuffix := suffix_scanTail negative ((d :: tail).takeWhile Char.isDigit)
          ((d :: tail).dropWhile Char.isDigit)
        cases h
        exact ⟨hsuffix.trans (List.dropWhile_suffix _), List.takeWhile_prefix _,
          List.all_eq_true.mp List.all_takeWhile⟩
      · cases h
  · cases h

/-- What is read as the whole part of a numeral are digits in the text. -/
theorem scan_sound {cs rest : List Char} {n : Numeral} (h : scan? cs = some (n, rest)) :
    rest <:+ cs ∧ n.whole <:+: cs ∧ ∀ c ∈ n.whole, c.isDigit = true := by
  unfold scan? at h
  split at h
  · next tail =>
      obtain ⟨hrest, hwhole, hdigits⟩ := scanUnsigned_sound h
      exact ⟨hrest.trans (List.suffix_cons _ _),
        hwhole.isInfix.trans (List.suffix_cons _ _).isInfix, hdigits⟩
  · obtain ⟨hrest, hwhole, hdigits⟩ := scanUnsigned_sound h
    exact ⟨hrest, hwhole.isInfix, hdigits⟩

/-- So many digits name a number below that power of ten. -/
theorem ofDigitChars_lt {ds : List Char} (h : ∀ c ∈ ds, c.isDigit = true) (start : Nat) :
    Nat.ofDigitChars 10 ds start < (start + 1) * Nat.pow 10 ds.length := by
  induction ds generalizing start with
  | nil => simp
  | cons d ds ih =>
      obtain ⟨hd, hds⟩ := List.forall_mem_cons.mp h
      have hvalue : d.toNat - '0'.toNat ≤ 9 := by
        have hnine : d.toNat ≤ 57 := (Char.isDigit_iff_toNat.mp hd).2
        have hzero : '0'.toNat = 48 := rfl
        omega
      rw [Nat.ofDigitChars_cons, List.length_cons, Nat.pow_eq, Nat.pow_succ]
      calc Nat.ofDigitChars 10 ds (10 * start + (d.toNat - '0'.toNat))
        _ < (10 * start + (d.toNat - '0'.toNat) + 1) * 10 ^ ds.length := ih hds _
        _ ≤ ((start + 1) * 10) * 10 ^ ds.length := Nat.mul_le_mul_right _ (by omega)
        _ = (start + 1) * (10 ^ ds.length * 10) := by ac_rfl

theorem natAbs_toInt_lt {n : Numeral} (hdigits : ∀ c ∈ n.whole, c.isDigit = true) {k : Nat}
    (h : n.whole.length ≤ k) : n.toInt.natAbs < Nat.pow 10 k := by
  have hbelow := ofDigitChars_lt hdigits 0
  rw [Nat.zero_add, Nat.one_mul] at hbelow
  have habs : n.toInt.natAbs = Nat.ofDigitChars 10 n.whole 0 := by
    unfold toInt
    cases n.negative <;> simp
  rw [habs]
  exact Nat.lt_of_lt_of_le hbelow (Nat.pow_le_pow_right (by decide) h)

/-- An integer of not too many digits can be written. -/
theorem refusal?_toInt {n : Numeral} (hdigits : ∀ c ∈ n.whole, c.isDigit = true)
    (h : n.whole.length ≤ Data.maxDigits) : Json.refusal? (.int n.toInt) = none := by
  have hlt := natAbs_toInt_lt hdigits h
  have hwritable : (Data.int n.toInt).isWritable = true := by
    simp only [Data.isWritable, decide_eq_true_eq]
    exact hlt
  rw [Json.refusal?, if_pos hwritable]

end Numeral

namespace Json

/-! ### Lexemes -/

/-- The text has an integer of so many digits, more than are converted. -/
def LongInteger (count : Nat) (cs : List Char) : Prop :=
  Data.maxDigits < count ∧ ∃ digits, digits <:+: cs ∧ digits.length = count ∧
    ∀ c ∈ digits, c.isDigit = true

theorem LongInteger.mono {count : Nat} {cs cs' : List Char} (h : LongInteger count cs)
    (hwithin : cs <:+: cs') : LongInteger count cs' := by
  obtain ⟨hlong, digits, hdigits, hcount⟩ := h
  exact ⟨hlong, digits, hdigits.trans hwithin, hcount⟩

/-- What an obstacle says of a text. -/
def Obstacle.Sound (cs : List Char) : Obstacle → Prop
  | .fault _ _ => True
  | .tooManyDigits count => LongInteger count cs

/-- What a lexeme says of a text that has it. -/
def Lexeme.Sound (cs : List Char) : Lexeme → Prop
  | .scalar value => refusal? value = none
  | .obstacle cause => cause.Sound cs
  | _ => True

theorem Lexeme.Sound.mono {lexeme : Lexeme} {cs cs' : List Char} (h : lexeme.Sound cs)
    (hwithin : cs <:+: cs') : lexeme.Sound cs' := by
  cases lexeme with
  | obstacle cause =>
      cases cause with
      | fault => trivial
      | tooManyDigits count => exact LongInteger.mono h hwithin
  | _ => exact h

theorem sound_scanEscape {opening cs text : List Char} {cause : Obstacle}
    (h : scanEscape opening cs = .error cause) : cause.Sound text := by
  unfold scanEscape scanUnicodeEscape at h
  repeat' split at h
  all_goals cases h
  all_goals trivial

/-- A string takes text from the front, and only a fault stops it. -/
theorem scanString_sound (opening text : List Char) (skip : Nat) (read cs : List Char) :
    (∀ s rest, scanString opening skip read cs = .ok (s, rest) → rest <:+ cs) ∧
      (∀ cause, scanString opening skip read cs = .error cause → cause.Sound text) := by
  induction cs generalizing skip read with
  | nil =>
      constructor
      · rintro s rest ⟨⟩
      · rintro cause ⟨⟩
        trivial
  | cons c cs ih =>
      have hrest : ∀ {skip read}, (∀ s rest, scanString opening skip read cs = .ok (s, rest) →
          rest <:+ c :: cs) := fun s rest h => ((ih _ _).1 s rest h).trans (List.suffix_cons c cs)
      cases skip with
      | succ skip => exact ⟨hrest, (ih _ _).2⟩
      | zero =>
          simp only [scanString]
          split
          · constructor
            · rintro s rest ⟨⟩
              exact List.suffix_cons c cs
            · rintro cause ⟨⟩
          · split
            · cases hescape : scanEscape opening cs with
              | ok decoded => exact ⟨hrest, (ih _ _).2⟩
              | error cause =>
                  constructor
                  · rintro s rest ⟨⟩
                  · rintro cause' ⟨⟩
                    exact sound_scanEscape hescape
            · split
              · constructor
                · rintro s rest ⟨⟩
                · rintro cause ⟨⟩
                  trivial
              · exact ⟨hrest, (ih _ _).2⟩

theorem sound_numeralLexeme {n : Numeral} {cs : List Char} (hwhole : n.whole <:+: cs)
    (hdigits : ∀ c ∈ n.whole, c.isDigit = true) : (numeralLexeme n).Sound cs := by
  unfold numeralLexeme
  split
  · split
    · next hlong => exact ⟨hlong, n.whole, hwhole, rfl, hdigits⟩
    · next hshort => exact Numeral.refusal?_toInt hdigits (Nat.not_lt.mp hshort)
  · rfl

theorem refusal?_words : ∀ word ∈ words, refusal? word.2 = none := by
  simp [words, refusal?]

theorem scanScalar_sound (cs : List Char) :
    (scanScalar cs).1.Sound cs ∧ (scanScalar cs).2 <:+ cs := by
  unfold scanScalar
  split
  · next value rest hword =>
      obtain ⟨⟨word, value⟩, mem, hfound⟩ := List.exists_of_findSome?_eq_some hword
      rw [Option.ite_none_right_eq_some] at hfound
      obtain ⟨_, ⟨⟩⟩ := hfound
      exact ⟨refusal?_words _ mem, List.drop_suffix _ _⟩
  · split
    · next n rest hscan =>
        obtain ⟨hrest, hwhole, hdigits⟩ := Numeral.scan_sound hscan
        exact ⟨sound_numeralLexeme hwhole hdigits, hrest⟩
    · exact ⟨trivial, List.nil_suffix⟩

/-- A lexeme takes text from the front, and says nothing false of it. -/
theorem scanLexeme_sound (cs : List Char) :
    (scanLexeme cs).1.Sound cs ∧ (scanLexeme cs).2 <:+ cs := by
  unfold scanLexeme
  split
  iterate 6 exact ⟨trivial, List.suffix_cons _ _⟩
  · next rest =>
      obtain ⟨hok, herror⟩ := scanString_sound ('"' :: rest) ('"' :: rest) 0 [] rest
      split
      · next s tail hscan => exact ⟨trivial, (hok s tail hscan).trans (List.suffix_cons _ _)⟩
      · next cause hscan => exact ⟨herror cause hscan, List.nil_suffix⟩
  · exact scanScalar_sound cs

theorem lexemesUpTo_sound (bound : Nat) (cs : List Char) :
    ∀ entry ∈ lexemesUpTo bound cs, entry.1.Sound cs := by
  induction bound generalizing cs with
  | zero => cases cs <;> nofun
  | succ bound ih =>
      cases cs with
      | nil => nofun
      | cons c rest =>
          simp only [lexemesUpTo]
          split
          · intro entry mem
            exact (ih rest entry mem).mono (List.suffix_cons c rest).isInfix
          · obtain ⟨hlexeme, hafter⟩ := scanLexeme_sound (c :: rest)
            refine List.forall_mem_cons.mpr ⟨hlexeme, fun entry mem => ?_⟩
            exact (ih _ entry mem).mono hafter.isInfix

/-! ### The reader -/

/-- What a stop says of a text. -/
def Stop.Sound (cs : List Char) : Stop → Prop
  | .obstacle cause => cause.Sound cs
  | .tooDeep _ => True

/-- A result is of a kind, and a stop says nothing false of the text. -/
def SoundResult {α : Type} (cs : List Char) (holds : α → Prop) : Except Stop α → Prop
  | .ok value => holds value
  | .error stop => stop.Sound cs

/-- The values of a container that is open can be written. -/
def Frame.Writable : Frame → Prop
  | .array items => itemsRefusal? items = none
  | .object members _ => membersRefusal? members = none

/-- All values that the reader keeps can be written. -/
def State.Writable : State → Prop
  | .value frames => ∀ frame ∈ frames, frame.Writable
  | .arrayStart frames => ∀ frame ∈ frames, frame.Writable
  | .objectStart frames => ∀ frame ∈ frames, frame.Writable
  | .name members frames =>
    membersRefusal? members = none ∧ ∀ frame ∈ frames, frame.Writable
  | .colon members _ frames =>
    membersRefusal? members = none ∧ ∀ frame ∈ frames, frame.Writable
  | .after done frames => refusal? done = none ∧ ∀ frame ∈ frames, frame.Writable

section Step

variable {room : Nat} {text cs : List Char} {lexeme : Lexeme} {frames : List Frame}

theorem sound_startValue (hlexeme : lexeme.Sound text)
    (hframes : ∀ frame ∈ frames, frame.Writable) :
    SoundResult text State.Writable (startValue room lexeme cs frames) := by
  cases lexeme with
  | string s => exact ⟨rfl, hframes⟩
  | scalar value => exact ⟨hlexeme, hframes⟩
  | arrayOpen =>
      simp only [startValue]
      split
      · trivial
      · exact hframes
  | objectOpen =>
      simp only [startValue]
      split
      · trivial
      · exact hframes
  | obstacle cause => exact hlexeme
  | _ => trivial

theorem sound_startMember {members : List (String × Data)} (hlexeme : lexeme.Sound text)
    (hmembers : membersRefusal? members = none) (hframes : ∀ frame ∈ frames, frame.Writable) :
    SoundResult text State.Writable (startMember members lexeme cs frames) := by
  unfold startMember
  split
  · exact ⟨hmembers, hframes⟩
  · exact hlexeme
  · trivial

theorem membersRefusal?_put {members : List (String × Data)} {value : Data}
    (hmembers : membersRefusal? members = none) (name : String)
    (hvalue : refusal? value = none) :
    membersRefusal? (Members.put members name value) = none := by
  rw [membersRefusal?_eq_none_iff] at hmembers ⊢
  intro member mem
  rcases Members.mem_put mem with rfl | mem
  · exact hvalue
  · exact hmembers member mem

theorem sound_continueAfter {value : Data} (hvalue : refusal? value = none)
    (hframes : ∀ frame ∈ frames, frame.Writable) :
    SoundResult text State.Writable (continueAfter value lexeme cs frames) := by
  cases frames with
  | nil => trivial
  | cons frame outer =>
      obtain ⟨hframe, houter⟩ := List.forall_mem_cons.mp hframes
      cases frame with
      | array items =>
          have hitems : itemsRefusal? (value :: items) = none := by
            rw [itemsRefusal?, hvalue, Option.none_or]
            exact hframe
          simp only [continueAfter]
          split
          · exact List.forall_mem_cons.mpr ⟨hitems, houter⟩
          · refine ⟨?_, houter⟩
            rw [refusal?, itemsRefusal?_eq_none_iff]
            exact fun item mem => itemsRefusal?_eq_none_iff.mp hitems item (List.mem_reverse.mp mem)
          · trivial
      | object members name =>
          have hmembers := membersRefusal?_put hframe name hvalue
          simp only [continueAfter]
          split
          · exact ⟨hmembers, houter⟩
          · exact ⟨hmembers, houter⟩
          · trivial

/-- One lexeme keeps the values writable, or says why not. -/
theorem sound_step {state : State} (hstate : state.Writable) (hlexeme : lexeme.Sound text) :
    SoundResult text State.Writable (step room state lexeme cs) := by
  cases state with
  | value frames => exact sound_startValue hlexeme hstate
  | arrayStart frames =>
      simp only [step]
      split
      · exact ⟨rfl, hstate⟩
      · exact sound_startValue hlexeme (List.forall_mem_cons.mpr ⟨rfl, hstate⟩)
  | objectStart frames =>
      simp only [step]
      split
      · exact ⟨rfl, hstate⟩
      · exact sound_startMember hlexeme rfl hstate
  | name members frames => exact sound_startMember hlexeme hstate.1 hstate.2
  | colon members name frames =>
      simp only [step]
      split
      · exact List.forall_mem_cons.mpr hstate
      · trivial
  | after value frames => exact sound_continueAfter hstate.1 hstate.2

/-- So do all lexemes. -/
theorem sound_run {state : State} (hstate : state.Writable) {entries : List (Lexeme × List Char)}
    (hentries : ∀ entry ∈ entries, entry.1.Sound text) :
    SoundResult text State.Writable (run room state entries) := by
  induction entries generalizing state with
  | nil => exact hstate
  | cons entry entries ih =>
      obtain ⟨lexeme, cs⟩ := entry
      obtain ⟨hlexeme, hentries⟩ := List.forall_mem_cons.mp hentries
      have hstep : SoundResult text State.Writable (step room state lexeme cs) :=
        sound_step hstate hlexeme
      simp only [run]
      cases hnext : step room state lexeme cs with
      | ok state' =>
          rw [hnext] at hstep
          exact ih hstep hentries
      | error stop =>
          rw [hnext] at hstep
          exact hstep

end Step

/-- What is read can be written, and an integer that stops the reader is in the text. -/
theorem sound_read (room : Nat) (cs : List Char) :
    SoundResult cs (fun value => refusal? value = none) (Json.read room cs) := by
  unfold Json.read
  split
  · trivial
  · have hstart : State.Writable (.value []) := List.forall_mem_nil _
    have hrun : SoundResult cs State.Writable (run room (.value []) (lexemesUpTo cs.length cs)) :=
      sound_run hstart (lexemesUpTo_sound cs.length cs)
    simp only [lexemes]
    cases hfinal : run room (.value []) (lexemesUpTo cs.length cs) with
    | error stop =>
        rw [hfinal] at hrun
        exact hrun
    | ok state =>
        rw [hfinal] at hrun
        cases state with
        | after value frames =>
            cases frames with
            | nil => exact hrun.1
            | cons => trivial
        | _ => trivial

theorem refusal?_of_parse {room : Nat} {text : String} {value : Data}
    (h : parse room text = .ok value) :
    refusal? value = none := by
  have hread := sound_read room text.toList
  unfold parse at h
  simp only at h
  split at h
  · next hok =>
      cases h
      rw [hok] at hread
      exact hread
  · cases h

theorem longInteger_of_parse {room : Nat} {text : String} {count : Nat}
    (h : parse room text = .error (.tooManyDigits count)) : LongInteger count text.toList := by
  have hread := sound_read room text.toList
  unfold parse at h
  simp only at h
  split at h
  · cases h
  · next stop hstop =>
      rw [hstop] at hread
      cases stop with
      | tooDeep container => cases h
      | obstacle cause =>
          cases cause with
          | fault => cases h
          | tooManyDigits count' =>
              cases h
              exact hread

/-- An integer of too many digits on its own is refused as such. -/
theorem parse_long_integer (room : Nat) {digits : List Char}
    (hdigits : ∀ c ∈ digits, c.isDigit = true)
    (hleading : digits.head? ≠ some '0') (hlong : Data.maxDigits < digits.length) :
    parse room (String.ofList digits) = .error (.tooManyDigits digits.length) := by
  obtain ⟨d, ds, rfl⟩ : ∃ d ds, digits = d :: ds := by
    cases digits with
    | nil => cases hlong
    | cons d ds => exact ⟨d, ds, rfl⟩
  let n : Numeral := ⟨false, d :: ds, none, none⟩
  have hformed : n.WellFormed :=
    ⟨hdigits, .inr ⟨d, ds, rfl, fun hd => hleading (congrArg some hd)⟩, nofun⟩
  have htext : n.text = d :: ds := by simp [n, Numeral.text, Numeral.tailText,
    Numeral.fractionTail, Numeral.exponentTail]
  have hscan := scanLexeme_numeral hformed endsBefore_nil
  rw [List.append_nil, htext] at hscan
  have hlexeme : numeralLexeme n = .obstacle (.tooManyDigits (d :: ds).length) := by
    have hinteger : n.isInteger = true := rfl
    unfold numeralLexeme
    rw [if_pos hinteger, if_pos hlong]
  rw [hlexeme] at hscan
  have hstart : StartsLexeme (d :: ds) := htext ▸ startsLexeme_numeral hformed
  obtain ⟨bound, _, hlexemes⟩ := lexemesUpTo_of_startsLexeme hstart hscan (Nat.le_refl _)
  have hread : Json.read room (d :: ds) = .error (.obstacle (.tooManyDigits (d :: ds).length)) := by
    rw [read_of_startsLexeme room hstart, hlexemes]
    rfl
  simp only [parse, String.toList_ofList, hread, Error.ofStop]

end Json

end Rulebook
