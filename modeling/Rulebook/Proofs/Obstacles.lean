import Mathlib.Data.List.Infix
import Rulebook.Proofs.LongIntegers
import Rulebook.Text.LineEnd

/-!
What keeps a text from being read, beside its form: numerals of too many digits, and
brackets that open more containers than may be open at once.

Both are seen in the text alone (`LongNumeral`, `openings`), and it makes no difference
to either how lines end. A reader of JSON keeps a frame for every container that is
open, and opens one for a bracket only; so where it stops at a container too many, the
text has more brackets than containers may be open (`Json.openings_of_parse`).
-/

namespace Rulebook

/-! ### Numerals -/

/-- A run of so many digits, with nothing but underscores between them. -/
def DigitRun (count : Nat) (run : List Char) : Prop :=
  run.countP Char.isDigit = count ∧ ∀ c ∈ run, c.isDigit = true ∨ c = '_'

section DigitRun

variable {count : Nat} {run : List Char}

theorem digitRun_nil : DigitRun 0 [] := ⟨rfl, List.forall_mem_nil _⟩

theorem DigitRun.digit {d : Char} (hd : d.isDigit = true) (h : DigitRun count run) :
    DigitRun (count + 1) (d :: run) := by
  refine ⟨?_, List.forall_mem_cons.mpr ⟨.inl hd, h.2⟩⟩
  rw [List.countP_cons_of_pos hd, h.1]

theorem DigitRun.underscore (h : DigitRun count run) : DigitRun count ('_' :: run) := by
  refine ⟨?_, List.forall_mem_cons.mpr ⟨.inr rfl, h.2⟩⟩
  rw [List.countP_cons_of_neg (by decide), h.1]

/-- A run of digits goes on over no line end. -/
theorem DigitRun.not_mem (h : DigitRun count run) : '\n' ∉ run ∧ '\r' ∉ run := by
  constructor
  all_goals
    intro mem
    exact absurd (h.2 _ mem) (by decide)

end DigitRun

/-- The text has a numeral of so many digits, more than are converted. -/
def LongNumeral (count : Nat) (cs : List Char) : Prop :=
  Data.maxDigits < count ∧ ∃ run, run <:+: cs ∧ DigitRun count run

section LongNumeral

variable {count : Nat} {cs cs' : List Char}

theorem LongNumeral.mono (h : LongNumeral count cs) (hwithin : cs <:+: cs') :
    LongNumeral count cs' := by
  obtain ⟨hlong, run, hinfix, hrun⟩ := h
  exact ⟨hlong, run, hinfix.trans hwithin, hrun⟩

theorem longNumeral_of_longInteger (h : Json.LongInteger count cs) : LongNumeral count cs := by
  obtain ⟨hlong, digits, hdigits, hlength, hall⟩ := h
  refine ⟨hlong, digits, hdigits, ?_, fun c mem => .inl (hall c mem)⟩
  rw [List.countP_eq_length.mpr hall, hlength]

end LongNumeral

/-! ### Brackets -/

/-- Whether a character opens a container. -/
def isOpening (c : Char) : Bool := c == '[' || c == '\x7b'

/-- How many containers the brackets of a text open at most. -/
def openings (cs : List Char) : Nat := cs.countP isOpening

section Openings

variable {c : Char} {cs cs' : List Char}

theorem openings_le_of_suffix (h : cs <:+ cs') : openings cs ≤ openings cs' :=
  h.sublist.countP_le

theorem openings_cons_of_isOpening (h : isOpening c = true) (cs : List Char) :
    openings (c :: cs) = openings cs + 1 :=
  List.countP_cons_of_pos h

end Openings

/-! ### Line ends -/

namespace Text

theorem unifyLineEnds_eq_map (cs : List Char) :
    unifyLineEnds cs = (joinLineEnds cs).map fun c => if c = '\r' then '\n' else c := by
  fun_induction joinLineEnds cs with
  | case1 => rfl
  | case2 rest ih =>
      rw [unifyLineEnds, ih]
      rfl
  | case3 c rest hpair ih =>
      rw [unifyLineEnds, ih]
      · rfl
      · exact hpair

theorem joinLineEnds_sublist (cs : List Char) : (joinLineEnds cs).Sublist cs := by
  fun_induction joinLineEnds cs with
  | case1 => exact .slnil
  | case2 rest ih => exact (ih.cons_cons '\n').cons '\r'
  | case3 c rest _ ih => exact ih.cons_cons c

/-- What has no line end stands there before line ends are joined. -/
theorem prefix_of_prefix_joinLineEnds {run cs : List Char} (h : run <+: joinLineEnds cs)
    (hline : '\n' ∉ run) : run <+: cs := by
  induction run generalizing cs with
  | nil => exact List.nil_prefix
  | cons c run ih =>
      rw [List.mem_cons, not_or] at hline
      obtain ⟨hc, hline⟩ := hline
      unfold joinLineEnds at h
      split at h
      · exact absurd (List.prefix_nil.mp h) (List.cons_ne_nil c run)
      · exact absurd (List.cons_prefix_cons.mp h).1.symm hc
      · obtain ⟨rfl, hrest⟩ := List.cons_prefix_cons.mp h
        exact List.cons_prefix_cons.mpr ⟨rfl, ih hrest hline⟩

theorem infix_of_infix_joinLineEnds {run cs : List Char} (h : run <:+: joinLineEnds cs)
    (hline : '\n' ∉ run) : run <:+: cs := by
  fun_induction joinLineEnds cs with
  | case1 => exact h
  | case2 rest ih =>
      rcases List.infix_cons_iff.mp h with hprefix | hrest
      · cases run with
        | nil => exact List.nil_infix
        | cons c run =>
            obtain ⟨rfl, _⟩ := List.cons_prefix_cons.mp hprefix
            exact absurd List.mem_cons_self hline
      · exact ((ih hrest).trans (List.suffix_cons _ _).isInfix).trans (List.suffix_cons _ _).isInfix
  | case3 c rest hpair ih =>
      rcases List.infix_cons_iff.mp h with hprefix | hrest
      · rw [← joinLineEnds] at hprefix
        · exact (prefix_of_prefix_joinLineEnds hprefix hline).isInfix
        · exact hpair
      · exact (ih hrest).trans (List.suffix_cons _ _).isInfix

end Text

section LineEnds

variable {count : Nat} {cs : List Char}

theorem longNumeral_of_joinLineEnds (h : LongNumeral count (Text.joinLineEnds cs)) :
    LongNumeral count cs := by
  obtain ⟨hlong, run, hinfix, hrun⟩ := h
  exact ⟨hlong, run, Text.infix_of_infix_joinLineEnds hinfix hrun.not_mem.1, hrun⟩

theorem longNumeral_of_unifyLineEnds (h : LongNumeral count (Text.unifyLineEnds cs)) :
    LongNumeral count cs := by
  obtain ⟨hlong, run, hinfix, hrun⟩ := h
  rw [Text.unifyLineEnds_eq_map] at hinfix
  obtain ⟨run', hinfix', rfl⟩ := List.infix_map_iff.mp hinfix
  have hsame : run'.map (fun c => if c = '\r' then '\n' else c) = run' := by
    refine (List.map_congr_left fun c mem => ?_).trans (List.map_id run')
    have hmapped := hrun.2 _ (List.mem_map_of_mem mem)
    by_cases hreturn : c = '\r'
    · rw [if_pos hreturn] at hmapped
      exact absurd hmapped (by decide)
    · exact if_neg hreturn
  rw [hsame] at hrun
  exact longNumeral_of_joinLineEnds ⟨hlong, run', hinfix', hrun⟩

theorem openings_joinLineEnds_le (cs : List Char) : openings (Text.joinLineEnds cs) ≤ openings cs :=
  (Text.joinLineEnds_sublist cs).countP_le

theorem openings_unifyLineEnds_le (cs : List Char) :
    openings (Text.unifyLineEnds cs) ≤ openings cs := by
  refine Nat.le_trans ?_ (openings_joinLineEnds_le cs)
  rw [Text.unifyLineEnds_eq_map, openings, List.countP_map]
  refine List.countP_mono_left fun c _ hopening => ?_
  simp only [Function.comp_apply] at hopening
  split at hopening
  · cases hopening
  · exact hopening

end LineEnds

/-! ### Containers of JSON -/

namespace Json

/-- Whether a lexeme opens a container. -/
def Lexeme.opens : Lexeme → Bool
  | .arrayOpen | .objectOpen => true
  | _ => false

/-- How many containers are open. -/
def State.opened : State → Nat
  | .value frames | .after _ frames => frames.length
  | .arrayStart frames | .objectStart frames => frames.length + 1
  | .name _ frames | .colon _ _ frames => frames.length + 1

theorem opens_scanScalar (cs : List Char) : (scanScalar cs).1.opens = false := by
  unfold scanScalar
  split
  · rfl
  · split
    · unfold numeralLexeme
      repeat' split
      all_goals rfl
    · rfl

/-- A lexeme that opens a container is a bracket. -/
theorem opens_scanLexeme {cs : List Char} (h : (scanLexeme cs).1.opens = true) :
    ∃ c, isOpening c = true ∧ cs = c :: (scanLexeme cs).2 := by
  unfold scanLexeme at h ⊢
  split at h
  · exact ⟨'[', rfl, rfl⟩
  · cases h
  · exact ⟨'\x7b', rfl, rfl⟩
  iterate 3 cases h
  · split at h
    · cases h
    · cases h
  · rw [opens_scanScalar] at h
    cases h

theorem openings_scanLexeme (cs : List Char) :
    openings (scanLexeme cs).2 + (if (scanLexeme cs).1.opens then 1 else 0) ≤ openings cs := by
  split
  · next hopens =>
      obtain ⟨c, hc, hcs⟩ := opens_scanLexeme hopens
      rw [hcs, openings_cons_of_isOpening hc, ← hcs]
  · exact openings_le_of_suffix (scanLexeme_sound cs).2

theorem opens_lexemesUpTo_le (bound : Nat) (cs : List Char) :
    (lexemesUpTo bound cs).countP (·.1.opens) ≤ openings cs := by
  induction bound generalizing cs with
  | zero => cases cs <;> exact Nat.zero_le _
  | succ bound ih =>
      cases cs with
      | nil => exact Nat.zero_le _
      | cons c rest =>
          simp only [lexemesUpTo]
          split
          · exact Nat.le_trans (ih rest) (openings_le_of_suffix (List.suffix_cons c rest))
          · have hlexeme := openings_scanLexeme (c :: rest)
            have hafter := ih (scanLexeme (c :: rest)).2
            simp only [List.countP_cons]
            omega

/-- What a step keeps of the containers that are open: a lexeme opens one at most, and it
stops the reader only where no more may be open. -/
def Opens (room opened : Nat) (lexeme : Lexeme) : Except Stop State → Prop
  | .ok state => state.opened ≤ opened + if lexeme.opens then 1 else 0
  | .error (.tooDeep _) => room ≤ opened ∧ lexeme.opens = true
  | .error (.obstacle _) => True

section Step

variable {room : Nat} {lexeme : Lexeme} {cs : List Char} {frames : List Frame}

theorem opens_startValue : Opens room frames.length lexeme (startValue room lexeme cs frames) := by
  cases lexeme with
  | arrayOpen =>
      simp only [startValue]
      split
      · next hfull => exact ⟨hfull, rfl⟩
      · exact Nat.le_refl _
  | objectOpen =>
      simp only [startValue]
      split
      · next hfull => exact ⟨hfull, rfl⟩
      · exact Nat.le_refl _
  | string s => exact Nat.le_refl _
  | scalar value => exact Nat.le_refl _
  | _ => trivial

theorem opens_startMember (members : List (String × Data)) :
    Opens room (frames.length + 1) lexeme (startMember members lexeme cs frames) := by
  unfold startMember
  split
  · exact Nat.le_refl _
  · trivial
  · trivial

theorem opens_continueAfter (value : Data) :
    Opens room frames.length lexeme (continueAfter value lexeme cs frames) := by
  cases frames with
  | nil => trivial
  | cons frame outer =>
      cases frame with
      | array items =>
          simp only [continueAfter]
          split
          · exact Nat.le_add_right _ _
          · exact Nat.le_add_right _ _
          · trivial
      | object members name =>
          simp only [continueAfter]
          split
          · exact Nat.le_add_right _ _
          · exact Nat.le_add_right _ _
          · trivial

theorem opens_step (state : State) :
    Opens room state.opened lexeme (step room state lexeme cs) := by
  cases state with
  | value frames => exact opens_startValue
  | arrayStart frames =>
      simp only [step]
      split
      · exact Nat.le_add_right _ _
      · exact opens_startValue
  | objectStart frames =>
      simp only [step]
      split
      · exact Nat.le_add_right _ _
      · exact opens_startMember []
  | name members frames => exact opens_startMember members
  | colon members name frames =>
      simp only [step]
      split
      · exact Nat.le_add_right _ _
      · trivial
  | after value frames => exact opens_continueAfter value

end Step

/-- Where the reader stops at a container too many, so many have been opened by lexemes. -/
theorem opens_run {room : Nat} {state : State} {entries : List (Lexeme × List Char)}
    {container : Container}
    (h : run room state entries = .error (.tooDeep container)) :
    room < state.opened + entries.countP (·.1.opens) := by
  induction entries generalizing state with
  | nil => cases h
  | cons entry entries ih =>
      obtain ⟨lexeme, cs⟩ := entry
      have hstep : Opens room state.opened lexeme (step room state lexeme cs) := opens_step state
      simp only [run] at h
      simp only [List.countP_cons]
      cases hnext : step room state lexeme cs with
      | ok state' =>
          rw [hnext] at h hstep
          have hrest := ih h
          simp only [Opens] at hstep
          omega
      | error stop =>
          rw [hnext] at h hstep
          cases h
          obtain ⟨hfull, hopens⟩ := hstep
          simp only [hopens, if_true]
          omega

/-- A text that nests too deep has more brackets than containers may be open. -/
theorem openings_of_parse {room : Nat} {text : String} {container : Container}
    (h : parse room text = .error (.tooDeep container)) : room < openings text.toList := by
  have hread : Json.read room text.toList = .error (.tooDeep container) := by
    unfold parse at h
    simp only at h
    split at h
    · cases h
    · next stop hstop =>
        rw [hstop]
        cases stop with
        | tooDeep container' =>
            cases h
            rfl
        | obstacle cause => cases cause <;> cases h
  unfold Json.read at hread
  split at hread
  · cases hread
  · simp only [lexemes] at hread
    cases hrun : run room (.value []) (lexemesUpTo text.toList.length text.toList) with
    | ok state =>
        rw [hrun] at hread
        obtain _ | _ | _ | _ | _ | ⟨_, _ | _⟩ := state
        all_goals cases hread
    | error stop =>
        rw [hrun] at hread
        cases hread
        have hopened := opens_run hrun
        have hlexemes := opens_lexemesUpTo_le text.toList.length text.toList
        simp only [State.opened, List.length_nil, Nat.zero_add] at hopened
        omega

end Json

end Rulebook
