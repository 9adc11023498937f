import Rulebook.DecodeError
import Rulebook.Proofs.NumeralText

/-!
Places in a document, and their texts.

A place leads on from where its first steps lead (`Data.at?_append`). Its text spells it step
by step, so that a place whose names have neither points nor brackets is read back from its
text (`DataPath.ofText?_text`).
-/

namespace Rulebook

/-- A place leads on from where its first steps lead. -/
theorem Data.at?_append (value : Data) (path rest : DataPath) :
    value.at? (path ++ rest) = (value.at? path).bind (·.at? rest) := by
  induction path generalizing value with
  | nil => rfl
  | cons step path ih =>
      cases step with
      | key name =>
          cases value with
          | object members =>
              simp only [List.cons_append, at?, Option.bind_assoc]
              exact congrArg _ (funext ih)
          | _ => rfl
      | index i =>
          cases value with
          | array items =>
              simp only [List.cons_append, at?, Option.bind_assoc]
              exact congrArg _ (funext ih)
          | _ => rfl

/-! ### Texts of places -/

/-- The text of a place goes on with that of each step. -/
theorem DataPath.toList_text (path : DataPath) :
    path.text.toList = '$' :: path.flatMap fun step => step.text.toList := by
  have hfold : ∀ start : String,
      (path.foldl (fun text segment => text ++ segment.text) start).toList =
        start.toList ++ path.flatMap fun step => step.text.toList := by
    induction path with
    | nil => simp
    | cons step path ih => simp [ih, String.toList_append]
  exact hfold "$"

/-- A character that is part of a name, and begins no step. -/
def isNameChar (c : Char) : Bool := c != '.' && c != '['

/-- The steps that a text spells: a point and a name, or an index in brackets, one after
another. -/
def DataPath.ofChars? : List Char → Option DataPath
  | [] => some []
  | '.' :: rest =>
    (ofChars? (rest.dropWhile isNameChar)).map
      (.key (String.ofList (rest.takeWhile isNameChar)) :: ·)
  | '[' :: rest =>
    if (rest.dropWhile Char.isDigit).head? = some ']' then
      (ofChars? (rest.dropWhile Char.isDigit).tail).map
        (.index (Nat.ofDigitChars 10 (rest.takeWhile Char.isDigit) 0) :: ·)
    else none
  | _ => none
termination_by cs => cs.length
decreasing_by
  · exact Nat.lt_succ_of_le (List.dropWhile_sublist _).length_le
  · exact Nat.lt_succ_of_le ((List.tail_sublist _).trans (List.dropWhile_sublist _)).length_le

/-- The place that a text spells: a dollar sign for the root, and then its steps. -/
def DataPath.ofText? (text : String) : Option DataPath :=
  match text.toList with
  | '$' :: rest => ofChars? rest
  | _ => none

/-- A step whose name, if it has one, has neither points nor opening brackets. -/
def Segment.IsPlain : Segment → Prop
  | .key name => ∀ c ∈ name.toList, isNameChar c = true
  | .index _ => True

@[simp] theorem Segment.isPlain_index (i : Nat) : (Segment.index i).IsPlain := trivial

/-- What follows a step does not go on with its name. -/
theorem head_texts {path : DataPath} {c : Char}
    (h : (path.flatMap fun step => step.text.toList).head? = some c) : isNameChar c = false := by
  cases path with
  | nil => cases h
  | cons step path =>
      cases step with
      | key name =>
          simp [Segment.text, String.toList_append] at h
          subst h
          rfl
      | index i =>
          simp [Segment.text, String.toList_append, toString] at h
          subst h
          rfl

/-- A place of plain steps is read back from its text. -/
theorem DataPath.ofText?_text {path : DataPath} (h : ∀ step ∈ path, step.IsPlain) :
    ofText? path.text = some path := by
  have hchars : ofChars? (path.flatMap fun step => step.text.toList) = some path := by
    induction path with
    | nil => rw [List.flatMap_nil, ofChars?]
    | cons step path ih =>
        obtain ⟨hstep, hpath⟩ := List.forall_mem_cons.mp h
        rw [List.flatMap_cons]
        cases step with
        | key name =>
            have htext : (Segment.key name).text.toList = '.' :: name.toList := by
              simp [Segment.text, String.toList_append]
            have hrest : ∀ c, (path.flatMap fun step => step.text.toList).head? = some c →
                isNameChar c = false := fun c => head_texts
            rw [htext, List.cons_append, ofChars?, Numeral.takeWhile_front hstep hrest,
              Numeral.dropWhile_front hstep hrest, ih hpath, String.ofList_toList]
            rfl
        | index i =>
            have htext : (Segment.index i).text.toList =
                '[' :: (Nat.toDigits 10 i ++ [']']) := by
              simp [Segment.text, String.toList_append, toString]
            have hdigits : ∀ c ∈ Nat.toDigits 10 i, c.isDigit = true :=
              fun c => Numeral.isDigit_of_mem_toDigits
            have hbracket : ∀ c, (']' :: path.flatMap fun step => step.text.toList).head? = some c →
                c.isDigit = false := by
              rintro c ⟨⟩
              rfl
            rw [htext, List.cons_append, List.append_assoc, List.singleton_append, ofChars?,
              Numeral.takeWhile_front hdigits hbracket, Numeral.dropWhile_front hdigits hbracket]
            simp [ih hpath, Nat.ofDigitChars_ten_toDigits]
  rw [ofText?, toList_text]
  exact hchars

end Rulebook
