import Rulebook.Data.Depth
import Rulebook.Evaluation
import Rulebook.Json.Writing
import Rulebook.Toml.Reading

/-!
What the stack and the memory of a running program are enough for.

Encoding, decoding, reading and writing follow the nesting of what they work on, on a
stack that the program shares with its callers. How far that goes is no property of the
program, so it is a parameter, and everything is defined for each `Machine`. A machine may
give out anywhere, except at leaves, which are not nested.
-/

namespace Rulebook

/-- What can be done at one depth of calls before the stack or the memory gives out. -/
structure Machine where
  /-- A document value is built, as the form of an expression. -/
  encodes : Data → Bool
  /-- A document value is decoded, or found to be at fault. -/
  decodes : Data → Bool
  /-- A value is written as JSON, or found to have a part without a text. -/
  writes : Json.Layout → Data → Bool
  /-- The lines of a value are indented by so many spaces for each container. -/
  indents : Nat → Data → Bool
  /-- The containers of a JSON text that may be open at once. -/
  jsonRoom : Nat
  tomlStack : Toml.Stack
  /-- The characters after which the writing of a TOML document breaks off, if it does. -/
  tomlCut? : List (String × Data) → Option Nat
  encodes_leaf : ∀ value : Data, value.isContainer = false → encodes value = true
  decodes_leaf : ∀ value : Data, value.isContainer = false → decodes value = true

/-- Why a document is not written. -/
inductive WriteFault where
  /-- An expression in it is too high to be encoded. -/
  | tooHigh
  /-- Its lines cannot be indented as asked. -/
  | indent (cause : Json.IndentFault)
  | refused (refusal : Json.Refusal)
deriving DecidableEq

/-- The wording of the refusal to encode a tree. -/
def tooHighMessage : String := "Expression nests too deeply to encode"

/-- The wording of a fault. -/
def WriteFault.message : WriteFault → String
  | .tooHigh => tooHighMessage
  | .indent cause => cause.message
  | .refused refusal => refusal.message

namespace Machine

/-- The JSON text of a value in a layout. -/
def jsonText (machine : Machine) (layout : Json.Layout) (value : Data) :
    Except Json.Refusal String :=
  if machine.writes layout value then
    match Json.refusal? value with
    | none => .ok (Json.text layout value)
    | some refusal => .error refusal
  else .error .outOfStack

/-- The layout that an indentation asks for, as far as there is memory for it. -/
def layoutFor (machine : Machine) (indent : Option Int) (value : Data) :
    Except Json.IndentFault Json.Layout :=
  Json.Layout.ofIndent (machine.indents · value) indent

/-- The JSON text of a value under an indentation. A string has no lines to indent. -/
def writeJson (machine : Machine) (indent : Option Int) (value : Data) :
    Except WriteFault String :=
  match value with
  | .string _ => .ok (Json.text .line value)
  | _ => do
    let layout ← (machine.layoutFor indent value).mapError .indent
    (machine.jsonText layout value).mapError .refused

/-- The JSON text of a document, if it has a form, under an indentation. -/
def writeDocument (machine : Machine) (indent : Option Int) :
    Option Data → Except WriteFault String
  | some value => machine.writeJson indent value
  | none => .error .tooHigh

/-- A machine with a stack of so many frames and memory for indentations of so many spaces.
A container takes a frame to be encoded, written or read as JSON; a level of an expression
takes five to be decoded, where no more levels are entered than documents may have. -/
def ofSize (frames spaces : Nat) : Machine where
  encodes value := decide (value.depth ≤ frames)
  decodes value := decide (5 * min value.depth (defaultMaxDepth + 1) ≤ frames)
  writes _ value := decide (value.depth ≤ frames)
  indents width _ := decide (width ≤ spaces)
  jsonRoom := frames
  tomlStack := ⟨frames, 2, 3⟩
  tomlCut? members := if 3 * Data.membersDepth members ≤ frames then none else some 0
  encodes_leaf value h := by simp [Data.depth_leaf h]
  decodes_leaf value h := by simp [Data.depth_leaf h]

/-- The machine that the program is run on. -/
def standard : Machine := ofSize 7900 (Nat.pow 2 32)

/-- No value is too deep to be decoded on a stack for all levels that documents may have. -/
theorem decodes_ofSize {frames : Nat} (h : 5 * (defaultMaxDepth + 1) ≤ frames) (spaces : Nat)
    (value : Data) : (ofSize frames spaces).decodes value = true :=
  decide_eq_true (Nat.le_trans (Nat.mul_le_mul_left 5 (Nat.min_le_right _ _)) h)

theorem decodes_standard (value : Data) : standard.decodes value = true :=
  decodes_ofSize (by decide) _ value

end Machine

end Rulebook
