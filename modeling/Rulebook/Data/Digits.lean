import Rulebook.Data

/-!
The digits of an integer: one of too many is neither read nor written in decimals.
-/

namespace Rulebook.Data

/-- The greatest number of digits of an integer that is read or written. -/
def maxDigits : Nat := 4300

/-- The wording of the refusal of an integer with too many digits to be read. -/
def tooManyDigitsMessage (count : Nat) : String :=
  s!"Exceeds the limit ({maxDigits} digits) for integer string conversion: " ++
    s!"value has {count} digits; use sys.set_int_max_str_digits() to increase the limit"

/-- The wording of the refusal of an integer with too many digits to be written. -/
def integerTooLongMessage : String :=
  s!"Exceeds the limit ({maxDigits} digits) for integer string conversion; " ++
    "use sys.set_int_max_str_digits() to increase the limit"

mutual

/-- Whether every integer in a value can be written. -/
def isWritable : Data → Bool
  | .null | .bool _ | .float _ | .string _ | .moment _ => true
  | .int n => decide (n.natAbs < Nat.pow 10 maxDigits)
  | .array items => areWritable items
  | .object members => haveWritable members

/-- Whether every integer in some items can be written. -/
def areWritable : List Data → Bool
  | [] => true
  | item :: rest => item.isWritable && areWritable rest

/-- Whether every integer in some members can be written. -/
def haveWritable : List (String × Data) → Bool
  | [] => true
  | (_, value) :: rest => value.isWritable && haveWritable rest

end

end Rulebook.Data
