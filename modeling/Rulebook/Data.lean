import Rulebook.Data.Moment
import Rulebook.Number

/-!
Document values: what a JSON text or a TOML file says.

Members of an object keep the order in which their names first appear and the
value last given for each name.
-/

namespace Rulebook

/-- A document value. Integers are kept exactly, apart from floating-point
numbers; dates and times come from TOML only. -/
inductive Data where
  | null
  | bool (b : Bool)
  | int (n : Int)
  | float (x : Number)
  | string (s : String)
  | moment (m : Moment)
  | array (items : List Data)
  | object (members : List (String × Data))
deriving Inhabited

/-- Whether a value is an array or an object. -/
def Data.isContainer : Data → Bool
  | .array _ | .object _ => true
  | _ => false

end Rulebook
