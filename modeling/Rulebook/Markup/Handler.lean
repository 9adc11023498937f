import Rulebook.Markup.Handler.Reading
import Rulebook.Text.Blank
import Rulebook.Text.Quoted

/-!
Handlers of events, as tags name them: the name of a handler, its arguments, or both.
-/

namespace Rulebook.Markup.Handler

/-- The arguments in parameters: in brackets behind the name of a handler, none if there
is a name only, and otherwise the whole text. -/
def argumentsIn (parameters : List Char) : List Char :=
  let behind := parameters.dropWhile fun c => Text.isWordCharacter c || c == '.'
  if behind.isEmpty then "()".toList
  else if behind.head? = some '(' ∧ behind.getLast? = some ')' ∧ behind.length ≠ 1
      ∧ !behind.contains '\n' then behind
  else parameters

/-- What is wrong with parameters. -/
inductive ParameterFault where
  | unreadable (arguments parameters : String) (fault : Fault)
  | refused (parameters : String) (refusal : Value.Refusal)
deriving DecidableEq

/-- The wording of a fault. -/
def ParameterFault.message : ParameterFault → String
  | .unreadable arguments parameters fault =>
    s!"error parsing {Text.quoted arguments} in {Text.quoted parameters}; {fault.message}"
  | .refused parameters refusal =>
    s!"error parsing {Text.quoted parameters}; {refusal.message}"

/-- What is wrong with parameters, if anything is. -/
def parameterFault? (parameters : List Char) : Option ParameterFault :=
  if parameters.isEmpty then none
  else
    let arguments := argumentsIn (Text.strip Text.isBlank parameters)
    match read arguments with
    | .error fault =>
      some (.unreadable (String.ofList arguments) (String.ofList parameters) fault)
    | .ok value => value.refusal?.map (.refused (String.ofList parameters))

end Rulebook.Markup.Handler
