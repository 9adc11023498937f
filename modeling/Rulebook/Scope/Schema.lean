import Rulebook.Literal

/-!
The JSON schema of scope documents.
-/

namespace Rulebook.Scope

/-- The schema of the kinds of inputs. -/
def kindSchema : Data :=
  .object
    [("description",
        .string "The kind of a literal value, also used as the declared type of an input."),
      ("enum", .array (Kind.all.map fun kind => .string kind.word)),
      ("title", .string "LiteralKind"),
      ("type", .string "string")]

/-- The schema of the field of inputs. -/
def inputsSchema : Data :=
  .object
    [("additionalProperties", .object [("$ref", .string "#/$defs/LiteralKind")]),
      ("description", .string "Input names mapped to their declared type"),
      ("title", .string "Inputs"),
      ("type", .string "object")]

/-- The schema of the field of calculations. -/
def calculationsSchema : Data :=
  .object
    [("additionalProperties", .bool true),
      ("description", .string "Calculation names mapped to expressions"),
      ("title", .string "Calculations"),
      ("type", .string "object")]

/-- The schema of the field of outputs. -/
def outputsSchema : Data :=
  .object
    [("description", .string "Names to publish from the evaluated scope"),
      ("items", .object [("type", .string "string")]),
      ("title", .string "Outputs"),
      ("type", .string "array")]

/-- The schema of a scope document. -/
def schema : Data :=
  .object
    [("$defs", .object [("LiteralKind", kindSchema)]),
      ("description", .string "Top-level layout of a scope document. Unknown keys are ignored."),
      ("properties",
        .object
          [("inputs", inputsSchema), ("calculations", calculationsSchema),
            ("outputs", outputsSchema)]),
      ("required", .array [.string "inputs", .string "calculations", .string "outputs"]),
      ("title", .string "ScopeDocument"),
      ("type", .string "object")]

end Rulebook.Scope
