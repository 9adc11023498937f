/-!
Path names: the steps that lead to a file, from a root or from where one is.

Single points and repeated slashes say nothing and are left out; double points are
kept.
-/

namespace Rulebook

/-- A path name. The root is empty for a relative name, and else one slash, or two
where exactly two were written. -/
structure PathName where
  root : String
  parts : List String
deriving DecidableEq, Inhabited

namespace PathName

/-- The root that a text starts with. -/
def rootOf : List Char → String
  | '/' :: '/' :: '/' :: _ => "/"
  | '/' :: '/' :: _ => "//"
  | '/' :: _ => "/"
  | _ => ""

/-- The path name that a text spells. -/
def parse (text : String) : PathName where
  root := rootOf text.toList
  parts := (text.splitOn "/").filter fun part => part != "" && part != "."

/-- The text of a path name; the place where one is, is a point. -/
def text (p : PathName) : String :=
  if p.root.isEmpty && p.parts.isEmpty then "." else p.root ++ "/".intercalate p.parts

/-- Whether no name on the path has the null character, which ends names for those who
keep files. -/
def isSpeakable (p : PathName) : Bool := p.parts.all fun part => !part.toList.contains '\x00'

/-- Whether a path name starts from a root. -/
def isAbsolute (p : PathName) : Bool := !p.root.isEmpty

/-- The second name as seen from the first. -/
def join (p q : PathName) : PathName :=
  if q.isAbsolute then q else ⟨p.root, p.parts ++ q.parts⟩

/-- The name of something inside. -/
def child (p : PathName) (name : String) : PathName := ⟨p.root, p.parts ++ [name]⟩

/-- The name of what a path leads through last. -/
def parent (p : PathName) : PathName := ⟨p.root, p.parts.dropLast⟩

/-- The last part, empty for a root and for where one is. -/
def name (p : PathName) : String := p.parts.getLastD ""

/-- The ending of the last part from its last point on, unless nothing stands
before or behind that point. -/
def suffix (p : PathName) : String :=
  let cs := p.name.toList
  let ending := (cs.reverse.takeWhile (· != '.')).reverse
  if ending.isEmpty || cs.length ≤ ending.length + 1 then ""
  else String.ofList ('.' :: ending)

end PathName

end Rulebook
