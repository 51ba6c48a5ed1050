import YamlSchema.Text.Split

/-!
# Paths

A path is kept as it is written.  Two paths are the same if they have the same components: slashes at the end, doubled
ones and inner `.` components make no difference, a `.` at the beginning does.
-/

namespace YamlSchema

namespace Path

/-- The pieces of a path between its slashes. -/
def pieces (path : String) : List String := (splitChars '/' path.toList).map String.ofList

inductive Component where
  | root
  | current
  | named (name : String)
  deriving DecidableEq, Repr

/-- The components of a path; `..` is a name like any other. -/
def components (path : String) : List Component :=
  let named := ((pieces path).filter fun p => p ≠ "" && p ≠ ".").map Component.named
  match pieces path with
  | "" :: _ :: _ => .root :: named
  | "." :: _ => .current :: named
  | _ => named

/-- Whether two paths have the same components. -/
def same (p q : String) : Bool := components p = components q

/-- A path with one more component. -/
def join (path name : String) : String :=
  if path = "" ∨ path.toList.getLast? = some '/' then path ++ name else path ++ "/" ++ name

end Path

end YamlSchema
