import YamlSchema.Files.System
import YamlSchema.Glob.Pattern

/-!
# What a glob pattern matches

`Glob.expand` lists the files and directories that a pattern matches in a file system, each under the path that the
pattern gives it: in the order of the names within a directory, and a directory before what is in it.
-/

namespace YamlSchema.Glob

/-- Something in a file system, under its last name and the path on which it was found. -/
structure Found where
  name : String
  path : String
  location : Location

namespace Found

def isDirectory (f : Found) : Bool := f.location.entry.isDirectory

end Found

/-- The path of something in the directory with a path; the current directory is not written. -/
def pathWithin (path name : String) : String :=
  if Path.components path = [.current] then name else Path.join path name

/-- What is in a directory, in the order of the names. -/
def children (f : Found) : List Found :=
  f.location.entry.children.map fun e =>
    ⟨e.1, pathWithin f.path e.1, ⟨e.2, f.location.entry :: f.location.around⟩⟩

mutual

/-- Everything below an entry with a path and some directories around it, each directory before what is in it. -/
def descendants (path : String) (around : List Entry) : Entry → List Found
  | .file _ | .locked => []
  | .directory entries =>
    ((blocks path (.directory entries :: around) entries).mergeSort fun a b => !decide (b.1 < a.1)).flatMap fun b => b.2

/-- Each entry and everything below it, by its name. -/
def blocks (path : String) (around : List Entry) : List (String × Entry) → List (String × List Found)
  | [] => []
  | (name, e) :: rest =>
    (name, ⟨name, pathWithin path name, ⟨e, around⟩⟩ :: descendants (pathWithin path name) around e) ::
      blocks path around rest

end

/-- What a name leads to from a directory.  An empty one, which stands between two slashes, leads nowhere from the
current directory. -/
def step? (f : Found) (name : String) : Option Found :=
  let path := pathWithin f.path name
  if path = "" then none
  else match f.location.step name with
    | .ok l => some ⟨name, path, l⟩
    | .error _ => none

/-- The entries `..` and `.` of a directory, where a component that begins with a dot matches them. -/
def dotEntries (tokens : List Token) (f : Found) : List Found :=
  if tokens.head? = some (.exactly '.') ∧ f.isDirectory then
    ["..", "."].filterMap fun name =>
      if Token.fit tokens name.toList then
        (f.location.step name).toOption.map fun l => ⟨name, Path.join f.path name, l⟩
      else none
  else []

/-- What the components of a pattern match from a place on. -/
def visit : List Segment → Found → List Found
  | [], f => [f]
  | .literal name :: rest, f => match step? f name with
    | some g => visit rest g
    | none => []
  | .wild tokens :: rest, f =>
    (dotEntries tokens f).flatMap (visit rest) ++
      (children f).flatMap fun g => if Token.fit tokens g.name.toList then visit rest g else []
  | [.deep], f => (descendants f.path f.location.around f.location.entry).filter Found.isDirectory
  | .deep :: .deep :: rest, f => visit (.deep :: rest) f
  | .deep :: segment :: rest, f =>
    (descendants f.path f.location.around f.location.entry).flatMap fun g =>
      if segment.fits g.name then visit rest g else []

/-- The components of a pattern without the slash at its beginning; a slash at the end adds none. -/
def segments (cs : List Char) : Except Fault (List Segment) :=
  let pieces := splitChars '/' cs
  let pieces := if 1 < pieces.length ∧ pieces.getLast? = some [] then pieces.dropLast else pieces
  pieces.mapM fun piece => (Token.ofChars piece).map Segment.ofTokens

/-- Where a pattern starts. -/
def start (fs : FileSystem) (isAbsolute : Bool) : Option Found :=
  if isAbsolute then some ⟨"", "/", ⟨fs.root, []⟩⟩
  else (Location.follow ⟨fs.root, []⟩ fs.directory).toOption.map fun l => ⟨"", ".", l⟩

/-- The files and directories that a pattern matches; a slash at its end asks for directories. -/
def expand (fs : FileSystem) (pattern : String) : Except Fault (List Found) := do
  let cs := pattern.toList
  let _ ← Token.ofChars cs
  let isAbsolute := cs.head? = some '/'
  let segments ← segments (if isAbsolute then cs.drop 1 else cs)
  let found := match start fs isAbsolute with
    | some f => visit segments f
    | none => []
  return if cs.getLast? = some '/' then found.filter Found.isDirectory else found

end YamlSchema.Glob
