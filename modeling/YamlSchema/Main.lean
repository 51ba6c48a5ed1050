import YamlSchema.CommandLine

/-!
# The program

The outer layer: it brings the names of files and directories that a command may need into a `FileSystem`, then the
bytes of the files that are selected, and prints what `Command.execute` answers.
-/

namespace YamlSchema.Outer

/-- The names below a directory, down to a depth that only links that lead round exceed. -/
def outline : Nat → String → IO Entry
  | 0, _ => return .directory []
  | depth + 1, path => do
    let mut entries := []
    let found ← try (← IO.FS.realPath path).readDir catch _ => pure #[]
    for e in found do
      let isDirectory ← try e.path.isDir catch _ => pure false
      let inner ← if isDirectory then outline depth (Path.join path e.fileName) else pure (.file .empty)
      entries := (e.fileName, inner) :: entries
    return .directory entries

def maxDepth : Nat := 64

/-- The names on the way from the root to what a path means, seen from a directory. -/
def absolute (directory : List String) (path : String) : List String :=
  let start := if path.toList.head? = some '/' then [] else directory
  (Path.pieces path).foldl
    (fun names p => if p = "" ∨ p = "." then names else if p = ".." then names.dropLast else names ++ [p]) start

def joined (names : List String) : String := "/" ++ "/".intercalate names

def provide (fs : FileSystem) (names : List String) (e : Entry) : FileSystem :=
  { fs with root := Entry.put e names fs.root }

/-- The file system with the bytes of one file, if there is such a file. -/
def withBytes (fs : FileSystem) (path : String) : IO FileSystem := do
  let names := absolute fs.directory path
  try
    return provide fs names (.file (← IO.FS.readBinFile (joined names)))
  catch
    | .permissionDenied .. => return provide fs names .locked
    | _ => return fs

def isWild (piece : String) : Bool := piece.toList.any fun c => c = '*' || c = '?' || c = '['

/-- The file system with the names below the directory from which a pattern starts, unless they are there already. -/
def withNames (fs : FileSystem) (pattern : String) : IO FileSystem := do
  let fixed := ((Path.pieces pattern).takeWhile fun p => !isWild p)
  let base := absolute fs.directory ("/".intercalate fixed)
  if fs.directory.isPrefixOf base then return fs
  if ← try (← IO.FS.realPath (joined base)).isDir catch _ => pure false then
    return provide fs base (← outline maxDepth (joined base))
  withBytes fs (joined base)

/-- Everything that a run may look at. -/
def gather (r : Request) : IO FileSystem := do
  let directory := absolute [] (← IO.currentDir).toString
  let mut fs : FileSystem := ⟨.directory [], directory⟩
  fs := provide fs directory (← outline maxDepth (joined directory))
  if let some path := r.config then fs ← withBytes fs path
  if let .ok s := Settings.resolve fs r.config r.overrides then
    let patterns := s.excludePatterns ++ s.schemaPatterns ++ s.targetPatterns
    for pattern in patterns do fs ← withNames fs pattern
    for pattern in patterns do
      if let .ok files := globFiles fs [pattern] then
        for file in files do fs ← withBytes fs file
    if let some path := r.config then fs ← withBytes fs path
  return fs

/-- Whether a variable of the environment is set, and not to zero. -/
def switchedOn? (name : String) : IO (Option Bool) := return (← IO.getEnv name).map fun v => v ≠ "0"

def isColoured : IO Bool := do
  if (← switchedOn? "CLICOLOR_FORCE") = some true then return true
  if (← switchedOn? "NO_COLOR").isSome then return false
  return (← switchedOn? "CLICOLOR").getD true && (← (← IO.getStdout).isTty)

/-- Does what the arguments ask for, prints the answer, and gives the exit code. -/
def run (arguments : List String) : IO UInt32 := do
  let fs ← match Command.ofArguments arguments with
    | .ok (.run r) => gather r
    | _ => pure ⟨.directory [], []⟩
  let answer := Command.execute fs (← isColoured) arguments
  IO.print answer.output
  if let some complaint := answer.complaint then IO.eprintln ("ERROR " ++ complaint)
  return answer.exitCode.toUInt32

end YamlSchema.Outer

def main (arguments : List String) : IO UInt32 := YamlSchema.Outer.run arguments
