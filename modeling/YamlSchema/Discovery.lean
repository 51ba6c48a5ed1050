import YamlSchema.Glob.Expand

/-!
# Finding files

`globFiles` lists the files that some patterns match, in the order in which they are first matched and each one once;
a pattern that ends in `**` selects every file below.  `difference` takes files out of a list.  Files are the same if
their paths have the same components.
-/

namespace YamlSchema

/-- A pattern that is none. -/
structure BadPattern where
  pattern : String
  fault : Glob.Fault
  deriving DecidableEq, Repr

def BadPattern.message (b : BadPattern) : String := s!"invalid glob pattern '{b.pattern}': {b.fault.message}"

/-- Directories alone are matched by `**` at the end; a further star reaches their files. -/
def filePattern (pattern : String) : String :=
  if pattern = "**" ∨ ['/', '*', '*'].isSuffixOf pattern.toList then pattern ++ "/*" else pattern

/-- The files that one pattern matches. -/
def matchedFiles (fs : FileSystem) (pattern : String) : Except BadPattern (List String) :=
  match Glob.expand fs (filePattern pattern) with
  | .error fault => .error ⟨pattern, fault⟩
  | .ok found => .ok ((found.filter fun f => !f.isDirectory).map fun f => f.path)

def isListed (files : List String) (path : String) : Bool := files.any (Path.same path)

/-- The files of a list behind those already listed, each one once. -/
def appendNew (listed files : List String) : List String :=
  files.foldl (fun all path => if isListed all path then all else all ++ [path]) listed

def globFiles (fs : FileSystem) (patterns : List String) : Except BadPattern (List String) :=
  patterns.foldlM (fun all pattern => (matchedFiles fs pattern).map (appendNew all)) []

/-- The files that are not to be removed. -/
def difference (files remove : List String) : List String := files.filter fun f => !isListed remove f

end YamlSchema
