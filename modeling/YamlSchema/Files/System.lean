import YamlSchema.Files.Path

/-!
# Files and directories

A `FileSystem` is a tree of directories and files, and the directory that relative paths start from.  `FileSystem.find`
follows a path, `FileSystem.read` gives the text of the file behind it; a path goes through directories only, and what
follows a file in it, a slash included, is an error.
-/

namespace YamlSchema

inductive Entry where
  | file (bytes : ByteArray)
  /-- A file that may not be read. -/
  | locked
  | directory (entries : List (String × Entry))
  deriving Inhabited

namespace Entry

def isDirectory : Entry → Bool
  | .directory _ => true
  | _ => false

/-- The entries of a directory in the order of their names; a file has none. -/
def children : Entry → List (String × Entry)
  | .directory entries => entries.mergeSort fun a b => !decide (b.1 < a.1)
  | _ => []

def child? : Entry → String → Option Entry
  | .directory entries, name => (entries.find? fun e => e.1 = name).map fun e => e.2
  | _, _ => none

/-- Puts something at a place below a directory, and makes the directories on the way. -/
def put (new : Entry) : List String → Entry → Entry
  | [], _ => new
  | name :: rest, .directory entries =>
    let inner := ((entries.find? fun e => e.1 = name).map fun e => e.2).getD (.directory [])
    .directory (entries.filter (fun e => e.1 ≠ name) ++ [(name, put new rest inner)])
  | name :: rest, _ => .directory [(name, put new rest (.directory []))]

end Entry

/-- Why a file cannot be read. -/
inductive ReadFault where
  | missing
  | notDirectory
  | isDirectory
  | denied
  | nameTooLong
  | nulInPath
  | notText
  deriving DecidableEq, Repr

def ReadFault.text : ReadFault → String
  | .missing => "No such file or directory (os error 2)"
  | .notDirectory => "Not a directory (os error 20)"
  | .isDirectory => "Is a directory (os error 21)"
  | .denied => "Permission denied (os error 13)"
  | .nameTooLong => "File name too long (os error 36)"
  | .nulInPath => "file name contained an unexpected NUL byte"
  | .notText => "stream did not contain valid UTF-8"

/-- An entry and the directories around it, the nearest first. -/
structure Location where
  entry : Entry
  around : List Entry

namespace Location

/-- The longest name of an entry, in bytes. -/
def maxName : Nat := 255

/-- One component further. -/
def step (l : Location) (name : String) : Except ReadFault Location :=
  if !l.entry.isDirectory then .error .notDirectory
  else if name = "" ∨ name = "." then .ok l
  else if name = ".." then
    match l.around with
    | [] => .ok l
    | outer :: rest => .ok ⟨outer, rest⟩
  else if maxName < name.utf8ByteSize then .error .nameTooLong
  else match l.entry.child? name with
    | some e => .ok ⟨e, l.entry :: l.around⟩
    | none => .error .missing

def follow (l : Location) (names : List String) : Except ReadFault Location := names.foldlM step l

end Location

structure FileSystem where
  root : Entry
  /-- The names on the way from the root to the directory that relative paths start from. -/
  directory : List String

namespace FileSystem

/-- What a path leads to. -/
def find (fs : FileSystem) (path : String) : Except ReadFault Location :=
  if path = "" then .error .missing
  else if '\x00' ∈ path.toList then .error .nulInPath
  else match Path.pieces path with
    | "" :: rest => Location.follow ⟨fs.root, []⟩ rest
    | pieces => Location.follow ⟨fs.root, []⟩ (fs.directory ++ pieces)

/-- The text of a file. -/
def read (fs : FileSystem) (path : String) : Except ReadFault String :=
  match fs.find path with
  | .error e => .error e
  | .ok l => match l.entry with
    | .directory _ => .error .isDirectory
    | .locked => .error .denied
    | .file bytes => match String.fromUTF8? bytes with
      | some text => .ok text
      | none => .error .notText

/-- The file system after a file or a directory has been made at a relative path. -/
def put (fs : FileSystem) (path : String) (new : Entry) : FileSystem :=
  { fs with root := Entry.put new (fs.directory ++ (Path.pieces path).filter fun p => p ≠ "" && p ≠ ".") fs.root }

end FileSystem

end YamlSchema
