import YamlSchema.Document
import YamlSchema.Schema.Validator
import YamlSchema.Shorthand
import YamlSchema.Verdict

/-!
# The registry of schemas

A `Registry` holds the compiled schemas under their identifiers, the trees by which they may refer to each other, and
what became of every file that was loaded in a batch.  A schema is staged, that is checked and written out, before it
is committed, that is compiled; a batch stages all its files first, so that a schema may refer to one that comes later.
An identifier that is taken stays with its first schema.
-/

namespace YamlSchema

open Schema (References Validator)

/-- A schema document whose identifier is free. -/
structure Staged where
  id : String
  path : String
  /-- The schema, written out. -/
  canonical : Tree

/-- A compiled schema. -/
structure Registered where
  id : String
  path : String
  canonical : Tree
  validator : Validator

/-- What became of a file of a batch. -/
inductive LoadOutcome where
  | loaded (path schemaId : String)
  | skipped (why : Failure)
  deriving DecidableEq, Repr

namespace LoadOutcome

def isLoaded : LoadOutcome → Bool
  | .loaded .. => true
  | .skipped _ => false

/-- The file that an outcome is about. -/
def path : LoadOutcome → String
  | .loaded path _ => path
  | .skipped why => why.path

end LoadOutcome

structure Registry where
  schemas : OrderedMap Registered
  references : References
  outcomes : List LoadOutcome

namespace Registry

def empty : Registry := ⟨[], [], []⟩

def get? (r : Registry) (id : String) : Option Registered := OrderedMap.get? r.schemas id

def contains (r : Registry) (id : String) : Bool := (r.get? id).isSome

def size (r : Registry) : Nat := r.schemas.length

/-- The identifiers in their alphabetical order. -/
def ids (r : Registry) : List String := (OrderedMap.sorted r.schemas).map fun e => e.1

/-- One line that names the identifiers and counts the outcomes. -/
def summary (r : Registry) : String :=
  "SchemaRegistry \x7b schemas: [" ++ ", ".intercalate (r.ids.map Text.shown) ++
    s!"], outcomes: {r.outcomes.length}, .. \x7d"

/-! ### Registering -/

/-- The path under which an identifier is taken, by a registered schema or by one that is staged. -/
def holder? (r : Registry) (pending : List Staged) (id : String) : Option String :=
  ((r.get? id).map fun s => s.path).or ((pending.find? fun s => s.id = id).map fun s => s.path)

/-- Checks that a document states one free identifier, and writes its schema out. -/
def stage (r : Registry) (pending : List Staged) (d : Document) : Except Failure Staged :=
  match d.values Directive.idKey with
  | [id] => match r.holder? pending id with
    | some first => .error (.duplicateId id d.path first)
    | none => .ok ⟨id, d.path, inflate d.content⟩
  | ids => .error (.idCardinality d.path ids.length)

/-- Lets the schemas refer to a staged one. -/
def announce (r : Registry) (s : Staged) : Registry :=
  { r with references := OrderedMap.insert r.references s.id s.canonical }

/-- Compiles a staged schema; if it does not compile, nothing may refer to it any more. -/
def commit (r : Registry) (s : Staged) : Registry × Except Failure String :=
  match Validator.compile r.references s.canonical with
  | .ok validator =>
    ({ r with schemas := OrderedMap.insert r.schemas s.id ⟨s.id, s.path, s.canonical, validator⟩ }, .ok s.id)
  | .error why =>
    ({ r with references := OrderedMap.erase r.references s.id }, .error (.notCompiled s.id s.path why.message))

/-- Registers the schema of a document, and answers with its identifier. -/
def registerDocument (r : Registry) (d : Document) : Registry × Except Failure String :=
  match r.stage [] d with
  | .ok s => (r.announce s).commit s
  | .error e => (r, .error e)

/-- Registers the schema in a file. -/
def register (r : Registry) (fs : FileSystem) (path : String) : Registry × Except Failure String :=
  match Document.load fs path with
  | .ok d => r.registerDocument d
  | .error e => (r, .error e)

/-! ### Batches -/

/-- Stages files one after the other, up to the first failure that ends the batch: what became of each, and that
failure. -/
def stageAll (r : Registry) (fs : FileSystem) (pending : List Staged) :
    List String → List (Except Failure Staged) × Option Failure
  | [] => ([], none)
  | path :: rest =>
    match Document.load fs path >>= r.stage pending with
    | .ok s =>
      let (staged, fatal) := stageAll r fs (pending ++ [s]) rest
      (.ok s :: staged, fatal)
    | .error e =>
      if e.isRecoverable then
        let (staged, fatal) := stageAll r fs pending rest
        (.error e :: staged, fatal)
      else ([], some e)

def note (r : Registry) (o : LoadOutcome) : Registry := { r with outcomes := r.outcomes ++ [o] }

/-- Commits what has been staged, up to the first schema that does not compile: how many were registered, and the
failure. -/
def commitAll (r : Registry) : List (Except Failure Staged) → Registry × Nat × Option Failure
  | [] => (r, 0, none)
  | .error e :: rest => commitAll (r.note (.skipped e)) rest
  | .ok s :: rest =>
    match r.commit s with
    | (r, .ok id) =>
      let (r, loaded, fatal) := commitAll (r.note (.loaded s.path id)) rest
      (r, loaded + 1, fatal)
    | (r, .error e) => (r, 0, some e)

/-- What was staged. -/
def stagedOf (staged : List (Except Failure Staged)) : List Staged :=
  staged.filterMap fun s => match s with
    | .ok s => some s
    | .error _ => none

/-- Registers the schemas in some files, and answers with their number.  Recoverable failures are recorded; any other
ends the batch before its file, and then only registered schemas may be referred to. -/
def load (r : Registry) (fs : FileSystem) (paths : List String) : Registry × Except Failure Nat :=
  let (staged, unstaged) := r.stageAll fs [] paths
  let (after, loaded, uncompiled) := ((stagedOf staged).foldl announce r).commitAll staged
  match uncompiled.or unstaged with
  | some e =>
    ({ after with references := OrderedMap.retain after.references (OrderedMap.keys after.schemas) }, .error e)
  | none => (after, .ok loaded)

/-- A registry of the schemas in some files. -/
def ofFiles (fs : FileSystem) (paths : List String) : Except Failure Registry :=
  match empty.load fs paths with
  | (r, .ok _) => .ok r
  | (_, .error e) => .error e

/-! ### Validation -/

/-- Validates a document against schemas that it declares. -/
def judge (r : Registry) (d : Document) (verdict : Verdict) : List String → Except Failure Verdict
  | [] => .ok verdict
  | id :: rest =>
    match r.get? id with
    | none => .error (.unknownSchema d.path id)
    | some s => match s.validator.check d.content with
      | [] => judge r d { verdict with passes := verdict.passes ++ [⟨id⟩] } rest
      | errors => judge r d ⟨false, verdict.passes, verdict.failures ++ [⟨id, errors⟩]⟩ rest

/-- Validates a document against each schema that it declares. -/
def validateDocument (r : Registry) (d : Document) : Except Failure Verdict :=
  match d.values Directive.schemaKey with
  | [] => .error (.noSchemaDeclared d.path)
  | ids => r.judge d ⟨true, [], []⟩ ids

/-- Validates the target in a file. -/
def validate (r : Registry) (fs : FileSystem) (path : String) : Except Failure Verdict :=
  match Document.load fs path with
  | .ok d => r.validateDocument d
  | .error e => .error e

end Registry

end YamlSchema
