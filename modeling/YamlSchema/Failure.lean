import YamlSchema.Directive

/-!
# What can go wrong with a file

A `Failure` always names the file it is about.  Failures that concern one file only are recoverable: a batch records
them and goes on.  Files that cannot be read or understood, and schemas that do not compile, are not.
-/

namespace YamlSchema

inductive Failure where
  /-- The file cannot be read. -/
  | unreadable (path reason : String)
  /-- The text is no document. -/
  | malformed (path reason : String)
  /-- A schema document states its identifier not exactly once. -/
  | idCardinality (path : String) (found : Nat)
  /-- The identifier of a schema document is taken. -/
  | duplicateId (schemaId path firstPath : String)
  /-- A target document names no schema. -/
  | noSchemaDeclared (path : String)
  /-- A target document names a schema that is not registered. -/
  | unknownSchema (path schemaId : String)
  /-- A schema is refused by the compiler. -/
  | notCompiled (schemaId path reason : String)
  deriving DecidableEq, Repr

namespace Failure

def isRecoverable : Failure → Bool
  | .idCardinality .. | .duplicateId .. | .noSchemaDeclared .. | .unknownSchema .. => true
  | .unreadable .. | .malformed .. | .notCompiled .. => false

/-- The file that a failure is about. -/
def path : Failure → String
  | .unreadable path _ | .malformed path _ | .idCardinality path _ | .duplicateId _ path _
  | .noSchemaDeclared path | .unknownSchema path _ | .notCompiled _ path _ => path

def message : Failure → String
  | .unreadable path reason => s!"cannot read '{path}': {reason}"
  | .malformed path reason => s!"malformed document '{path}': {reason}"
  | .idCardinality path 0 =>
    s!"File '{path}' does not contain a schema ID directive! ('## {Directive.idKey}: <schemaid>')"
  | .idCardinality path _ =>
    s!"File '{path}' contains multiple schema ID directives! ('## {Directive.idKey}: <schemaid>')"
  | .duplicateId schemaId path firstPath =>
    s!"File '{path}' declares schema ID '{schemaId}', already registered from '{firstPath}'"
  | .noSchemaDeclared path => s!"File '{path}' contains no schema directives!"
  | .unknownSchema path schemaId => s!"File '{path}' declares an unknown schema '{schemaId}'!"
  | .notCompiled schemaId path reason => s!"schema '{schemaId}' from '{path}' failed to compile: {reason}"

/-- The message, and behind it what the system said about a file that cannot be read. -/
def chain (f : Failure) : String := match f with
  | .unreadable _ reason => s!"{f.message}: {reason}"
  | _ => f.message

end Failure

end YamlSchema
