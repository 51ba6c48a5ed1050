import YamlSchema.Schema.Violation
import YamlSchema.Tree.Reader

/-!
# Verdicts

A `Verdict` says which of the schemas that a target declares it meets and which it breaks, and how.  Verdicts travel as
JSON: `Verdict.toTree` writes one, and `Verdict.parse?` also reads members in another order or with unknown ones between
them, and a list of the values in place of the mapping.
-/

namespace YamlSchema

open Schema (ErrorReport)

/-- A declared schema that a target meets. -/
structure Pass where
  schemaId : String
  deriving DecidableEq, Repr

/-- A declared schema that a target breaks. -/
structure Breach where
  schemaId : String
  errors : List ErrorReport
  deriving DecidableEq, Repr

structure Verdict where
  isValid : Bool
  passes : List Pass
  failures : List Breach
  deriving DecidableEq, Repr

namespace Verdict

/-- The number of errors of all failures. -/
def errorCount (v : Verdict) : Nat := (v.failures.flatMap fun f => f.errors).length

end Verdict

/-! ### Writing -/

def Schema.ErrorReport.toTree (e : ErrorReport) : Tree :=
  .object [("keyword", .string e.keyword), ("path", .string e.path), ("schemaPath", .string e.schemaPath),
    ("params", e.params), ("message", .string e.message)]

def Pass.toTree (p : Pass) : Tree := .object [("schemaId", .string p.schemaId)]

def Breach.toTree (b : Breach) : Tree :=
  .object [("schemaId", .string b.schemaId), ("errors", .array (b.errors.map ErrorReport.toTree))]

def Verdict.toTree (v : Verdict) : Tree :=
  .object [("isValid", .bool v.isValid), ("passes", .array (v.passes.map Pass.toTree)),
    ("failures", .array (v.failures.map Breach.toTree))]

/-! ### Reading -/

namespace Json

/-- The values of some fields, in the order of their names: of a mapping in which each of the names stands once, or of
a list of just as many values. -/
def fields? (names : List String) : Json → Option (List Json)
  | .array items => if items.length = names.length then some items else none
  | .object members =>
    if members.all fun m => m.1.isSome then
      names.mapM fun name => match members.filter fun m => m.1 = some name with
        | [m] => some m.2
        | _ => none
    else none
  | _ => none

def text? : Json → Option String
  | .string s => s
  | _ => none

def flag? : Json → Option Bool
  | .bool b => some b
  | _ => none

def list? {α : Type} (item? : Json → Option α) : Json → Option (List α)
  | .array items => items.mapM item?
  | _ => none

end Json

/-- How many collections of the text stand around the parameters of an error. -/
def Schema.ErrorReport.nesting : Nat := 5

def Schema.ErrorReport.ofJson? (j : Json) : Option ErrorReport :=
  match j.fields? ["keyword", "path", "schemaPath", "params", "message"] with
  | some [keyword, path, schemaPath, params, message] => do
    return ⟨← keyword.text?, ← path.text?, ← schemaPath.text?,
      ← params.toTree? (Json.maxNesting - ErrorReport.nesting), ← message.text?⟩
  | _ => none

def Pass.ofJson? (j : Json) : Option Pass :=
  match j.fields? ["schemaId"] with
  | some [id] => id.text?.map Pass.mk
  | _ => none

def Breach.ofJson? (j : Json) : Option Breach :=
  match j.fields? ["schemaId", "errors"] with
  | some [id, errors] => do return ⟨← id.text?, ← errors.list? ErrorReport.ofJson?⟩
  | _ => none

def Verdict.ofJson? (j : Json) : Option Verdict :=
  match j.fields? ["isValid", "passes", "failures"] with
  | some [isValid, passes, failures] => do
    return ⟨← isValid.flag?, ← passes.list? Pass.ofJson?, ← failures.list? Breach.ofJson?⟩
  | _ => none

/-- Reads a verdict from its JSON text. -/
def Verdict.parse? (text : String) : Option Verdict := (Json.parse? text).bind Verdict.ofJson?

end YamlSchema
