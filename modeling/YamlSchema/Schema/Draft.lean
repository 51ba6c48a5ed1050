import YamlSchema.Tree.Basic

/-!
# Drafts

A `Draft` is one of the editions of JSON Schema.  It is named by the URI of its schema of schemas, and it says which
keywords there are, which of them hold schemas, and how a schema gives itself an identifier and anchors.
-/

namespace YamlSchema.Schema

inductive Draft where
  | draft4
  | draft6
  | draft7
  | draft2019
  | draft2020
  deriving DecidableEq, Repr

namespace Draft

/-- The drafts in the order in which they appeared. -/
def all : List Draft := [.draft4, .draft6, .draft7, .draft2019, .draft2020]

/-- Whether a draft appeared with another one or later. -/
def isSince (d start : Draft) : Bool := all.idxOf start ≤ all.idxOf d

/-- The URI of the schema of schemas, without fragment. -/
def uri : Draft → String
  | .draft4 => "http://json-schema.org/draft-04/schema"
  | .draft6 => "http://json-schema.org/draft-06/schema"
  | .draft7 => "http://json-schema.org/draft-07/schema"
  | .draft2019 => "https://json-schema.org/draft/2019-09/schema"
  | .draft2020 => "https://json-schema.org/draft/2020-12/schema"

def ofUri? (uri : String) : Option Draft := all.find? fun d => d.uri = uri

private def withoutEmptyFragment (uri : String) : String :=
  String.ofList (uri.toList.reverse.dropWhile (· = '#')).reverse

/-- The draft that a schema names, or else the one around it; the error is a name that is not known. -/
def named (d : Draft) (schema : Tree) : Except String Draft :=
  match schema.member? "$schema" with
  | some (.string name) => match ofUri? (withoutEmptyFragment name) with
    | some d => .ok d
    | none => .error (withoutEmptyFragment name)
  | _ => .ok d

/-- The draft of a schema inside another one; a name that is not known stands for the latest. -/
def within (d : Draft) (schema : Tree) : Draft :=
  match d.named schema with
  | .ok d => d
  | .error _ => .draft2020

/-! ### Keywords -/

/-- Whether a reference hides the keywords beside it. -/
def hidesSiblings (d : Draft) : Bool := !d.isSince .draft2019

/-- Whether limits may be written as doubles. -/
def takesWholeDoubles (d : Draft) : Bool := d.isSince .draft6

/-- Whether the keyword `format` is more than a remark. -/
def checksFormats (d : Draft) : Bool := !d.isSince .draft2019

/-- The keywords that a draft has whatever its vocabularies are. -/
def isCore (keyword : String) : Bool :=
  keyword ∈ ["$ref", "$recursiveRef", "$dynamicRef", "additionalItems", "dependencies", "format"]

/-- Whether a draft has a keyword where the vocabularies of another one are in force.  Drafts since 2019 have few keywords
without vocabularies. -/
def hasKeyword (d vocabularies : Draft) (keyword : String) : Bool :=
  (d.hidesSiblings || vocabularies.isSince .draft2019 || isCore keyword) &&
    if keyword ∈ ["const", "contains", "exclusiveMaximum", "exclusiveMinimum", "propertyNames"] then d.isSince .draft6
    else if keyword ∈ ["contentEncoding", "contentMediaType"] then d = .draft6 || d = .draft7
    else if keyword = "if" then d.isSince .draft7
    else if keyword ∈ ["dependentRequired", "dependentSchemas", "unevaluatedItems", "unevaluatedProperties"] then
      d.isSince .draft2019
    else if keyword = "$recursiveRef" then d = .draft2019
    else if keyword ∈ ["$dynamicRef", "prefixItems"] then d = .draft2020
    else true

/-! ### Identifiers and anchors -/

/-- The keyword for identifiers. -/
def idKeyword : Draft → String
  | .draft4 => "id"
  | _ => "$id"

/-- The identifier that a mapping gives itself, without an empty fragment.  Before 2019 there is none beside a
reference, and one that begins with `#` only names an anchor. -/
def ownId? (d : Draft) (members : OrderedMap Tree) : Option String :=
  if d.hidesSiblings && OrderedMap.contains members "$ref" then none
  else match OrderedMap.get? members d.idKeyword with
    | some (.string id) =>
      if d.hidesSiblings && id.toList.head? = some '#' then none else some (withoutEmptyFragment id)
    | _ => none

/-- A name for a place in a document. -/
structure Anchor where
  name : String
  /-- Whether a reference to it means the outermost document that has the name. -/
  dynamic : Bool
  deriving DecidableEq, Repr

/-- The anchors that a mapping sets. -/
def anchors (d : Draft) (members : OrderedMap Tree) : List Anchor :=
  let text := fun (keyword : String) => (OrderedMap.get? members keyword).bind Tree.string?
  let plain := (text "$anchor").map fun name => ⟨name, false⟩
  let dynamic := (text "$dynamicAnchor").map fun name => ⟨name, true⟩
  match d with
  | .draft2020 => plain.toList ++ dynamic.toList
  | .draft2019 => plain.toList
  | _ => ((text d.idKeyword).bind fun id => match id.toList with
    | '#' :: name => some ⟨String.ofList name, false⟩
    | _ => none).toList

/-! ### Places of schemas -/

/-- How a keyword holds schemas. -/
inductive Holding where
  /-- One schema. -/
  | one
  /-- A list of schemas. -/
  | list
  /-- A mapping of names to schemas. -/
  | named
  /-- One schema, or a list of them. -/
  | oneOrList
  deriving DecidableEq, Repr

/-- How a keyword holds the schemas among which references are looked for. -/
def holding? (d : Draft) (keyword : String) : Option Holding :=
  if keyword ∈ ["additionalProperties", "not"] then some .one
  else if keyword ∈ ["allOf", "anyOf", "oneOf"] then some .list
  else if keyword ∈ ["definitions", "patternProperties", "properties"] then some .named
  else if keyword = "additionalItems" then if d = .draft2020 then none else some .one
  else if keyword = "items" then some (if d = .draft2020 then .one else .oneOrList)
  else if keyword = "dependencies" then if d.hidesSiblings then some .named else none
  else if keyword ∈ ["contains", "propertyNames"] then if d.isSince .draft6 then some .one else none
  else if keyword ∈ ["else", "if", "then"] then if d.isSince .draft7 then some .one else none
  else if keyword ∈ ["contentSchema", "unevaluatedItems", "unevaluatedProperties"] then
    if d.isSince .draft2019 then some .one else none
  else if keyword ∈ ["$defs", "dependentSchemas"] then if d.isSince .draft2019 then some .named else none
  else if keyword = "prefixItems" then if d = .draft2020 then some .list else none
  else none

/-- Whether the keys and indices on the way from a schema lead to another schema; `isMapping` says that a mapping stands
there.  Behind `items` and `dependencies` every mapping counts. -/
def leadsToSchema (d : Draft) (isMapping : Bool) : List String → Bool
  | [] => true
  | keyword :: rest => match d.holding? keyword with
    | some .one => d.leadsToSchema isMapping rest
    | some .oneOrList => isMapping
    | some .list | some .named =>
      if keyword = "dependencies" then isMapping
      else match rest with
        | [] => false
        | _ :: rest => d.leadsToSchema isMapping rest
    | none => false

end Draft

end YamlSchema.Schema
