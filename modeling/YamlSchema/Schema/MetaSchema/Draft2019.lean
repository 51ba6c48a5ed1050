import YamlSchema.Schema.Draft
import YamlSchema.Schema.MetaSchema.Basic

/-!
# The schemas of schemas of Draft 2019-09

Each vocabulary has a schema of its own, and `document` puts them together.  A schema inside a schema is what the
outermost of them describes.
-/

namespace YamlSchema.Schema.MetaSchema.Draft2019

private def home : String := "https://json-schema.org/draft/2019-09/"

/-- The outermost schema of schemas. -/
private def root : Tree := .object [("$recursiveRef", word "#")]

private def limit : Tree := reference "#/$defs/nonNegativeInteger"

private def lowLimit : Tree := reference "#/$defs/nonNegativeIntegerDefault0"

private def schemas : Tree := reference "#/$defs/schemaArray"

private def texts : Tree := reference "#/$defs/stringArray"

private def vocabulary (name title : String) (rest : List (String × Tree)) : Tree := .object
  ([("$schema", word Draft.draft2019.uri),
    ("$id", word (home ++ "meta/" ++ name)),
    ("$vocabulary", .object [(home ++ "vocab/" ++ name, .bool true)]),
    ("$recursiveAnchor", .bool true),
    ("title", word title)] ++ rest)

def core : Tree := vocabulary "core" "Core vocabulary meta-schema"
  [("type", schemaTypes),
    ("properties", .object
      [("$id", .object [("type", word "string"), ("format", word "uri-reference"), ("pattern", word "^[^#]*#?$")]),
        ("$schema", formatted "uri"),
        ("$anchor", .object [("type", word "string"), ("pattern", word "^[A-Za-z][-A-Za-z0-9.:_]*$")]),
        ("$ref", formatted "uri-reference"),
        ("$recursiveRef", formatted "uri-reference"),
        ("$recursiveAnchor", flag),
        ("$vocabulary", .object [("type", word "object"), ("propertyNames", formatted "uri"),
          ("additionalProperties", typed "boolean")]),
        ("$comment", typed "string"),
        ("$defs", mapOf root)])]

def applicator : Tree := vocabulary "applicator" "Applicator vocabulary meta-schema"
  [("properties", .object
      [("additionalItems", root),
        ("unevaluatedItems", root),
        ("items", anyOf [root, schemas]),
        ("contains", root),
        ("additionalProperties", root),
        ("unevaluatedProperties", root),
        ("properties", mapOf root),
        ("patternProperties", patternsTo root),
        ("dependentSchemas", .object [("type", word "object"), ("additionalProperties", root)]),
        ("propertyNames", root),
        ("if", root),
        ("then", root),
        ("else", root),
        ("allOf", schemas),
        ("anyOf", schemas),
        ("oneOf", schemas),
        ("not", root)]),
    ("$defs", .object [("schemaArray", someOf root)])]

def validation : Tree := vocabulary "validation" "Validation vocabulary meta-schema"
  [("type", schemaTypes),
    ("properties", .object
      [("multipleOf", divisor),
        ("maximum", typed "number"),
        ("exclusiveMaximum", typed "number"),
        ("minimum", typed "number"),
        ("exclusiveMinimum", typed "number"),
        ("maxLength", limit),
        ("minLength", lowLimit),
        ("pattern", formatted "regex"),
        ("maxItems", limit),
        ("minItems", lowLimit),
        ("uniqueItems", flag),
        ("maxContains", limit),
        ("minContains", .object [("$ref", word "#/$defs/nonNegativeInteger"), ("default", .ofInt 1)]),
        ("maxProperties", limit),
        ("minProperties", lowLimit),
        ("required", texts),
        ("dependentRequired", .object [("type", word "object"), ("additionalProperties", texts)]),
        ("const", .bool true),
        ("enum", listOf (.bool true)),
        ("type", typeChoice (reference "#/$defs/simpleTypes"))]),
    ("$defs", .object
      [("nonNegativeInteger", natural),
        ("nonNegativeIntegerDefault0", .object
          [("$ref", word "#/$defs/nonNegativeInteger"), ("default", .ofInt 0)]),
        ("simpleTypes", typeNames),
        ("stringArray", distinctTexts)])]

def metaData : Tree := vocabulary "meta-data" "Meta-data vocabulary meta-schema"
  [("type", schemaTypes),
    ("properties", .object
      [("title", typed "string"),
        ("description", typed "string"),
        ("default", .bool true),
        ("deprecated", flag),
        ("readOnly", flag),
        ("writeOnly", flag),
        ("examples", listOf (.bool true))])]

def format : Tree := vocabulary "format" "Format vocabulary meta-schema"
  [("type", schemaTypes), ("properties", .object [("format", typed "string")])]

def content : Tree := vocabulary "content" "Content vocabulary meta-schema"
  [("type", schemaTypes),
    ("properties", .object
      [("contentMediaType", typed "string"), ("contentEncoding", typed "string"), ("contentSchema", root)])]

def document : Tree := .object
  [("$schema", word Draft.draft2019.uri),
    ("$id", word Draft.draft2019.uri),
    ("$vocabulary", .object
      [(home ++ "vocab/core", .bool true),
        (home ++ "vocab/applicator", .bool true),
        (home ++ "vocab/validation", .bool true),
        (home ++ "vocab/meta-data", .bool true),
        (home ++ "vocab/format", .bool false),
        (home ++ "vocab/content", .bool true)]),
    ("$recursiveAnchor", .bool true),
    ("title", word "Core and Validation specifications meta-schema"),
    ("allOf", .array (["meta/core", "meta/applicator", "meta/validation", "meta/meta-data", "meta/format",
      "meta/content"].map reference)),
    ("type", schemaTypes),
    ("properties", .object
      [("definitions", mapOf root),
        ("dependencies", .object [("type", word "object"),
          ("additionalProperties", anyOf [root, reference "meta/validation#/$defs/stringArray"])])])]

def documents : List Tree := [document, core, applicator, validation, metaData, format, content]

end YamlSchema.Schema.MetaSchema.Draft2019
