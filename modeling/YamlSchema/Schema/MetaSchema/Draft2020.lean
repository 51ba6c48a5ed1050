import YamlSchema.Schema.Draft
import YamlSchema.Schema.MetaSchema.Basic

/-!
# The schemas of schemas of Draft 2020-12

Each vocabulary has a schema of its own, and `document` puts them together.  A schema inside a schema is what the
outermost of them describes.
-/

namespace YamlSchema.Schema.MetaSchema.Draft2020

private def home : String := "https://json-schema.org/draft/2020-12/"

/-- The outermost schema of schemas. -/
private def root : Tree := .object [("$dynamicRef", word "#meta")]

private def limit : Tree := reference "#/$defs/nonNegativeInteger"

private def lowLimit : Tree := reference "#/$defs/nonNegativeIntegerDefault0"

private def schemas : Tree := reference "#/$defs/schemaArray"

private def texts : Tree := reference "#/$defs/stringArray"

private def anchorText : Tree := reference "#/$defs/anchorString"

private def uriText : Tree := reference "#/$defs/uriString"

private def referenceText : Tree := reference "#/$defs/uriReferenceString"

private def vocabulary (name title : String) (rest : List (String × Tree)) : Tree := .object
  ([("$schema", word Draft.draft2020.uri),
    ("$id", word (home ++ "meta/" ++ name)),
    ("$vocabulary", .object [(home ++ "vocab/" ++ name, .bool true)]),
    ("$dynamicAnchor", word "meta"),
    ("title", word title),
    ("type", schemaTypes)] ++ rest)

def core : Tree := vocabulary "core" "Core vocabulary meta-schema"
  [("properties", .object
      [("$id", .object [("$ref", word "#/$defs/uriReferenceString"), ("pattern", word "^[^#]*#?$")]),
        ("$schema", uriText),
        ("$ref", referenceText),
        ("$anchor", anchorText),
        ("$dynamicRef", referenceText),
        ("$dynamicAnchor", anchorText),
        ("$vocabulary", .object [("type", word "object"), ("propertyNames", uriText),
          ("additionalProperties", typed "boolean")]),
        ("$comment", typed "string"),
        ("$defs", .object [("type", word "object"), ("additionalProperties", root)])]),
    ("$defs", .object
      [("anchorString", .object [("type", word "string"), ("pattern", word "^[A-Za-z_][-A-Za-z0-9._]*$")]),
        ("uriString", formatted "uri"),
        ("uriReferenceString", formatted "uri-reference")])]

def applicator : Tree := vocabulary "applicator" "Applicator vocabulary meta-schema"
  [("properties", .object
      [("prefixItems", schemas),
        ("items", root),
        ("contains", root),
        ("additionalProperties", root),
        ("properties", mapOf root),
        ("patternProperties", patternsTo root),
        ("dependentSchemas", mapOf root),
        ("propertyNames", root),
        ("if", root),
        ("then", root),
        ("else", root),
        ("allOf", schemas),
        ("anyOf", schemas),
        ("oneOf", schemas),
        ("not", root)]),
    ("$defs", .object [("schemaArray", someOf root)])]

def unevaluated : Tree := vocabulary "unevaluated" "Unevaluated applicator vocabulary meta-schema"
  [("properties", .object [("unevaluatedItems", root), ("unevaluatedProperties", root)])]

def validation : Tree := vocabulary "validation" "Validation vocabulary meta-schema"
  [("properties", .object
      [("type", typeChoice (reference "#/$defs/simpleTypes")),
        ("const", .bool true),
        ("enum", listOf (.bool true)),
        ("multipleOf", divisor),
        ("maximum", typed "number"),
        ("exclusiveMaximum", typed "number"),
        ("minimum", typed "number"),
        ("exclusiveMinimum", typed "number"),
        ("maxLength", limit),
        ("minLength", lowLimit),
        ("pattern", formatted "regex"),
        ("maxItems", limit),
        ("minItems", lowLimit),
        ("uniqueItems", flag),
        ("maxContains", limit),
        ("minContains", .object [("$ref", word "#/$defs/nonNegativeInteger"), ("default", .ofInt 1)]),
        ("maxProperties", limit),
        ("minProperties", lowLimit),
        ("required", texts),
        ("dependentRequired", .object [("type", word "object"), ("additionalProperties", texts)])]),
    ("$defs", .object
      [("nonNegativeInteger", natural),
        ("nonNegativeIntegerDefault0", .object
          [("$ref", word "#/$defs/nonNegativeInteger"), ("default", .ofInt 0)]),
        ("simpleTypes", typeNames),
        ("stringArray", distinctTexts)])]

def metaData : Tree := vocabulary "meta-data" "Meta-data vocabulary meta-schema"
  [("properties", .object
      [("title", typed "string"),
        ("description", typed "string"),
        ("default", .bool true),
        ("deprecated", flag),
        ("readOnly", flag),
        ("writeOnly", flag),
        ("examples", listOf (.bool true))])]

def formatAnnotation : Tree :=
  vocabulary "format-annotation" "Format vocabulary meta-schema for annotation results"
    [("properties", .object [("format", typed "string")])]

def formatAssertion : Tree :=
  vocabulary "format-assertion" "Format vocabulary meta-schema for assertion results"
    [("properties", .object [("format", typed "string")])]

def content : Tree := vocabulary "content" "Content vocabulary meta-schema"
  [("properties", .object
      [("contentEncoding", typed "string"), ("contentMediaType", typed "string"), ("contentSchema", root)])]

def document : Tree := .object
  [("$schema", word Draft.draft2020.uri),
    ("$id", word Draft.draft2020.uri),
    ("$vocabulary", .object (["core", "applicator", "unevaluated", "validation", "meta-data", "format-annotation",
      "content"].map fun name => (home ++ "vocab/" ++ name, .bool true))),
    ("$dynamicAnchor", word "meta"),
    ("title", word "Core and Validation specifications meta-schema"),
    ("allOf", .array (["meta/core", "meta/applicator", "meta/unevaluated", "meta/validation", "meta/meta-data",
      "meta/format-annotation", "meta/content"].map reference)),
    ("type", schemaTypes),
    ("properties", .object
      [("definitions", .object [("type", word "object"), ("additionalProperties", root), ("deprecated", .bool true),
          ("default", .object [])]),
        ("dependencies", .object [("type", word "object"),
          ("additionalProperties", anyOf [root, reference "meta/validation#/$defs/stringArray"]),
          ("deprecated", .bool true), ("default", .object [])]),
        ("$recursiveAnchor", .object
          [("$ref", word "meta/core#/$defs/anchorString"), ("deprecated", .bool true)]),
        ("$recursiveRef", .object
          [("$ref", word "meta/core#/$defs/uriReferenceString"), ("deprecated", .bool true)])])]

def documents : List Tree :=
  [document, core, applicator, unevaluated, validation, metaData, formatAnnotation, formatAssertion, content]

end YamlSchema.Schema.MetaSchema.Draft2020
