import YamlSchema.Schema.Draft
import YamlSchema.Schema.MetaSchema.Basic

/-!
# The schema of schemas of Draft 7

The order of its members is that of the published document, since the first violation of a schema by it is the one that
is told.
-/

namespace YamlSchema.Schema.MetaSchema.Draft7

def root : Tree := reference "#"

def limit : Tree := reference "#/definitions/nonNegativeInteger"

def lowLimit : Tree := reference "#/definitions/nonNegativeIntegerDefault0"

def schemas : Tree := reference "#/definitions/schemaArray"

def texts : Tree := reference "#/definitions/stringArray"

def definitions : Tree := .object
  [("schemaArray", someOf root),
    ("nonNegativeInteger", natural),
    ("nonNegativeIntegerDefault0", .object [("allOf", .array [limit, .object [("default", .ofInt 0)]])]),
    ("simpleTypes", typeNames),
    ("stringArray", distinctTexts)]

def keywords : Tree := .object
  [("$id", formatted "uri-reference"),
    ("$schema", formatted "uri"),
    ("$ref", formatted "uri-reference"),
    ("$comment", typed "string"),
    ("title", typed "string"),
    ("description", typed "string"),
    ("default", .bool true),
    ("readOnly", flag),
    ("writeOnly", flag),
    ("examples", listOf (.bool true)),
    ("multipleOf", divisor),
    ("maximum", typed "number"),
    ("exclusiveMaximum", typed "number"),
    ("minimum", typed "number"),
    ("exclusiveMinimum", typed "number"),
    ("maxLength", limit),
    ("minLength", lowLimit),
    ("pattern", formatted "regex"),
    ("additionalItems", root),
    ("items", .object [("anyOf", .array [root, schemas]), ("default", .bool true)]),
    ("maxItems", limit),
    ("minItems", lowLimit),
    ("uniqueItems", flag),
    ("contains", root),
    ("maxProperties", limit),
    ("minProperties", lowLimit),
    ("required", texts),
    ("additionalProperties", root),
    ("definitions", mapOf root),
    ("properties", mapOf root),
    ("patternProperties", patternsTo root),
    ("dependencies", .object [("type", word "object"), ("additionalProperties", anyOf [root, texts])]),
    ("propertyNames", root),
    ("const", .bool true),
    ("enum", listOf (.bool true)),
    ("type", typeChoice (reference "#/definitions/simpleTypes")),
    ("format", typed "string"),
    ("contentMediaType", typed "string"),
    ("contentEncoding", typed "string"),
    ("if", root),
    ("then", root),
    ("else", root),
    ("allOf", schemas),
    ("anyOf", schemas),
    ("oneOf", schemas),
    ("not", root)]

def document : Tree := .object
  [("$schema", word (Draft.draft7.uri ++ "#")),
    ("$id", word (Draft.draft7.uri ++ "#")),
    ("title", word "Core schema meta-schema"),
    ("definitions", definitions),
    ("type", schemaTypes),
    ("properties", keywords),
    ("default", .bool true)]

end YamlSchema.Schema.MetaSchema.Draft7
