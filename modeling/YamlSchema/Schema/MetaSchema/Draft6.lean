import YamlSchema.Schema.Draft
import YamlSchema.Schema.MetaSchema.Basic

/-!
# The schema of schemas of Draft 6
-/

namespace YamlSchema.Schema.MetaSchema.Draft6

private def root : Tree := reference "#"

private def limit : Tree := reference "#/definitions/nonNegativeInteger"

private def lowLimit : Tree := reference "#/definitions/nonNegativeIntegerDefault0"

private def schemas : Tree := reference "#/definitions/schemaArray"

private def texts : Tree := reference "#/definitions/stringArray"

private def definitions : Tree := .object
  [("schemaArray", someOf root),
    ("nonNegativeInteger", natural),
    ("nonNegativeIntegerDefault0", .object [("allOf", .array [limit, .object [("default", .ofInt 0)]])]),
    ("simpleTypes", typeNames),
    ("stringArray", distinctTexts)]

private def keywords : Tree := .object
  [("$id", formatted "uri-reference"),
    ("$schema", formatted "uri"),
    ("$ref", formatted "uri-reference"),
    ("title", typed "string"),
    ("description", typed "string"),
    ("default", anything),
    ("examples", listOf anything),
    ("multipleOf", divisor),
    ("maximum", typed "number"),
    ("exclusiveMaximum", typed "number"),
    ("minimum", typed "number"),
    ("exclusiveMinimum", typed "number"),
    ("maxLength", limit),
    ("minLength", lowLimit),
    ("pattern", formatted "regex"),
    ("additionalItems", root),
    ("items", .object [("anyOf", .array [root, schemas]), ("default", anything)]),
    ("maxItems", limit),
    ("minItems", lowLimit),
    ("uniqueItems", flag),
    ("contains", root),
    ("maxProperties", limit),
    ("minProperties", lowLimit),
    ("required", texts),
    ("additionalProperties", root),
    ("definitions", mapOf root),
    ("properties", mapOf root),
    ("patternProperties", mapOf root),
    ("dependencies", .object [("type", word "object"), ("additionalProperties", anyOf [root, texts])]),
    ("propertyNames", root),
    ("const", anything),
    ("enum", .object [("type", word "array"), ("minItems", .ofInt 1), ("uniqueItems", .bool true)]),
    ("type", typeChoice (reference "#/definitions/simpleTypes")),
    ("format", typed "string"),
    ("allOf", schemas),
    ("anyOf", schemas),
    ("oneOf", schemas),
    ("not", root)]

def document : Tree := .object
  [("$schema", word (Draft.draft6.uri ++ "#")),
    ("$id", word (Draft.draft6.uri ++ "#")),
    ("title", word "Core schema meta-schema"),
    ("definitions", definitions),
    ("type", schemaTypes),
    ("properties", keywords),
    ("default", anything)]

end YamlSchema.Schema.MetaSchema.Draft6
