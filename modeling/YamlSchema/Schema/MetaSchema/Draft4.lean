import YamlSchema.Schema.Draft
import YamlSchema.Schema.MetaSchema.Basic

/-!
# The schema of schemas of Draft 4
-/

namespace YamlSchema.Schema.MetaSchema.Draft4

private def root : Tree := reference "#"

private def limit : Tree := reference "#/definitions/positiveInteger"

private def lowLimit : Tree := reference "#/definitions/positiveIntegerDefault0"

private def schemas : Tree := reference "#/definitions/schemaArray"

private def texts : Tree := reference "#/definitions/stringArray"

private def flagOrSchema : Tree := .object [("anyOf", .array [typed "boolean", root]), ("default", anything)]

private def definitions : Tree := .object
  [("schemaArray", someOf root),
    ("positiveInteger", natural),
    ("positiveIntegerDefault0", .object [("allOf", .array [limit, .object [("default", .ofInt 0)]])]),
    ("simpleTypes", typeNames),
    ("stringArray", .object [("type", word "array"), ("items", typed "string"), ("minItems", .ofInt 1),
      ("uniqueItems", .bool true)])]

private def keywords : Tree := .object
  [("id", typed "string"),
    ("$schema", typed "string"),
    ("title", typed "string"),
    ("description", typed "string"),
    ("default", anything),
    ("multipleOf", .object [("type", word "number"), ("minimum", .ofInt 0), ("exclusiveMinimum", .bool true)]),
    ("maximum", typed "number"),
    ("exclusiveMaximum", typed "boolean"),
    ("minimum", typed "number"),
    ("exclusiveMinimum", typed "boolean"),
    ("maxLength", limit),
    ("minLength", lowLimit),
    ("pattern", formatted "regex"),
    ("additionalItems", flagOrSchema),
    ("items", .object [("anyOf", .array [root, schemas]), ("default", anything)]),
    ("maxItems", limit),
    ("minItems", lowLimit),
    ("uniqueItems", flag),
    ("maxProperties", limit),
    ("minProperties", lowLimit),
    ("required", texts),
    ("additionalProperties", flagOrSchema),
    ("definitions", mapOf root),
    ("properties", mapOf root),
    ("patternProperties", mapOf root),
    ("dependencies", .object [("type", word "object"), ("additionalProperties", anyOf [root, texts])]),
    ("enum", .object [("type", word "array"), ("minItems", .ofInt 1), ("uniqueItems", .bool true)]),
    ("type", typeChoice (reference "#/definitions/simpleTypes")),
    ("format", typed "string"),
    ("allOf", schemas),
    ("anyOf", schemas),
    ("oneOf", schemas),
    ("not", root)]

def document : Tree := .object
  [("id", word (Draft.draft4.uri ++ "#")),
    ("$schema", word (Draft.draft4.uri ++ "#")),
    ("description", word "Core schema meta-schema"),
    ("definitions", definitions),
    ("type", word "object"),
    ("properties", keywords),
    ("dependencies", .object [("exclusiveMaximum", words ["maximum"]), ("exclusiveMinimum", words ["minimum"])]),
    ("default", anything)]

end YamlSchema.Schema.MetaSchema.Draft4
