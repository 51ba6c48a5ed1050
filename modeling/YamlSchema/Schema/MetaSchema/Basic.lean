import YamlSchema.Tree.Basic

/-!
# What schemas of schemas are made of

Short names for the parts that the schemas of schemas of all drafts share.
-/

namespace YamlSchema.Schema.MetaSchema

def word (s : String) : Tree := .string s

def words (all : List String) : Tree := .array (all.map word)

/-- Anything. -/
def anything : Tree := .object []

def reference (target : String) : Tree := .object [("$ref", word target)]

def typed (name : String) : Tree := .object [("type", word name)]

/-- A text of a format. -/
def formatted (name : String) : Tree := .object [("type", word "string"), ("format", word name)]

def flag : Tree := .object [("type", word "boolean"), ("default", .bool false)]

def anyOf (schemas : List Tree) : Tree := .object [("anyOf", .array schemas)]

def listOf (items : Tree) : Tree := .object [("type", word "array"), ("items", items)]

/-- A list with at least one element. -/
def someOf (items : Tree) : Tree := .object [("type", word "array"), ("minItems", .ofInt 1), ("items", items)]

/-- A mapping whose values all meet a schema. -/
def mapOf (values : Tree) : Tree :=
  .object [("type", word "object"), ("additionalProperties", values), ("default", .object [])]

/-- A mapping whose names are patterns and whose values all meet a schema. -/
def patternsTo (values : Tree) : Tree := .object
  [("type", word "object"), ("additionalProperties", values), ("propertyNames", .object [("format", word "regex")]),
    ("default", .object [])]

/-- A number that is not negative. -/
def natural : Tree := .object [("type", word "integer"), ("minimum", .ofInt 0)]

/-- The number above which a divisor lies. -/
def divisor : Tree := .object [("type", word "number"), ("exclusiveMinimum", .ofInt 0)]

/-- The names of types. -/
def typeNames : Tree :=
  .object [("enum", words ["array", "boolean", "integer", "null", "number", "object", "string"])]

/-- A name of a type, which is defined elsewhere, or several different ones. -/
def typeChoice (name : Tree) : Tree := anyOf
  [name, .object [("type", word "array"), ("items", name), ("minItems", .ofInt 1), ("uniqueItems", .bool true)]]

/-- Different texts. -/
def distinctTexts : Tree := .object
  [("type", word "array"), ("items", typed "string"), ("uniqueItems", .bool true), ("default", .array [])]

/-- Mappings and truth values. -/
def schemaTypes : Tree := words ["object", "boolean"]

end YamlSchema.Schema.MetaSchema
