/-!
# Tags

A `Tag` says what kind of value a node is.  Its characters may be escaped byte by byte, so it is kept as bytes: they
need not be text, and a zero byte ends them.  A tag that begins with an exclamation mark is local, and has a name if it
is text; the tags of the YAML types begin in another way.
-/

namespace YamlSchema.Yaml

structure Tag where
  bytes : List UInt8
  deriving DecidableEq, Repr

namespace Tag

/-- The tag that is written with some bytes. -/
def ofBytes (bytes : List UInt8) : Tag := ⟨bytes.takeWhile (· ≠ 0)⟩

def ofText (text : String) : Tag := ofBytes text.toUTF8.toList

/-- The tag with the bytes of two others. -/
def append (t u : Tag) : Tag := ⟨t.bytes ++ u.bytes⟩

/-- The tag of one of the YAML types. -/
def core (name : String) : Tag := ofText ("tag:yaml.org,2002:" ++ name)

/-- The tag of a node that only says that it has one. -/
def bare : Tag := ofText "!"

def isLocal (t : Tag) : Bool := t.bytes.head? = some 33

/-- The name of a local tag that is text; that of the bare tag is its exclamation mark. -/
def name? (t : Tag) : Option String :=
  if t = bare then some "!"
  else if t.isLocal then String.fromUTF8? ⟨(t.bytes.drop 1).toArray⟩
  else none

end Tag

end YamlSchema.Yaml
