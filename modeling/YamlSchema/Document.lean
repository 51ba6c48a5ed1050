import YamlSchema.Directive
import YamlSchema.Failure
import YamlSchema.Files.System
import YamlSchema.Yaml.Decode

/-!
# Documents

A document is a text read twice: as YAML for its content, and for the directives in it.  The content is read first, so
a text that is no YAML has no directives either.
-/

namespace YamlSchema

structure Document where
  path : String
  content : Tree
  directives : List Directive
  deriving DecidableEq, Repr

/-- Why a text has no content. -/
inductive ContentError where
  | unreadable (e : Yaml.DecodeError)
  | unrepresentable (e : Yaml.Unrepresentable)

def ContentError.message : ContentError → String
  | .unreadable e => e.message
  | .unrepresentable e => e.message

/-- The value tree that a YAML text holds. -/
def Tree.ofYaml (text : String) : Except ContentError Tree :=
  match Yaml.Value.ofText text with
  | .error e => .error (.unreadable e)
  | .ok v => match v.toTree with
    | .error e => .error (.unrepresentable e)
    | .ok t => .ok t

namespace Document

def parse (path text : String) : Except Failure Document :=
  match Tree.ofYaml text with
  | .error e => .error (.malformed path e.message)
  | .ok content => .ok ⟨path, content, extractDirectives text⟩

/-- Reads the file at a path. -/
def load (fs : FileSystem) (path : String) : Except Failure Document :=
  match fs.read path with
  | .error e => .error (.unreadable path e.text)
  | .ok text => parse path text

/-- The values of the directives of a document with a given key. -/
def values (d : Document) (key : String) : List String := directiveValues d.directives key

end Document

end YamlSchema
