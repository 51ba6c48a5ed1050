import YamlSchema.Schema.Draft
import YamlSchema.Schema.Uri

/-!
# Links between schemas

A `Link` is what a reference means once it is read in a document: a document and a place in it.  A reference that begins
with `#` stays in its document.  What lies around a place is its `Setting`: the draft by which it is read, the URI that
its references start from, and the documents on the way to it that references can come back to.
-/

namespace YamlSchema.Schema

/-- The documents on the way to a place that references can come back to. -/
structure Scope where
  /-- Those with dynamic anchors, the outermost first. -/
  dynamic : List Uri
  /-- The outermost one of the last documents in a row that have a recursive anchor. -/
  recursive : Option Uri
  deriving DecidableEq, Repr

def Scope.empty : Scope := ⟨[], none⟩

/-- What lies around a schema. -/
structure Setting where
  draft : Draft
  /-- The draft whose vocabularies are in force. -/
  vocabularies : Draft
  base : Uri
  scope : Scope
  deriving DecidableEq, Repr

/-- The URI that references in a mapping start from. -/
def baseWithin (draft : Draft) (base : Uri) (members : OrderedMap Tree) : Uri :=
  match draft.ownId? members with
  | some id => match Uri.resolve base id with
    | .ok uri => uri
    | .error _ => base
  | none => base

namespace Setting

def hasKeyword (s : Setting) (keyword : String) : Bool := s.draft.hasKeyword s.vocabularies keyword

/-- From the outside of a schema to its inside: the URI that it sets. -/
def inside (s : Setting) (schema : Tree) : Setting :=
  match schema with
  | .object members => { s with base := baseWithin s.draft s.base members }
  | _ => s

/-- From a schema to one that it contains: the draft and the URI that this one sets. -/
def entering (s : Setting) (schema : Tree) : Setting := { s with draft := s.draft.within schema }.inside schema

end Setting

/-- The document in which a reference stands, the document and the fragment that it names, and what it can come back
to. -/
structure Link where
  source : Uri
  document : Uri
  /-- A fragment as it is written. -/
  fragment : String
  /-- Whether the outermost document with a recursive anchor is meant instead, if this one has such an anchor. -/
  recursive : Bool
  scope : Scope
  deriving DecidableEq, Repr

namespace Link

/-- What a reference in a setting means. -/
def ofReference (s : Setting) (reference : String) : Except UriFault Link := do
  let _ ← Uri.resolve s.base reference
  match Uri.splitFragment reference with
  | ("", some fragment) => return ⟨s.base, s.base, fragment, false, s.scope⟩
  | (document, fragment) => return ⟨s.base, ← Uri.resolve s.base document, fragment.getD "", false, s.scope⟩

/-- The whole document of a setting, or the one that has it as a part. -/
def recursion (s : Setting) : Link := ⟨s.base, s.base, "", true, s.scope⟩

end Link

end YamlSchema.Schema
