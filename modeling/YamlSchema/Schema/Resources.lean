import YamlSchema.Schema.Lowering
import YamlSchema.Schema.MetaSchema.Published
import YamlSchema.Schema.Node

/-!
# The documents that a schema refers to

`References` holds the schemas that may be named by their identifiers.  `Resources.gather` collects what the references
of a schema lead to: it surveys every place of a document where a keyword holds a schema, takes up the documents that
are named there and goes on with those.  `Resources.find` says what a link leads to in what has been collected, and in
which setting that is to be read.
-/

namespace YamlSchema.Schema

/-- Schemas by identifier. -/
abbrev References := OrderedMap Tree

/-! ### Places where schemas stand -/

/-- A mapping that is a schema, with its draft, the URI around it and the number of schemas around it. -/
structure Place where
  level : Nat
  draft : Draft
  base : Uri
  members : OrderedMap Tree

/-- The URI that a place sets. -/
def Place.uri (p : Place) : Uri := baseWithin p.draft p.base p.members

mutual

/-- The schemas in a schema of a known draft, itself first. -/
def places (level : Nat) (draft : Draft) (base : Uri) : Tree → List Place
  | .object members =>
    ⟨level, draft, base, members⟩ :: placesOfMembers (level + 1) draft (baseWithin draft base members) members
  | _ => []

def placesOfMembers (level : Nat) (draft : Draft) (base : Uri) : List (String × Tree) → List Place
  | [] => []
  | (key, t) :: rest => placesOfMember level draft base (draft.holding? key) t ++ placesOfMembers level draft base rest

def placesOfMember (level : Nat) (draft : Draft) (base : Uri) (holding : Option Draft.Holding) : Tree → List Place
  | .array items => if holding = some .list ∨ holding = some .oneOrList then placesOfItems level draft base items else []
  | .object members =>
    if holding = some .one ∨ holding = some .oneOrList then
      let inner := draft.within (.object members)
      ⟨level, inner, base, members⟩ :: placesOfMembers (level + 1) inner (baseWithin inner base members) members
    else if holding = some .named then placesOfEach level draft base members
    else []
  | _ => []

def placesOfItems (level : Nat) (draft : Draft) (base : Uri) : List Tree → List Place
  | [] => []
  | t :: rest => places level (draft.within t) base t ++ placesOfItems level draft base rest

def placesOfEach (level : Nat) (draft : Draft) (base : Uri) : List (String × Tree) → List Place
  | [] => []
  | (_, t) :: rest => places level (draft.within t) base t ++ placesOfEach level draft base rest

end

/-! ### References of one place -/

def startsWith (text start : String) : Bool := start.toList.isPrefixOf text.toList

/-- Whether a reference names a document of a draft, which is always at hand. -/
def namesPublished (reference : String) : Bool :=
  ["https://json-schema.org/draft/2020-12/", "https://json-schema.org/draft/2019-09/",
    "http://json-schema.org/draft-07/", "http://json-schema.org/draft-06/",
    "http://json-schema.org/draft-04/"].any fun home => startsWith reference home

/-- The URIs that a member of a mapping names; `within` tells what another part of the mapping names. -/
def namedBy (base : Uri) (members : OrderedMap Tree) (within : OrderedMap Tree → Except Refusal (List Uri))
    (m : String × Tree) : Except Refusal (List Uri) :=
  match m.2 with
  | .string reference =>
    if namesPublished reference then .ok []
    else if startsWith reference "#" then
      let pointer := String.ofList (reference.toList.dropWhile (· = '#'))
      match (Tree.object members).pointer? pointer with
      | some (.object inner) => within inner
      | _ => .ok []
    else match Uri.resolve base reference with
      | .ok uri => .ok [uri]
      | .error fault => .error (.badReference reference fault)
  | _ => .ok []

/-- The URIs outside the document that a mapping names itself.  A reference to another part of the mapping is followed,
`fuel` times at most. -/
def outside (fuel : Nat) (base : Uri) (members : OrderedMap Tree) : Except Refusal (List Uri) :=
  if startsWith base "urn:" then .ok []
  else
    let naming := members.filter fun m => m.1 = "$ref" || m.1 = "$schema"
    match fuel with
    | 0 => naming.flatMapM (namedBy base members fun _ => .ok [])
    | fuel + 1 => naming.flatMapM (namedBy base members fun inner => outside fuel base inner)

/-- The draft of a schema that stands in another one, or for itself; it must not name one that is not known. -/
def draftOf (around : Draft) (schema : Tree) : Except Refusal Draft :=
  match around.named schema with
  | .ok draft => .ok draft
  | .error name => .error (.unknownSpecification name)

/-- The URIs that a place names, from the base that it sets. -/
def Place.outside (p : Place) : Except Refusal (List Uri) := do
  if 0 < p.level then
    let _ ← draftOf p.draft (.object p.members)
  let base ← match p.draft.ownId? p.members with
    | none => pure p.base
    | some id => match Uri.resolve p.base id with
      | .ok uri => pure uri
      | .error fault => throw (.badReference id fault)
  Schema.outside (Tree.object p.members).depth base p.members

/-! ### Collecting -/

/-- A document, with the draft in which it is written. -/
structure Resource where
  draft : Draft
  schema : Tree

/-- A place of a document that has a name there. -/
structure Anchored where
  document : Uri
  anchor : Draft.Anchor
  resource : Resource

/-- Documents by the URI under which a reference finds them, and the anchors in them. -/
structure Resources where
  documents : OrderedMap Resource
  anchors : List Anchored

namespace Resources

/-- The draft of a schema that names none. -/
def defaultDraft : Draft := .draft7

/-- Takes up the identifier and the anchors that a place has. -/
def enter (r : Resources) (p : Place) : Resources :=
  let resource : Resource := ⟨p.draft, .object p.members⟩
  let documents := if (p.draft.ownId? p.members).isSome then OrderedMap.insert r.documents p.uri resource
    else r.documents
  let anchors := (p.draft.anchors p.members).map fun a => ⟨p.uri, a, resource⟩
  ⟨documents, anchors.reverse ++ r.anchors⟩

/-- The URI that a document of a draft gives itself; it is in its normal form. -/
def publishedUri (d : Draft × Tree) : Uri := (d.1.ownId? (membersOf d.2)).getD ""

/-- What is always at hand: the documents of the drafts. -/
def bundled : Resources where
  documents := MetaSchema.published.map fun d => (publishedUri d, ⟨d.1, d.2⟩)
  anchors := (MetaSchema.published.flatMap fun d =>
    (d.1.anchors (membersOf d.2)).map fun a => ⟨publishedUri d, a, ⟨d.1, d.2⟩⟩).reverse

/-- A document or a part of one to survey. -/
structure Errand where
  draft : Draft
  base : Uri
  schema : Tree

/-- Takes up the document that a URI means, if it is not there yet, and says what to survey next. -/
def retrieve (references : References) (r : Resources) (uri : Uri) : Except Refusal (Resources × List Errand) :=
  let (document, fragment) := Uri.splitFragment uri
  if OrderedMap.contains r.documents document then .ok (r, [])
  else
    let id := Uri.lastSegment document
    match OrderedMap.get? references id with
    | none => .error (.notRetrieved document id)
    | some t => do
      let schema := lower t
      let draft ← draftOf defaultDraft schema
      let inner ← ((fragment.bind fun pointer => schema.pointer? pointer).toList).mapM fun t => do
        return ⟨← draftOf defaultDraft t, document, t⟩
      return ({ r with documents := OrderedMap.insert r.documents document ⟨draft, schema⟩ },
        inner ++ [⟨draft, document, schema⟩])

/-- Takes up the documents that some URIs mean, one after the other, and says what to survey next. -/
def retrieveAll (references : References) (r : Resources) : List Uri → Except Refusal (Resources × List Errand)
  | [] => .ok (r, [])
  | uri :: rest => do
    let (r, errands) ← retrieve references r uri
    let (r, more) ← retrieveAll references r rest
    return (r, errands ++ more)

/-- The places in what is to be surveyed, those with few schemas around them first. -/
def survey (queue : List Errand) : List Place :=
  (queue.flatMap fun e => places 0 e.draft e.base e.schema).mergeSort fun p q => p.level ≤ q.level

/-- The most rounds of a survey.  Every round but the last one takes up a document, and there is no room for more. -/
def maxRounds : Nat := 18446744073709551616

/-- Surveys documents and what they lead to, in at most `rounds` rounds. -/
def collect (references : References) (rounds : Nat) (r : Resources) (queue : List Errand) : Except Refusal Resources :=
  match rounds with
  | 0 => .error .tooManyDocuments
  | rounds + 1 => do
    let found := survey queue
    let wanted ← found.flatMapM Place.outside
    let (r, next) ← retrieveAll references (found.foldl enter r) wanted
    if next.isEmpty then return r else collect references rounds r next

/-- The URI of a schema that is compiled. -/
def uriOf (schema : Tree) : Except Refusal Uri :=
  match schema.object?.bind defaultDraft.ownId? with
  | none => .ok rootUri
  | some id => match Uri.resolve rootUri id with
    | .ok uri => .ok uri
    | .error fault => .error (.badReference id fault)

/-- What is at hand when a schema is surveyed: the documents of the drafts, and the schema itself.  It is read in the
default draft, whatever it names. -/
def start (uri : Uri) (schema : Tree) : Resources :=
  { bundled with documents := OrderedMap.insert bundled.documents uri ⟨defaultDraft, schema⟩ }

/-- Everything that a schema leads to. -/
def gather (references : References) (uri : Uri) (schema : Tree) : Except Refusal Resources :=
  collect references maxRounds (start uri schema) [⟨defaultDraft, uri, schema⟩]

/-! ### Finding -/

def decodeEscapes : List Char → List UInt8
  | '%' :: a :: b :: rest => UInt8.ofNat (UriReference.hexValue a b) :: decodeEscapes rest
  | c :: rest => (String.singleton c).toUTF8.toList ++ decodeEscapes rest
  | [] => []

/-- Follows the tokens of a pointer.  The base changes with every schema on the way that has an identifier; `path` is the
way from the last of those. -/
def walk (written : String) (draft : Draft) (base : Uri) (path : List String) (t : Tree) :
    List (List Char) → Except Refusal (Uri × Tree)
  | [] => .ok (base, t)
  | token :: rest => do
    let child ← match t with
      | .array items => match word? token with
        | none => throw (.badIndex (String.ofList token) written)
        | some i => match items[i]? with
          | some c => pure c
          | none => throw (.noPointer written)
      | _ => match t.child? (Step.unescapeChars token) with
        | some c => pure c
        | none => throw (.noPointer written)
    let path := path ++ [String.ofList (Step.unescapeChars token)]
    let inner := if draft.leadsToSchema child.object?.isSome path then baseWithin draft base (child.object?.getD [])
      else base
    walk written draft inner (if inner = base then path else []) child rest

/-- The anchor of a document with a name; the document may also have the anchors of the URI that it gives itself. -/
def anchored? (r : Resources) (document : Uri) (name : String) : Option Anchored :=
  let lookup := fun (uri : Uri) => r.anchors.find? fun a => a.document = uri && a.anchor.name = name
  let own := (OrderedMap.get? r.documents document).bind fun resource =>
    (resource.schema.object?.bind resource.draft.ownId?).bind fun id => (Uri.resolve rootUri id).toOption
  (lookup document).or (own.bind lookup)

def hasRecursiveAnchor (r : Resources) (document : Uri) : Bool :=
  (OrderedMap.get? r.documents document).any fun d => d.schema.member? "$recursiveAnchor" = some (.bool true)

/-- A scope with one more document. -/
def extend (r : Resources) (scope : Scope) (document : Uri) : Scope :=
  let isDynamic := r.anchors.any fun a => a.document = document && a.anchor.dynamic
  { dynamic := if isDynamic && document ∉ scope.dynamic then scope.dynamic ++ [document] else scope.dynamic
    recursive := if r.hasRecursiveAnchor document then scope.recursive.or (some document) else none }

/-- The setting of a part of a document, and the part. -/
def placed (draft : Draft) (base : Uri) (scope : Scope) (t : Tree) : Setting × Tree :=
  let vocabularies := match draft.named t with
    | .ok named => named
    | .error _ => draft
  (⟨draft, vocabularies, base, scope⟩, t)

def findAnchor (r : Resources) (scope : Scope) (link : Link) : Except Refusal (Setting × Tree) :=
  match r.anchored? link.document link.fragment with
  | none => .error (if '/' ∈ link.fragment.toList then .badAnchor link.fragment else .noAnchor link.fragment)
  | some own =>
    if own.anchor.dynamic then
      let outermost := scope.dynamic.findSome? fun document =>
        (r.anchored? document link.fragment).filter fun a => a.anchor.dynamic
      let target := (outermost.getD own).resource
      .ok (placed target.draft (baseWithin target.draft link.document (target.schema.object?.getD [])) scope
        target.schema)
    else .ok (placed own.resource.draft link.document scope own.resource.schema)

/-- What a link leads to, and the setting in which it is to be read. -/
def find (r : Resources) (link : Link) : Except Refusal (Setting × Tree) :=
  let scope := r.extend link.scope link.source
  let document := match link.recursive && r.hasRecursiveAnchor link.document, scope.recursive with
    | true, some outermost => outermost
    | _, _ => link.document
  match OrderedMap.get? r.documents document with
  | none => .error (.notPresent document)
  | some resource => match link.fragment.toList with
    | [] => .ok (placed resource.draft document scope resource.schema)
    | '/' :: pointer => match String.fromUTF8? ⟨(decodeEscapes pointer).toArray⟩ with
      | none => .error (.badEncoding link.fragment)
      | some decoded => do
        let (base, t) ← walk link.fragment resource.draft document [] resource.schema (splitChars '/' decoded.toList)
        return placed resource.draft base scope t
    | _ => findAnchor r scope link

end Resources

end YamlSchema.Schema
