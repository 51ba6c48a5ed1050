import YamlSchema.Yaml.Event

/-!
# The first document of a text

A text is to hold one document.  `FirstDocument.ofText` reads its events, numbers the anchors, and gives every alias the
number of its anchor.  What goes wrong while reading stands behind the events before it, and is met only by who reads
that far.
-/

namespace YamlSchema.Yaml

/-- An event of a document with its aliases resolved. -/
inductive Node where
  | alias (anchor : Nat)
  | scalar (value : Scalar)
  | sequenceStart (tag : Option Tag)
  | sequenceEnd
  | mappingStart (tag : Option Tag)
  | mappingEnd
  /-- The content of a text without a document. -/
  | absent
  deriving DecidableEq, Repr

/-- What ends a document early. -/
inductive Break where
  | fault (f : Fault)
  | unknownAnchor (m : Mark)
  deriving DecidableEq, Repr

structure FirstDocument where
  nodes : Array (Node × Mark)
  /-- The event that each anchor number names. -/
  anchors : List (Nat × Nat)
  /-- What ended the document, if it was not its end. -/
  broken : Option Break
  /-- Whether something follows the document. -/
  hasMore : Bool

namespace FirstDocument

/-- Whether a further document or anything else than the end follows. -/
private def more (g : Grammar) : Bool :=
  match g.next with
  | .ok ((.streamEnd, _), _) => false
  | _ => true

/-- The anchors of a document while it is read: the number of each name, and the event of each number. -/
private structure Anchors where
  numbers : List (String × Nat)
  events : List (Nat × Nat)

/-- A name takes as number how many names there are; a name defined again takes a new number. -/
private def Anchors.define (a : Anchors) (name : Option String) (event : Nat) : Anchors :=
  match name with
  | none => a
  | some name =>
    let id := a.numbers.length
    ⟨(name, id) :: a.numbers.filter (fun e => e.1 ≠ name), (id, event) :: a.events.filter (fun e => e.1 ≠ id)⟩

private def collect : Nat → Grammar → Array (Node × Mark) → Anchors → FirstDocument
  | 0, _, nodes, a => ⟨nodes, a.events, none, false⟩
  | fuel + 1, g, nodes, a =>
    match g.next with
    | .error f => ⟨nodes, a.events, some (.fault f), false⟩
    | .ok ((event, m), g) =>
      let add := fun (n : Node) (anchor : Option String) =>
        collect fuel g (nodes.push (n, m)) (a.define anchor nodes.size)
      match event with
      | .streamEnd => ⟨if nodes.isEmpty then #[(.absent, m)] else nodes, a.events, none, false⟩
      | .documentStart => collect fuel g nodes a
      | .documentEnd => ⟨nodes, a.events, none, more g⟩
      | .alias name => match a.numbers.find? fun e => e.1 = name with
        | some (_, id) => add (.alias id) none
        | none => ⟨nodes, a.events, some (.unknownAnchor m), false⟩
      | .scalar anchor value => add (.scalar value) anchor
      | .sequenceStart anchor tag => add (.sequenceStart tag) anchor
      | .sequenceEnd => add .sequenceEnd none
      | .mappingStart anchor tag => add (.mappingStart tag) anchor
      | .mappingEnd => add .mappingEnd none

def ofText (text : String) : FirstDocument :=
  match firstForbidden? 0 text.toList with
  | some offset => ⟨#[], [], some (.fault ⟨.controlCharacter, .offset offset, none⟩), false⟩
  | none => collect (8 * text.length + 64) (.ofText text) #[] ⟨[], []⟩

end FirstDocument

end YamlSchema.Yaml
