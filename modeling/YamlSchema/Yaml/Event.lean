import YamlSchema.Yaml.Token

/-!
# Events

The grammar of YAML over its tokens.  A `Grammar` is the place in a token sequence together with what is expected there;
`Grammar.next` reads one event: the start or end of a document or a collection, a scalar, or an alias.  A value that is
left out is an empty plain scalar.
-/

namespace YamlSchema.Yaml

structure Scalar where
  tag : Option Tag
  text : String
  style : ScalarStyle
  deriving DecidableEq, Repr

inductive Event where
  | streamEnd
  | documentStart
  | documentEnd
  | alias (name : String)
  | scalar (anchor : Option String) (value : Scalar)
  | sequenceStart (anchor : Option String) (tag : Option Tag)
  | sequenceEnd
  | mappingStart (anchor : Option String) (tag : Option Tag)
  | mappingEnd
  deriving DecidableEq, Repr

/-- What is expected next. -/
inductive Expected where
  | firstDocument
  | document
  | documentContent
  | documentEnd
  | blockNode
  | blockSequenceFirst
  | blockSequenceEntry
  | indentlessEntry
  | blockMappingFirst
  | blockMappingKey
  | blockMappingValue
  | flowSequenceFirst
  | flowSequenceEntry
  | flowPairKey
  | flowPairValue
  | flowPairEnd
  | flowMappingFirst
  | flowMappingKey
  | flowMappingValue
  | flowMappingNoValue
  | nothing
  deriving DecidableEq, Repr

structure Grammar where
  lexer : Lexer
  expected : Expected
  /-- What is expected after the collections that are open now, the innermost first. -/
  after : List Expected
  /-- Where the open collections began. -/
  opened : List Mark
  /-- The tag handles of the document. -/
  handles : List (String × Tag)

namespace Grammar

def ofText (text : String) : Grammar :=
  { lexer := (Lexer.ofText text).drop, expected := .firstDocument, after := [], opened := [], handles := [] }

private abbrev Step := Except Fault ((Event × Mark) × Grammar)

private def peek (g : Grammar) : Except Fault (Token × Grammar) := do
  let (token, l) ← g.lexer.peek
  return (token.getD ⟨.streamEnd, l.mark, l.mark⟩, { g with lexer := l })

private def drop (g : Grammar) : Grammar := { g with lexer := g.lexer.drop }

private def expecting (g : Grammar) (e : Expected) : Grammar := { g with expected := e }

/-- Goes back to what is expected after the innermost open node. -/
private def leave (g : Grammar) : Grammar :=
  { g with expected := g.after.headD .nothing, after := g.after.drop 1 }

private def leaveCollection (g : Grammar) : Grammar := { g.leave with opened := g.opened.drop 1 }

private def enter (g : Grammar) (then_ : Expected) : Grammar := { g with after := then_ :: g.after }

private def omitted (g : Grammar) (m : Mark) : Step :=
  .ok ((.scalar none ⟨none, "", .plain⟩, m), g)

private def emit (g : Grammar) (e : Event) (m : Mark) : Step := .ok ((e, m), g)

private def openedAt (g : Grammar) : Mark := g.opened.headD .start

/-- The tag that a handle and a suffix stand for. -/
private def resolveTag (g : Grammar) (since : Mark) (handle : String) (suffix : Tag) (at_ : Mark) :
    Except Fault Tag :=
  if handle = "" then .ok suffix
  else match g.handles.find? fun h => h.1 = handle with
    | some (_, expansion) => .ok (expansion.append suffix)
    | none => .error (.during .node since .undefinedTagHandle at_)

/-- An anchor and a tag in either order, both optional, and where they begin and the token behind them. -/
private def properties (g : Grammar) (token : Token) :
    Except Fault (Option String × Option (String × Tag × Mark) × Token × Grammar) := do
  match token.kind with
  | .anchor name =>
    let (next, g) ← g.drop.peek
    match next.kind with
    | .tag handle suffix =>
      let (last, g) ← g.drop.peek
      return (some name, some (handle, suffix, next.start), last, g)
    | _ => return (some name, none, next, g)
  | .tag handle suffix =>
    let (next, g) ← g.drop.peek
    match next.kind with
    | .anchor name =>
      let (last, g) ← g.drop.peek
      return (some name, some (handle, suffix, token.start), last, g)
    | _ => return (none, some (handle, suffix, token.start), next, g)
  | _ => return (none, none, token, g)

/-- A node.  In a `block` place it may be a block collection, and where `indentless` entries of a sequence may stand at
the indentation of the mapping around them. -/
private def node (g : Grammar) (block indentless : Bool) : Step := do
  let (token, g) ← g.peek
  match token.kind with
  | .alias name => g.leave.drop.emit (.alias name) token.start
  | _ =>
    let start := token.start
    let (anchor, written, token, g) ← g.properties token
    let tag ← match written with
      | none => pure none
      | some (handle, suffix, at_) => some <$> g.resolveTag start handle suffix at_
    let open_ := fun (e : Event) (next : Expected) => { g with expected := next }.emit e start
    match token.kind with
    | .scalar text style =>
      g.leave.drop.emit (.scalar anchor ⟨tag, text, style⟩) start
    | .flowSequenceStart => open_ (.sequenceStart anchor tag) .flowSequenceFirst
    | .flowMappingStart => open_ (.mappingStart anchor tag) .flowMappingFirst
    | kind =>
      if indentless && kind = .blockEntry then open_ (.sequenceStart anchor tag) .indentlessEntry
      else if block && kind = .blockSequenceStart then open_ (.sequenceStart anchor tag) .blockSequenceFirst
      else if block && kind = .blockMappingStart then open_ (.mappingStart anchor tag) .blockMappingFirst
      else if anchor.isSome || tag.isSome then g.leave.emit (.scalar anchor ⟨tag, "", .plain⟩) start
      else throw (.during (if block then .blockNode else .flowNode) start .noNodeContent token.start)

/-- The directives in front of a document. -/
private def directives :
    Nat → Bool → List (String × Tag) → Grammar → Except Fault (List (String × Tag) × Grammar)
  | 0, _, handles, g => .ok (handles, g)
  | fuel + 1, versioned, handles, g => do
    let (token, g) ← g.peek
    match token.kind with
    | .version major minor =>
      if versioned then throw (.plain .duplicateVersion token.start)
      if major ≠ 1 || (minor ≠ 1 && minor ≠ 2) then throw (.plain .incompatibleVersion token.start)
      directives fuel true handles g.drop
    | .tagHandle handle expansion =>
      if handles.any fun h => h.1 = handle then throw (.plain .duplicateTagHandle token.start)
      directives fuel versioned (handles ++ [(handle, expansion)]) g.drop
    | _ => return (handles, g)

/-- The handles that every document has, unless it gives them another meaning. -/
private def defaultHandles : List (String × Tag) := [("!", .bare), ("!!", .core "")]

private def withDirectives (g : Grammar) : Except Fault Grammar := do
  let (handles, g) ← g.directives (g.lexer.cursor.rest.length + g.lexer.queue.length + 2) false []
  return { g with handles := handles ++ defaultHandles }

private def skipDocumentEnds : Nat → Grammar → Except Fault (Token × Grammar)
  | 0, g => g.peek
  | fuel + 1, g => do
    let (token, g) ← g.peek
    if token.kind = .documentEnd then skipDocumentEnds fuel g.drop else return (token, g)

private def documentStart (g : Grammar) (first : Bool) : Step := do
  let (token, g) ←
    if first then g.peek
    else skipDocumentEnds (g.lexer.cursor.rest.length + g.lexer.queue.length + 2) g
  let explicit := match token.kind with
    | .version .. | .tagHandle .. | .documentStart => true
    | _ => !first
  if token.kind = .streamEnd then (g.drop.expecting .nothing).emit .streamEnd token.start
  else if !explicit then
    let g ← g.withDirectives
    ((g.enter .documentEnd).expecting .blockNode).emit .documentStart token.start
  else
    let g ← g.withDirectives
    let (next, g) ← g.peek
    if next.kind ≠ .documentStart then throw (.plain .noDocumentStart next.start)
    ((g.enter .documentEnd).drop.expecting .documentContent).emit .documentStart token.start

private def documentContent (g : Grammar) : Step := do
  let (token, g) ← g.peek
  match token.kind with
  | .version .. | .tagHandle .. | .documentStart | .documentEnd | .streamEnd => g.leave.omitted token.start
  | _ => g.node true false

private def documentEnd (g : Grammar) : Step := do
  let (token, g) ← g.peek
  let g := if token.kind = .documentEnd then g.drop else g
  { g with expected := .document, handles := [] }.emit .documentEnd token.start

/-- The start token of a collection. -/
private def opening (g : Grammar) : Except Fault Grammar := do
  let (token, g) ← g.peek
  return { g.drop with opened := token.start :: g.opened }

private def blockSequenceEntry (g : Grammar) : Step := do
  let (token, g) ← g.peek
  match token.kind with
  | .blockEntry =>
    let (next, g) ← g.drop.peek
    match next.kind with
    | .blockEntry | .blockEnd => (g.expecting .blockSequenceEntry).omitted token.stop
    | _ => (g.enter .blockSequenceEntry).node true false
  | .blockEnd => g.leaveCollection.drop.emit .sequenceEnd token.start
  | _ => throw (.during .blockSequence g.openedAt .noEntryIndicator token.start)

private def indentlessEntry (g : Grammar) : Step := do
  let (token, g) ← g.peek
  match token.kind with
  | .blockEntry =>
    let (next, g) ← g.drop.peek
    match next.kind with
    | .blockEntry | .key | .value | .blockEnd => (g.expecting .indentlessEntry).omitted token.stop
    | _ => (g.enter .indentlessEntry).node true false
  | _ => g.leave.emit .sequenceEnd token.start

private def blockMappingKey (g : Grammar) : Step := do
  let (token, g) ← g.peek
  match token.kind with
  | .key =>
    let (next, g) ← g.drop.peek
    match next.kind with
    | .key | .value | .blockEnd => (g.expecting .blockMappingValue).omitted token.stop
    | _ => (g.enter .blockMappingValue).node true true
  | .blockEnd => g.leaveCollection.drop.emit .mappingEnd token.start
  | _ => throw (.during .blockMapping g.openedAt .noKey token.start)

private def blockMappingValue (g : Grammar) : Step := do
  let (token, g) ← g.peek
  match token.kind with
  | .value =>
    let (next, g) ← g.drop.peek
    match next.kind with
    | .key | .value | .blockEnd => (g.expecting .blockMappingKey).omitted token.stop
    | _ => (g.enter .blockMappingKey).node true true
  | _ => (g.expecting .blockMappingKey).omitted token.start

/-- The token of an entry of a flow collection behind the comma in front of it, if it is not the first. -/
private def pastComma (g : Grammar) (first : Bool) (reading : Reading) (problem : Problem) (close : TokenKind) :
    Except Fault (Token × Grammar) := do
  let (token, g) ← g.peek
  if first || token.kind = close then return (token, g)
  if token.kind ≠ .flowEntry then throw (.during reading g.openedAt problem token.start)
  g.drop.peek

private def flowSequenceEntry (g : Grammar) (first : Bool) : Step := do
  let (token, g) ← g.pastComma first .flowSequence .noCommaOrBracket .flowSequenceEnd
  match token.kind with
  | .flowSequenceEnd => g.leaveCollection.drop.emit .sequenceEnd token.start
  | .key => (g.drop.expecting .flowPairKey).emit (.mappingStart none none) token.start
  | _ => (g.enter .flowSequenceEntry).node false false

/-- The key of a single pair in a flow sequence; where it is left out, so is the token behind it. -/
private def flowPairKey (g : Grammar) : Step := do
  let (token, g) ← g.peek
  match token.kind with
  | .value | .flowEntry | .flowSequenceEnd => (g.drop.expecting .flowPairValue).omitted token.stop
  | _ => (g.enter .flowPairValue).node false false

private def flowPairValue (g : Grammar) : Step := do
  let (token, g) ← g.peek
  match token.kind with
  | .value =>
    let (next, g) ← g.drop.peek
    match next.kind with
    | .flowEntry | .flowSequenceEnd => (g.expecting .flowPairEnd).omitted next.start
    | _ => (g.enter .flowPairEnd).node false false
  | _ => (g.expecting .flowPairEnd).omitted token.start

private def flowPairEnd (g : Grammar) : Step := do
  let (token, g) ← g.peek
  (g.expecting .flowSequenceEntry).emit .mappingEnd token.start

private def flowMappingKey (g : Grammar) (first : Bool) : Step := do
  let (token, g) ← g.pastComma first .flowMapping .noCommaOrBrace .flowMappingEnd
  match token.kind with
  | .flowMappingEnd => g.leaveCollection.drop.emit .mappingEnd token.start
  | .key =>
    let (next, g) ← g.drop.peek
    match next.kind with
    | .value | .flowEntry | .flowMappingEnd => (g.expecting .flowMappingValue).omitted next.start
    | _ => (g.enter .flowMappingValue).node false false
  | _ => (g.enter .flowMappingNoValue).node false false

private def flowMappingValue (g : Grammar) : Step := do
  let (token, g) ← g.peek
  match token.kind with
  | .value =>
    let (next, g) ← g.drop.peek
    match next.kind with
    | .flowEntry | .flowMappingEnd => (g.expecting .flowMappingKey).omitted next.start
    | _ => (g.enter .flowMappingKey).node false false
  | _ => (g.expecting .flowMappingKey).omitted token.start

/-- Reads the next event, and where it begins. -/
def next (g : Grammar) : Except Fault ((Event × Mark) × Grammar) :=
  match g.expected with
  | .firstDocument => g.documentStart true
  | .document => g.documentStart false
  | .documentContent => g.documentContent
  | .documentEnd => g.documentEnd
  | .blockNode => g.node true false
  | .blockSequenceFirst => do (← g.opening).blockSequenceEntry
  | .blockSequenceEntry => g.blockSequenceEntry
  | .indentlessEntry => g.indentlessEntry
  | .blockMappingFirst => do (← g.opening).blockMappingKey
  | .blockMappingKey => g.blockMappingKey
  | .blockMappingValue => g.blockMappingValue
  | .flowSequenceFirst => do (← g.opening).flowSequenceEntry true
  | .flowSequenceEntry => g.flowSequenceEntry false
  | .flowPairKey => g.flowPairKey
  | .flowPairValue => g.flowPairValue
  | .flowPairEnd => g.flowPairEnd
  | .flowMappingFirst => do (← g.opening).flowMappingKey true
  | .flowMappingKey => g.flowMappingKey false
  | .flowMappingValue => g.flowMappingValue
  | .flowMappingNoValue => do
    let (token, g) ← g.peek
    (g.expecting .flowMappingKey).omitted token.start
  | .nothing => g.emit .streamEnd g.lexer.mark

end Grammar

end YamlSchema.Yaml
