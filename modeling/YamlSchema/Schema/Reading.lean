import YamlSchema.Schema.Node

/-!
# Reading schemas

A schema is read from its tree once, in a setting.  A keyword whose value is a list or a mapping of schemas becomes one
rule for each of them.  Keywords that act together become one rule where the later one stands: `additionalProperties`
that closes or types a mapping takes `properties` and `patternProperties` with it, and `if` takes `then` and `else`.
Which keywords there are, and what some of them mean, is up to the draft.
-/

namespace YamlSchema.Schema

/-- A tree read in the three ways that a keyword may mean it: as a schema, as a list of schemas, and as a mapping of
names to schemas. -/
structure Reading where
  tree : Tree
  node : Node
  elements : List Node
  entries : List (String × Node)

namespace Reading

/-- What a keyword finds beside it. -/
abbrev Siblings := List (String × Reading)

def tree? (all : Siblings) (keyword : String) : Option Tree := (OrderedMap.get? all keyword).map Reading.tree

def node? (all : Siblings) (keyword : String) : Option Node := (OrderedMap.get? all keyword).map Reading.node

def refusal (value : Tree) (expected : List TypeName) : Refusal := .violation value (.wrongType expected)

def refuse (value : Tree) (expected : List TypeName) : List Rule := [.refused (refusal value expected)]

def notNegative (value : Tree) : Refusal := .violation value (.belowMinimum (.int 0))

/-- A double that is whole as a natural number of 64 bits; what is below zero is zero. -/
def wholeDouble? : Tree → Option Nat
  | .number (.real x) => x.toInt?.map fun i => min i.toNat 18446744073709551615
  | _ => none

/-- A limit as a natural number.  Where doubles may be limits, a negative integer is taken for one of them. -/
def limit (draft : Draft) (value : Tree) : Except Refusal Nat :=
  match value with
  | .number (.int i) => if draft.takesWholeDoubles || 0 ≤ i then .ok i.toNat else .error (notNegative value)
  | _ => match draft.takesWholeDoubles, wholeDouble? value with
    | true, some n => .ok n
    | _, _ => .error (refusal value [.integer])

def counted (s : Setting) (keyword : String) (value : Tree) (a : Nat → Assertion) : List Rule :=
  match limit s.draft value with
  | .ok n => [.assertion keyword (a n)]
  | .error why => [.refused why]

def numeric (keyword : String) (value : Tree) (a : Number → Assertion) : List Rule :=
  match value with
  | .number n => [.assertion keyword (a n)]
  | _ => refuse value [.number]

def texts? (items : List Tree) : Except Tree (List String) :=
  items.mapM fun t => match t with
    | .string s => .ok s
    | _ => .error t

/-- A list of property names. -/
def named (value : Tree) (rule : List String → List Rule) : List Rule :=
  match value with
  | .array items => match texts? items with
    | .ok names => rule names
    | .error t => refuse t [.string]
  | _ => refuse value [.array]

/-- One type name, or several. -/
def typed (s : Setting) (value : Tree) : List Rule :=
  let rule := fun (types : List TypeName) => [Rule.assertion "type" (.type types s.draft.takesWholeDoubles)]
  let one := fun (name : String) => match TypeName.ofName? name with
    | some t => rule [t]
    | none => [.refused .unexpectedType]
  match value with
  | .string name => one name
  | .array [.string name] => one name
  | .array items =>
    let read := items.mapM fun t => match t with
      | .string name => match TypeName.ofName? name with
        | some n => Except.ok n
        | none => .error (Refusal.violation t (.notInEnum (TypeName.all.map fun (n : TypeName) => Tree.string n.text)))
      | _ => .error (refusal t [.string])
    match read with
    | .ok types => rule types
    | .error r => [.refused r]
  | _ => refuse value [.array, .string]

/-- Whether a value of `additionalProperties` takes the other keywords for members with it. -/
def closes : Tree → Bool
  | .bool false => true
  | .object _ => true
  | _ => false

def isClosed (all : Siblings) : Bool := (tree? all "additionalProperties").any closes

/-- The patterns and schemas of a mapping of patterns to schemas.  The schema of a broken pattern is what is refused. -/
def patterned (r : Reading) : List (Except Refusal (Pattern × Node)) :=
  (r.entries.zip (membersOf r.tree)).map fun (e, m) => match Pattern.read? e.1 with
    | some p => .ok (p, e.2)
    | none => .error (.violation m.2 (.wrongFormat "regex"))

def patternRules (entries : List (Except Refusal (Pattern × Node))) : List Rule :=
  entries.map fun e => match e with
    | .ok (p, node) => .patternProperty p node
    | .error why => .refused why

/-- Whether it can matter which parts of an instance a schema evaluates. -/
def tellsEvaluated (s : Setting) : Bool := s.draft.isSince .draft2019

/-- The rule of an `additionalProperties`, which takes the named and the patterned members with it. -/
def closing (s : Setting) (all : Siblings) (r : Reading) : List Rule :=
  let properties := OrderedMap.get? all "properties"
  let patterns := OrderedMap.get? all "patternProperties"
  let isObject := fun (r : Option Reading) => r.all fun r => r.tree.object?.isSome
  if !isObject patterns then refuse r.tree [.object]
  else match r.tree with
    | .bool true => if tellsEvaluated s then [.members [] [] (some r.node)] else []
    | _ =>
      if !isObject properties then [.refused .unexpectedType]
      else
        let others := match r.tree with
          | .bool false => none
          | _ => some r.node
        let entries := (patterns.map patterned).getD []
        match properties, patterns, others, entries.mapM id with
        | none, none, none, _ => [.assertion "additionalProperties" .noMembers]
        | _, _, _, .ok patterned => [.members ((properties.map Reading.entries).getD []) patterned others]
        | _, _, _, .error _ => patternRules entries

def content (all : Siblings) (mediaType : String) : List Rule :=
  if mediaType ≠ "application/json" then []
  else match tree? all "contentEncoding" with
    | none => [.assertion "contentMediaType" .mediaType]
    | some (.string encoding) =>
      if encoding = "base64" then
        [.assertion "contentEncoding" .encoding, .assertion "contentMediaType" .encodedMediaType]
      else []
    | some t => refuse t [.string]

/-! ### Limits and tests of members and items -/

/-- A maximum or a minimum, which in Draft 4 a flag beside it makes exclusive. -/
def bound (s : Setting) (all : Siblings) (keyword exclusive : String) (value : Tree)
    (a exclusively : Number → Assertion) : List Rule :=
  if s.draft = .draft4 && tree? all exclusive = some (.bool true) then numeric exclusive value exclusively
  else numeric keyword value a

/-- A limit for `contains` beside it. -/
def containsLimit (all : Siblings) (keyword : String) : Except Refusal (Option Nat) :=
  match tree? all keyword with
  | none => .ok none
  | some (.number (.int i)) =>
    if 0 ≤ i then .ok (some i.toNat) else .error (notNegative (.number (.int i)))
  | some t => match wholeDouble? t with
    | some n => .ok (some n)
    | none => .error (refusal t [.integer])

def containing (s : Setting) (all : Siblings) (r : Reading) : List Rule :=
  if !tellsEvaluated s then [.contains r.node]
  else match containsLimit all "minContains", containsLimit all "maxContains" with
    | .error why, _ | _, .error why => [.refused why]
    | .ok low, .ok high => [.containsWithin low high (s.draft = .draft2020) r.node]

/-- The rules of `items`, which begins behind the items that stand in `prefixItems`. -/
def itemRules (s : Setting) (all : Siblings) (r : Reading) : List Rule :=
  let others := match tree? all "prefixItems" with
    | some (.array first) => [Rule.itemsFrom "items" first.length r.node]
    | _ => [.items r.node]
  match r.tree with
  | .array _ => r.elements.mapIdx fun i n => .itemAt "items" i n
  | .object _ | .bool false => others
  | .bool true => if tellsEvaluated s then others else []
  | _ => []

def additionalItemRules (s : Setting) (all : Siblings) (keyword : String) (r : Reading) : List Rule :=
  match tree? all "items" with
  | some (.array items) => match r.tree with
    | .object _ => [.itemsFrom keyword items.length r.node]
    | .bool false => [.assertion keyword (.noItemsFrom items.length)]
    | .bool true => if tellsEvaluated s then [.itemsFrom keyword items.length r.node] else []
    | _ => []
  | some (.bool false) => [.assertion keyword .nothing]
  | none | some (.bool true) | some (.object _) => []
  | _ => refuse r.tree [.array, .boolean, .object]

/-- The rules of `dependencies`: names of members, or a schema, for each name. -/
def dependencyRules (keyword : String) (r : Reading) : List Rule :=
  match r.tree with
  | .object members => members.flatMap fun e => match e.2 with
    | .array _ => named e.2 fun names => [.assertion keyword (.requiredWith e.1 names)]
    | _ => ((r.entries.find? fun n => n.1 = e.1).map fun n => [Rule.dependency keyword n.1 n.2]).getD []
  | _ => refuse r.tree [.object]

def requiredRules (keyword : String) (r : Reading) : List Rule :=
  match r.tree with
  | .object members => members.flatMap fun e => match e.2 with
    | .array names =>
      if hasRepeats names then [.refused (.violation e.2 .notUnique)]
      else named e.2 fun names => [.assertion keyword (.requiredWith e.1 names)]
    | _ => refuse e.2 [.array]
  | _ => refuse r.tree [.object]

def formatRules (s : Setting) (keyword : String) (r : Reading) : List Rule :=
  if !s.draft.checksFormats then []
  else match r.tree with
    | .string name => ((Format.ofName? s.draft name).map fun f => Rule.assertion keyword (.format f)).toList
    | _ => refuse r.tree [.string]

def referenceRules (s : Setting) (keyword : String) (r : Reading) : List Rule :=
  match r.tree with
  | .string target => match Link.ofReference s target with
    | .ok link => [.reference keyword link]
    | .error fault => [.refused (.badReference target fault)]
  | t => refuse t [.string]

/-- The rules of one keyword. -/
def keywordRules (s : Setting) (all : Siblings) (keyword : String) (r : Reading) : List Rule :=
  let v := r.tree
  match keyword with
  | "$ref" | "$dynamicRef" => referenceRules s keyword r
  | "$recursiveRef" => [.reference keyword (.recursion s)]
  | "type" => typed s v
  | "enum" => match v with
    | .array options => [.assertion "enum" (.enum options)]
    | _ => refuse v [.array]
  | "const" => [.assertion "const" (.const v)]
  | "multipleOf" => numeric keyword v .multipleOf
  | "maximum" => bound s all keyword "exclusiveMaximum" v .maximum .exclusiveMaximum
  | "exclusiveMaximum" => numeric keyword v .exclusiveMaximum
  | "minimum" => bound s all keyword "exclusiveMinimum" v .minimum .exclusiveMinimum
  | "exclusiveMinimum" => numeric keyword v .exclusiveMinimum
  | "maxLength" => counted s keyword v .maxLength
  | "minLength" => counted s keyword v .minLength
  | "maxItems" => counted s keyword v .maxItems
  | "minItems" => counted s keyword v .minItems
  | "maxProperties" => counted s keyword v .maxProperties
  | "minProperties" => counted s keyword v .minProperties
  | "pattern" => match v with
    | .string text => match Pattern.read? text with
      | some p => [.assertion keyword (.pattern p)]
      | none => [.refused (.violation v (.wrongFormat "regex"))]
    | _ => refuse v [.string]
  | "uniqueItems" => if v = .bool true then [.assertion keyword .uniqueItems] else []
  | "required" => named v fun names => [.assertion keyword (.required names)]
  | "dependentRequired" => requiredRules keyword r
  | "format" => formatRules s keyword r
  | "contentEncoding" =>
    if (OrderedMap.get? all "contentMediaType").isSome then []
    else match v with
      | .string "base64" => [.assertion keyword .encoding]
      | .string _ => []
      | _ => refuse v [.string]
  | "contentMediaType" => match v with
    | .string mediaType => content all mediaType
    | _ => refuse v [.string]
  | "properties" =>
    if isClosed all then []
    else match v with
      | .object _ => r.entries.map fun e => .property e.1 e.2
      | _ => refuse v [.object]
  | "patternProperties" =>
    if isClosed all then []
    else match v with
      | .object _ => patternRules (patterned r)
      | _ => refuse v [.object]
  | "additionalProperties" => closing s all r
  | "prefixItems" => match v with
    | .array _ => r.elements.mapIdx fun i n => .itemAt keyword i n
    | _ => refuse v [.array]
  | "items" => itemRules s all r
  | "additionalItems" => additionalItemRules s all keyword r
  | "contains" => containing s all r
  | "propertyNames" => match v with
    | .object _ => [.names r.node]
    | .bool false => [.assertion keyword .noNames]
    | _ => []
  | "dependencies" => dependencyRules keyword r
  | "dependentSchemas" => match v with
    | .object _ => r.entries.map fun e => .dependency keyword e.1 e.2
    | _ => refuse v [.object]
  | "allOf" => match v with
    | .array _ => r.elements.mapIdx fun i n => .allOf i n
    | _ => refuse v [.array]
  | "anyOf" => match v with
    | .array _ => [.anyOf r.elements]
    | _ => refuse v [.array]
  | "oneOf" => match v with
    | .array _ => [.oneOf r.elements]
    | _ => refuse v [.array]
  | "not" => [.not r.node v]
  | "if" =>
    let yes := node? all "then"
    let no := node? all "else"
    if yes.isNone && no.isNone && !tellsEvaluated s then [] else [.conditional r.node yes no]
  | _ => []

/-- The rules of a keyword that a setting has. -/
def knownRules (s : Setting) (all : Siblings) (e : String × Reading) : List Rule :=
  if s.hasKeyword e.1 then keywordRules s all e.1 e.2 else []

def isUnevaluated (keyword : String) : Bool :=
  keyword = "unevaluatedProperties" || keyword = "unevaluatedItems"

/-- The node of a mapping: a reference alone if that hides what stands beside it, or else the rules of its keywords. -/
def assemble (s : Setting) (all : Siblings) : Node :=
  match OrderedMap.get? all "$ref", s.draft.hidesSiblings with
  | some r, true => .rules (referenceRules s "$ref" r)
  | _, _ => .rules (all.flatMap fun e =>
    if isUnevaluated e.1 && s.hasKeyword e.1 then
      let beside := (all.filter fun e => !isUnevaluated e.1).flatMap (knownRules s all)
      if e.1 = "unevaluatedItems" then [.unevaluatedItems beside e.2.node] else [.unevaluatedMembers beside e.2.node]
    else knownRules s all e)

end Reading

mutual

/-- Reads a tree whose setting is known. -/
def read (s : Setting) : Tree → Reading
  | .object members =>
    let all := readMembers s members
    ⟨.object members, Reading.assemble s all, [], all.map fun e => (e.1, e.2.node)⟩
  | .array items => ⟨.array items, .refused (.violation (.array items) (.wrongType [.boolean, .object])),
      (readItems s items).map fun r => r.node, []⟩
  | .bool b => ⟨.bool b, .always b, [], []⟩
  | t => ⟨t, .refused (.violation t (.wrongType [.boolean, .object])), [], []⟩

/-- Reads the values of the members of a mapping. -/
def readMembers (s : Setting) : List (String × Tree) → List (String × Reading)
  | [] => []
  | (key, t) :: rest => (key, read (s.entering t) t) :: readMembers s rest

def readItems (s : Setting) : List Tree → List Reading
  | [] => []
  | t :: rest => read (s.entering t) t :: readItems s rest

end

end YamlSchema.Schema
