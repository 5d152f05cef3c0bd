import ToolRelay.Yaml.Token

/-!
# Nodes of a YAML document

A document is a tree of scalars, sequences and mappings. A node may have an anchor, and a reference
stands for the node with its anchor; anchors are told apart by numbers here. `Document.ofTokens?`
reads the tokens of a text that holds one document or none.
-/

set_option autoImplicit false

namespace ToolRelay.Yaml

/-- A node. -/
inductive Node
  | reference (anchor : Nat)
  | scalar (anchor : Option Nat) (tag : Option (List Char)) (plain : Bool) (text : List Char)
  | sequence (anchor : Option Nat) (tag : Option (List Char)) (items : List Node)
  | mapping (anchor : Option Nat) (tag : Option (List Char)) (entries : List (Node × Node))
  deriving Repr

namespace Node

/-- The node where nothing is written. -/
def empty : Node :=
  .scalar none none true []

/-- The handles of tags with what each stands for. -/
abbrev Handles := List (List Char × List Char)

/-- What is left to read, and the numbers of the anchors read so far. -/
structure Feed where
  tokens : List Token
  anchors : List (List Char × Nat)
  deriving Repr

namespace Feed

/-- The feed with other tokens to come. -/
def movedTo (f : Feed) (tokens : List Token) : Feed :=
  { f with tokens := tokens }

/-- The number of a new anchor and the feed that knows it. A name that is used again takes the place
of its earlier use, and then the next new anchor gets the same number as this one. -/
def define (f : Feed) (name : List Char) : Nat × Feed :=
  let number := f.anchors.length
  (number, { f with anchors := (name, number) :: f.anchors.filter (·.1 != name) })

end Feed

/-- The anchor and the tag that stand before a node, in either order, and what comes behind. -/
def properties : List Token → Option (List Char) × Option Tag × List Token
  | .anchor a :: .tag t :: r => (some a, some t, r)
  | .tag t :: .anchor a :: r => (some a, some t, r)
  | .anchor a :: r => (some a, none, r)
  | .tag t :: r => (none, some t, r)
  | r => (none, none, r)

/-- The tag in full; its handle must be known. -/
def tagText? (handles : Handles) : Option Tag → Option (Option (List Char))
  | none => some none
  | some t =>
    if t.handle.isEmpty then some (some t.suffix)
    else (handles.lookup t.handle).map fun stem => some (stem ++ t.suffix)

mutual

/-- Reads a node. In a block it may be a block collection, and where it belongs to an entry of a
block mapping also a sequence that is not indented. The fuel bounds the number of tokens. -/
def read? (handles : Handles) (block unindented : Bool) :
    (fuel : Nat) → Feed → Option (Node × Feed)
  | 0, _ => none
  | fuel + 1, f =>
    match f.tokens with
    | .reference name :: r => (f.anchors.lookup name).map fun n => (.reference n, f.movedTo r)
    | tokens =>
      let (anchor, tag, tokens) := properties tokens
      match tagText? handles tag with
      | none => none
      | some tag =>
        let (number, f) := match anchor with
          | some name => let (n, f) := f.define name; (some n, f)
          | none => (none, f)
        match tokens with
        | .scalar plain text :: r => some (.scalar number tag plain text, f.movedTo r)
        | .flowSequenceStart :: r =>
          (flowItems? handles true fuel (f.movedTo r)).map fun (l, f) => (.sequence number tag l, f)
        | .flowMappingStart :: r =>
          (flowEntries? handles true fuel (f.movedTo r)).map fun (l, f) => (.mapping number tag l, f)
        | tokens =>
          match block, unindented, tokens with
          | _, true, .blockEntry :: _ =>
            (plainItems? handles fuel (f.movedTo tokens)).map fun (l, f) => (.sequence number tag l, f)
          | true, _, .blockSequenceStart :: r =>
            (items? handles fuel (f.movedTo r)).map fun (l, f) => (.sequence number tag l, f)
          | true, _, .blockMappingStart :: r =>
            (entries? handles fuel (f.movedTo r)).map fun (l, f) => (.mapping number tag l, f)
          | _, _, _ =>
            if anchor.isSome || tag.isSome then some (.scalar number tag true [], f.movedTo tokens)
            else none

/-- Reads a node, unless one of the given tokens shows that there is none. -/
def readUnless? (handles : Handles) (block unindented : Bool) (stop : List Token) :
    (fuel : Nat) → Feed → Option (Node × Feed)
  | 0, _ => none
  | fuel + 1, f =>
    if f.tokens.head?.any (stop.contains ·) then some (.empty, f)
    else read? handles block unindented fuel f

/-- Reads the items of a block sequence. -/
def items? (handles : Handles) : (fuel : Nat) → Feed → Option (List Node × Feed)
  | 0, _ => none
  | fuel + 1, f =>
    match f.tokens with
    | .blockEntry :: r =>
      (readUnless? handles true false [.blockEntry, .blockEnd] fuel (f.movedTo r)).bind fun (v, f) =>
        (items? handles fuel f).map fun (l, f) => (v :: l, f)
    | .blockEnd :: r => some ([], f.movedTo r)
    | _ => none

/-- Reads the items of a sequence that is not indented. -/
def plainItems? (handles : Handles) : (fuel : Nat) → Feed → Option (List Node × Feed)
  | 0, _ => none
  | fuel + 1, f =>
    match f.tokens with
    | .blockEntry :: r =>
      (readUnless? handles true false [.blockEntry, .key, .value, .blockEnd] fuel
        (f.movedTo r)).bind fun (v, f) =>
          (plainItems? handles fuel f).map fun (l, f) => (v :: l, f)
    | _ => some ([], f)

/-- Reads the value of an entry of a block mapping. -/
def entryValue? (handles : Handles) : (fuel : Nat) → Feed → Option (Node × Feed)
  | 0, _ => none
  | fuel + 1, f =>
    match f.tokens with
    | .value :: r => readUnless? handles true true [.key, .value, .blockEnd] fuel (f.movedTo r)
    | _ => some (.empty, f)

/-- Reads the entries of a block mapping. -/
def entries? (handles : Handles) : (fuel : Nat) → Feed → Option (List (Node × Node) × Feed)
  | 0, _ => none
  | fuel + 1, f =>
    match f.tokens with
    | .key :: r =>
      (readUnless? handles true true [.key, .value, .blockEnd] fuel (f.movedTo r)).bind fun (k, f) =>
        (entryValue? handles fuel f).bind fun (v, f) =>
          (entries? handles fuel f).map fun (l, f) => ((k, v) :: l, f)
    | .blockEnd :: r => some ([], f.movedTo r)
    | _ => none

/-- Reads the items of a flow sequence; all but the first stand behind a comma. -/
def flowItems? (handles : Handles) (first : Bool) :
    (fuel : Nat) → Feed → Option (List Node × Feed)
  | 0, _ => none
  | fuel + 1, f =>
    match first, f.tokens with
    | _, .flowSequenceEnd :: r => some ([], f.movedTo r)
    | true, tokens => flowItem? handles fuel (f.movedTo tokens)
    | false, .flowEntry :: r => flowItem? handles fuel (f.movedTo r)
    | _, _ => none

/-- Reads an item of a flow sequence and those behind it. A key stands for a mapping of one
entry. -/
def flowItem? (handles : Handles) : (fuel : Nat) → Feed → Option (List Node × Feed)
  | 0, _ => none
  | fuel + 1, f =>
    match f.tokens with
    | .flowSequenceEnd :: r => some ([], f.movedTo r)
    | .key :: r =>
      (loneKey? handles fuel (f.movedTo r)).bind fun (k, f) =>
        (flowValue? handles [.flowEntry, .flowSequenceEnd] fuel f).bind fun (v, f) =>
          (flowItems? handles false fuel f).map fun (l, f) => (.mapping none none [(k, v)] :: l, f)
    | _ =>
      (read? handles false false fuel f).bind fun (v, f) =>
        (flowItems? handles false fuel f).map fun (l, f) => (v :: l, f)

/-- Reads the key of a mapping of one entry. Where there is none, the token that shows it is read as
well. -/
def loneKey? (handles : Handles) : (fuel : Nat) → Feed → Option (Node × Feed)
  | 0, _ => none
  | fuel + 1, f =>
    match f.tokens with
    | .value :: r => some (.empty, f.movedTo r)
    | .flowEntry :: r => some (.empty, f.movedTo r)
    | .flowSequenceEnd :: r => some (.empty, f.movedTo r)
    | _ => read? handles false false fuel f

/-- Reads the value behind the key of an entry in a flow collection. -/
def flowValue? (handles : Handles) (stop : List Token) :
    (fuel : Nat) → Feed → Option (Node × Feed)
  | 0, _ => none
  | fuel + 1, f =>
    match f.tokens with
    | .value :: r => readUnless? handles false false stop fuel (f.movedTo r)
    | _ => some (.empty, f)

/-- Reads the entries of a flow mapping; all but the first stand behind a comma. -/
def flowEntries? (handles : Handles) (first : Bool) :
    (fuel : Nat) → Feed → Option (List (Node × Node) × Feed)
  | 0, _ => none
  | fuel + 1, f =>
    match first, f.tokens with
    | _, .flowMappingEnd :: r => some ([], f.movedTo r)
    | true, tokens => flowMember? handles fuel (f.movedTo tokens)
    | false, .flowEntry :: r => flowMember? handles fuel (f.movedTo r)
    | _, _ => none

/-- Reads an entry of a flow mapping and those behind it. Without a sign of a key there is no value
either. -/
def flowMember? (handles : Handles) :
    (fuel : Nat) → Feed → Option (List (Node × Node) × Feed)
  | 0, _ => none
  | fuel + 1, f =>
    match f.tokens with
    | .flowMappingEnd :: r => some ([], f.movedTo r)
    | .key :: r =>
      (readUnless? handles false false [.value, .flowEntry, .flowMappingEnd] fuel
        (f.movedTo r)).bind fun (k, f) =>
          (flowValue? handles [.flowEntry, .flowMappingEnd] fuel f).bind fun (v, f) =>
            (flowEntries? handles false fuel f).map fun (l, f) => ((k, v) :: l, f)
    | _ =>
      (read? handles false false fuel f).bind fun (k, f) =>
        (flowEntries? handles false fuel f).map fun (l, f) => ((k, .empty) :: l, f)

end

end Node

namespace Document

/-- The handles that are known without a directive. -/
def usualHandles : Node.Handles :=
  [(['!'], ['!']),
    (['!', '!'], ['t', 'a', 'g', ':', 'y', 'a', 'm', 'l', '.', 'o', 'r', 'g', ',', '2', '0', '0', '2', ':'])]

/-- The directives at the top of a document, and the tokens behind them. -/
def directives : List Token → List Directive × List Token
  | .directive d :: r => let (ds, rest) := directives r; (d :: ds, rest)
  | l => ([], l)

/-- Whether the directives can be followed: at most one of a version, which must be 1.1 or 1.2, and
at most one for each handle. -/
def consistent : List Directive → Bool
  | [] => true
  | .version major minor :: r =>
    major == 1 && (minor == 1 || minor == 2) && consistent r &&
      r.all fun | .version .. => false | .tag .. => true
  | .tag handle _ :: r =>
    consistent r && r.all fun | .version .. => true | .tag h _ => h != handle

/-- The handles that directives define. -/
def handlesOf (ds : List Directive) : Node.Handles :=
  ds.filterMap fun
    | .tag handle stem => some (handle, stem)
    | .version .. => none

/-- Whether a token shows that the document has no node of its own. -/
def isOuter : Token → Bool
  | .directive _ => true
  | .documentStart => true
  | .documentEnd => true
  | _ => false

/-- Reads the node of a document that begins with directives or its mark. -/
def explicit? (fuel : Nat) (tokens : List Token) : Option (Node × List Token) :=
  match directives tokens with
  | (ds, .documentStart :: rest) =>
    if consistent ds then
      if rest.head?.all isOuter then some (.empty, rest)
      else (Node.read? (handlesOf ds ++ usualHandles) true false fuel ⟨rest, []⟩).map
        fun (n, f) => (n, f.tokens)
    else none
  | _ => none

/-- Reads the first document, if there is one. -/
def first? (fuel : Nat) (tokens : List Token) : Option (Option Node × List Token) :=
  match tokens with
  | [] => some (none, [])
  | .directive _ :: _ => (explicit? fuel tokens).map fun (n, rest) => (some n, rest)
  | .documentStart :: _ => (explicit? fuel tokens).map fun (n, rest) => (some n, rest)
  | _ => (Node.read? usualHandles true false fuel ⟨tokens, []⟩).map
    fun (n, f) => (some n, f.tokens)

/-- The node of the only document of a text, if there is a document. No token is met by more than
four steps that read none. -/
def ofTokens? (tokens : List Token) : Option (Option Node) :=
  (first? (4 * tokens.length + 4) tokens).bind fun (n, rest) =>
    if rest.all (· == .documentEnd) then some n else none

end Document
end ToolRelay.Yaml
