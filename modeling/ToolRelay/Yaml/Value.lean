import ToolRelay.Decimal.Binary64
import ToolRelay.Yaml.Node

/-!
# Values of a YAML document

What the nodes of a document mean. A plain scalar may be a null, a truth value or a number; any
other scalar is a text, unless its tag says otherwise. References are followed. A tag that the
document makes up for itself stays with its value. No mapping may have a key twice.
-/

set_option autoImplicit false

namespace ToolRelay.Yaml

/-- A value. -/
inductive Value
  | null
  | bool (value : Bool)
  | int (value : Int)
  | float (value : Binary64)
  | str (text : List Char)
  | seq (items : List Value)
  | map (entries : List (Value × Value))
  | tagged (tag : List Char) (value : Value)
  deriving Repr

namespace Value

/-- The largest magnitude of a number of 64 bits, and of one of 128 bits. -/
def fits (bits : Nat) (n : Int) : Bool :=
  -(Nat.pow 2 (bits - 1) : Int) ≤ n && n < Nat.pow 2 bits

/-- The digits of a number without its sign, and whether the sign is a minus. -/
def unsigned : List Char → Bool × List Char
  | '+' :: r => (false, r)
  | '-' :: r => (true, r)
  | l => (false, l)

/-- Whether a text is made of digits of which the first is a needless zero. Such a text is no
number. -/
def hasLeadingZero (l : List Char) : Bool :=
  match (unsigned l).2 with
  | '0' :: c :: r => (c :: r).all Decimal.isDigit
  | _ => false

/-- The value of digits to a base; at least one digit. -/
def digitsIn? (base : Nat) (l : List Char) : Option Nat :=
  if l.isEmpty then none
  else l.foldlM (fun n c => (Url.hexValue? c).bind fun d =>
    if d < base then some (n * base + d) else none) 0

/-- The size of an integer: hexadecimal, octal or binary behind a sign for it, or decimal. -/
def size? : List Char → Option Nat
  | '0' :: 'x' :: r => digitsIn? 16 r
  | '0' :: 'o' :: r => digitsIn? 8 r
  | '0' :: 'b' :: r => digitsIn? 2 r
  | l => digitsIn? 10 l

/-- The integer that a text denotes. -/
def integer? (l : List Char) : Option Int :=
  if hasLeadingZero l then none
  else
    let (negative, digits) := unsigned l
    (size? digits).map fun n => if negative then -(n : Int) else n

/-- An infinity. -/
def infinite (negative : Bool) : Binary64 :=
  .ofMagnitude negative Binary64.infinity

/-- What is no number among the floats. -/
def notANumber : Binary64 :=
  .ofMagnitude false (Binary64.infinity + 0x8000000000000)

/-- The words for floats that are not finite. -/
def floatWords : List (String × Binary64) :=
  [(".inf", infinite false), (".Inf", infinite false), (".INF", infinite false),
    ("+.inf", infinite false), ("+.Inf", infinite false), ("+.INF", infinite false),
    ("-.inf", infinite true), ("-.Inf", infinite true), ("-.INF", infinite true),
    (".nan", notANumber), (".NaN", notANumber), (".NAN", notANumber)]

/-- The float that a text denotes. -/
def float? (l : List Char) : Option Binary64 :=
  match floatWords.lookup (String.ofList l) with
  | some x => some x
  | none =>
    match l with
    | '+' :: '+' :: _ => none
    | '+' :: '-' :: _ => none
    | '+' :: r => Binary64.read? r
    | l => Binary64.read? l

/-- Whether a text stands for null. -/
def isNull (l : List Char) : Bool :=
  String.ofList l ∈ ["null", "Null", "NULL", "~"]

/-- The truth value that a text denotes. -/
def bool? (l : List Char) : Option Bool :=
  if String.ofList l ∈ ["true", "True", "TRUE"] then some true
  else if String.ofList l ∈ ["false", "False", "FALSE"] then some false
  else none

/-- An integer of 64 bits. There is no value for one that takes up to 128 bits. -/
def ofInteger? (n : Int) : Option Value :=
  if fits 64 n then some (.int n) else none

/-- The value of a plain scalar. An integer of more than 128 bits is read as a float. -/
def ofPlain? (l : List Char) : Option Value :=
  if l.isEmpty || isNull l then some .null
  else match bool? l with
    | some b => some (.bool b)
    | none =>
      match (integer? l).filter (fits 128) with
      | some n => ofInteger? n
      | none =>
        match if hasLeadingZero l then none else float? l with
        | some x => some (.float x)
        | none => some (.str l)

/-- The value of a scalar without a tag of its own. -/
def ofText? (plain : Bool) (l : List Char) : Option Value :=
  if plain then ofPlain? l else some (.str l)

/-- The value of a scalar whose tag names a type that is known; a text for any other tag. -/
def ofTagged? (tag : List Char) (l : List Char) : Option Value :=
  let tag := String.ofList tag
  if tag = "tag:yaml.org,2002:bool" then (bool? l).map .bool
  else if tag = "tag:yaml.org,2002:int" then (integer? l).bind ofInteger?
  else if tag = "tag:yaml.org,2002:float" then (float? l).map .float
  else if tag = "tag:yaml.org,2002:null" then if isNull l then some .null else none
  else some (.str l)

/-- The name of a tag that the document makes up for itself. -/
def localTag? : Option (List Char) → Option (List Char)
  | some ['!'] => some ['!']
  | some ('!' :: name) => some name
  | _ => none

/-- The value of a scalar. -/
def ofScalar? (tag : Option (List Char)) (plain : Bool) (l : List Char) : Option Value :=
  match localTag? tag, tag with
  | some name, _ => (ofText? plain l).map (.tagged name)
  | none, some tag => ofTagged? tag l
  | none, none => ofText? plain l

/-- The value with the tag that the document makes up for it, if it does. -/
def withTag (tag : Option (List Char)) (v : Value) : Value :=
  match localTag? tag with
  | some name => .tagged name v
  | none => v

/-- The name of a tag without an exclamation mark before it. -/
def bareTag : List Char → List Char
  | '!' :: c :: r => c :: r
  | l => l

/-- Whether two floats are the same number, or both none. -/
def sameFloat (x y : Binary64) : Bool :=
  x == y || (x.magnitude == 0 && y.magnitude == 0) ||
    (Binary64.infinity < x.magnitude && Binary64.infinity < y.magnitude)

mutual

/-- Whether two values are the same key. The order of a mapping's entries does not count. -/
def same : Value → Value → Bool
  | .null, .null => true
  | .bool a, .bool b => a == b
  | .int a, .int b => a == b
  | .float a, .float b => sameFloat a b
  | .str a, .str b => a == b
  | .seq a, .seq b => sameItems a b
  | .map a, .map b => a.length == b.length && sameEntries a b
  | .tagged s a, .tagged t b => bareTag s == bareTag t && same a b
  | _, _ => false

/-- Whether two lists hold the same values. -/
def sameItems : List Value → List Value → Bool
  | [], [] => true
  | a :: r, b :: s => same a b && sameItems r s
  | _, _ => false

/-- Whether the entries of one list are all found in the other. -/
def sameEntries : List (Value × Value) → List (Value × Value) → Bool
  | [], _ => true
  | (k, v) :: r, l => (l.any fun e => same k e.1 && same v e.2) && sameEntries r l

end

/-- The entries in their order, if no key is there twice. -/
def distinct? : List (Value × Value) → Option (List (Value × Value))
  | [] => some []
  | (k, v) :: r =>
    if r.any fun e => same k e.1 then none else (distinct? r).map ((k, v) :: ·)

end Value

namespace Node

mutual

/-- The nodes with anchors, in the order of the text. -/
def anchored : Node → List (Nat × Node)
  | .reference _ => []
  | .scalar a tag plain text => (a.map fun n => (n, .scalar a tag plain text)).toList
  | .sequence a tag items => (a.map fun n => (n, .sequence a tag items)).toList ++ anchoredItems items
  | .mapping a tag entries =>
    (a.map fun n => (n, .mapping a tag entries)).toList ++ anchoredEntries entries

/-- The nodes with anchors among some items. -/
def anchoredItems : List Node → List (Nat × Node)
  | [] => []
  | v :: r => anchored v ++ anchoredItems r

/-- The nodes with anchors among some entries. -/
def anchoredEntries : List (Node × Node) → List (Nat × Node)
  | [] => []
  | (k, v) :: r => anchored k ++ anchored v ++ anchoredEntries r

end

mutual

/-- How many marks a node makes: one for a scalar or a reference, and one at either end of a
collection. -/
def size : Node → Nat
  | .sequence _ _ items => sizeItems items + 2
  | .mapping _ _ entries => sizeEntries entries + 2
  | _ => 1

/-- How many marks some items make. -/
def sizeItems : List Node → Nat
  | [] => 0
  | v :: r => size v + sizeItems r

/-- How many marks some entries make. -/
def sizeEntries : List (Node × Node) → Nat
  | [] => 0
  | (k, v) :: r => size k + size v + sizeEntries r

end

/-- A document: its node, and the nodes with anchors. -/
structure Context where
  anchored : List (Nat × Node)
  /-- How many references may be followed. -/
  maxFollowed : Nat
  deriving Repr

/-- How many references may be followed for each mark of a document. -/
def followedPerMark : Nat := 100

/-- How deep sequences and mappings may be nested. -/
def maxDepth : Nat := 128

/-- A computation that counts the references followed. -/
abbrev Counting := StateT Nat Option

/-- The node that a reference stands for, which is the last with its anchor; any other node stands
for itself. -/
def follow (c : Context) : Node → Counting Node
  | .reference anchor => do
    modify (· + 1)
    if c.maxFollowed < (← get) then failure
    else c.anchored.reverse.lookup anchor
  | n => pure n

/-- The value of a node nested at most `depth` deep. -/
def value (c : Context) : (depth : Nat) → Node → Counting Value
  | 0, n => do
    match ← follow c n with
    | .scalar _ tag plain text => Value.ofScalar? tag plain text
    | _ => failure
  | depth + 1, n => do
    match ← follow c n with
    | .reference _ => failure
    | .scalar _ tag plain text => Value.ofScalar? tag plain text
    | .sequence _ tag items => do
      return .withTag tag (.seq (← items.mapM (value c depth)))
    | .mapping _ tag entries => do
      let entries ← entries.mapM fun (k, v) => return (← value c depth k, ← value c depth v)
      return .withTag tag (.map (← Value.distinct? entries))

/-- The value of a document's node. -/
def toValue? (n : Node) : Option Value :=
  ((value ⟨n.anchored, followedPerMark * n.size⟩ maxDepth n).run 0).map (·.1)

end Node
end ToolRelay.Yaml
