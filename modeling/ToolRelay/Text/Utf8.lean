/-!
# UTF-8

Octets are read one character at a time. Where the octets are no UTF-8, the longest stretch that
begins like a character but cannot be completed counts as one *gap*. `chunks` lists characters and
gaps in order; the strict reading `decode?` wants no gap, and the lenient one, `decodeLossy`,
writes U+FFFD for each.
-/

set_option autoImplicit false

namespace ToolRelay.Text.Utf8

/-- What the first octet of a character announces. -/
inductive Lead
  /-- The octet is a whole character. -/
  | single
  /-- Further octets follow, the first of them between two bounds; `bits` are those of the lead. -/
  | more (count : Nat) (low high : UInt8) (bits : Nat)
  /-- The octet begins no character. -/
  | none
  deriving DecidableEq, Repr

/-- Overlong forms, surrogates and numbers above 10FFFF are ruled out by the bounds on the second
octet. -/
def Lead.of (b : UInt8) : Lead :=
  if b < 0x80 then .single
  else if b < 0xC2 then .none
  else if b < 0xE0 then .more 1 0x80 0xBF (b.toNat - 0xC0)
  else if b = 0xE0 then .more 2 0xA0 0xBF (b.toNat - 0xE0)
  else if b = 0xED then .more 2 0x80 0x9F (b.toNat - 0xE0)
  else if b < 0xF0 then .more 2 0x80 0xBF (b.toNat - 0xE0)
  else if b = 0xF0 then .more 3 0x90 0xBF (b.toNat - 0xF0)
  else if b < 0xF4 then .more 3 0x80 0xBF (b.toNat - 0xF0)
  else if b = 0xF4 then .more 3 0x80 0x8F (b.toNat - 0xF0)
  else .none

/-- A character under way: `pending` octets are still owed, the next of them between `low` and
`high`, and `value` holds the bits so far. Nothing is pending between characters. -/
structure State where
  pending : Nat
  low : UInt8
  high : UInt8
  value : Nat
  deriving DecidableEq, Repr

/-- Between two characters. -/
def State.between : State := ⟨0, 0, 0, 0⟩

/-- What an octet gives that is read between two characters. -/
def State.start (b : UInt8) : List (Option Char) × State :=
  match Lead.of b with
  | .single => ([some (Char.ofNat b.toNat)], .between)
  | .more count low high bits => ([], ⟨count, low, high, bits⟩)
  | .none => ([none], .between)

/-- What an octet completes, and the state after it. An octet that cannot continue the character
under way closes a gap and is read again as a first octet. -/
def State.step (s : State) (b : UInt8) : List (Option Char) × State :=
  if s.pending = 0 then State.start b
  else if s.low ≤ b ∧ b ≤ s.high then
    let value := s.value * 64 + (b.toNat - 0x80)
    if s.pending = 1 then ([some (Char.ofNat value)], .between)
    else ([], ⟨s.pending - 1, 0x80, 0xBF, value⟩)
  else
    let (out, after) := State.start b
    (none :: out, after)

/-- The characters and gaps of the octets read from a state on; `none` is a gap. -/
def State.run (s : State) : List UInt8 → List (Option Char)
  | [] => if s.pending = 0 then [] else [none]
  | b :: rest => (s.step b).1 ++ (s.step b).2.run rest

/-- The characters and gaps of a sequence of octets. -/
def chunks (octets : List UInt8) : List (Option Char) :=
  State.between.run octets

/-- The characters, or nothing if the octets are no UTF-8. -/
def decode? (octets : List UInt8) : Option (List Char) :=
  (chunks octets).mapM id

/-- The characters, with the replacement character for every gap. -/
def decodeLossy (octets : List UInt8) : List Char :=
  (chunks octets).map (·.getD '\uFFFD')

/-- The octets of one character. -/
def encodeChar (c : Char) : List UInt8 :=
  let n := c.toNat
  let tail (k : Nat) : UInt8 := (0x80 + n / k % 64).toUInt8
  if n < 0x80 then [n.toUInt8]
  else if n < 0x800 then [(0xC0 + n / 64).toUInt8, tail 1]
  else if n < 0x10000 then [(0xE0 + n / 4096).toUInt8, tail 64, tail 1]
  else [(0xF0 + n / 262144).toUInt8, tail 4096, tail 64, tail 1]

/-- The octets of a text. -/
def encode (l : List Char) : List UInt8 :=
  l.flatMap encodeChar

end ToolRelay.Text.Utf8
