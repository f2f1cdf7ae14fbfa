import WorkflowEngine.Text.CodePoint

/-!
# Encodings of byte strings

A byte string that holds a JSON text tells its encoding by a byte order mark or,
without one, by where its first zero bytes stand.  `Encoding.decode` turns the
bytes into code points or answers with the offset of the first byte that does not
belong to a code point.  Bytes may spell surrogates on their own.
-/

namespace WorkflowEngine

/-! ## UTF-8 -/

namespace Utf8

/-- A code point of which some bytes have been read. -/
structure Partial where
  /-- Offset of its first byte. -/
  start : Nat
  /-- How many bytes are still owed. -/
  owed : Nat
  /-- The number spelled so far. -/
  code : Nat
  /-- The least byte that may come next. -/
  least : Nat
  /-- The greatest byte that may come next. -/
  greatest : Nat

/-- What a first byte says: a whole character, the start of a longer one, or
neither. -/
inductive Lead where
  | whole (c : Char)
  | opens (p : Partial)
  | none

/-- Classify the first byte of a character. -/
def lead (offset : Nat) (b : Nat) : Lead :=
  if b < 0x80 then .whole (Char.ofNat b)
  else if b < 0xC2 then .none
  else if b < 0xE0 then .opens ⟨offset, 1, b - 0xC0, 0x80, 0xBF⟩
  else if b = 0xE0 then .opens ⟨offset, 2, 0, 0xA0, 0xBF⟩
  else if b < 0xF0 then .opens ⟨offset, 2, b - 0xE0, 0x80, 0xBF⟩
  else if b = 0xF0 then .opens ⟨offset, 3, 0, 0x90, 0xBF⟩
  else if b < 0xF4 then .opens ⟨offset, 3, b - 0xF0, 0x80, 0xBF⟩
  else if b = 0xF4 then .opens ⟨offset, 3, 4, 0x80, 0x8F⟩
  else .none

/-- Whether a byte may come next. -/
def Partial.accepts (p : Partial) (b : Nat) : Bool := p.least ≤ b && b ≤ p.greatest

/-- Take one more byte: the whole code point, or the longer part. -/
def Partial.take (p : Partial) (b : Nat) : CodePoint ⊕ Partial :=
  let code := p.code * 64 + (b - 0x80)
  if p.owed ≤ 1 then .inl (.ofNat code)
  else .inr ⟨p.start, p.owed - 1, code, 0x80, 0xBF⟩

/-- Decode bytes from an offset on, possibly inside a character.  The answer to
bytes that are not UTF-8 is the offset of the character that fails. -/
def decodeFrom : Nat → Option Partial → List UInt8 → Except Nat (List CodePoint)
  | _, none, [] => .ok []
  | _, some p, [] => .error p.start
  | offset, none, b :: bs =>
    match lead offset b.toNat with
    | .whole c => (decodeFrom (offset + 1) none bs).map (.char c :: ·)
    | .opens p => decodeFrom (offset + 1) (some p) bs
    | .none => .error offset
  | offset, some p, b :: bs =>
    if p.accepts b.toNat then
      match p.take b.toNat with
      | .inl c => (decodeFrom (offset + 1) none bs).map (c :: ·)
      | .inr q => decodeFrom (offset + 1) (some q) bs
    else .error p.start

/-- Decode bytes. -/
def decode (bs : List UInt8) : Except Nat (List CodePoint) := decodeFrom 0 none bs

/-- Whether the next byte makes the character a surrogate. -/
def Partial.isSurrogateWith (p : Partial) (b : Nat) : Bool :=
  p.owed == 2 && p.code == 0xD && 0xA0 ≤ b

/-- Decode bytes that may hold faults: the bytes of a broken character become one
replacement character, and the byte that broke it is read again.  A surrogate is a
fault here. -/
def decodeLossy : Option Partial → List UInt8 → List Char
  | none, [] => []
  | some _, [] => [CodePoint.replacement]
  | state, b :: bs =>
    let fresh := fun (before : List Char) => match lead 0 b.toNat with
      | .whole c => before ++ c :: decodeLossy none bs
      | .opens p => before ++ decodeLossy (some p) bs
      | .none => before ++ CodePoint.replacement :: decodeLossy none bs
    match state with
    | none => fresh []
    | some p =>
      if p.accepts b.toNat && !p.isSurrogateWith b.toNat then
        match p.take b.toNat with
        | .inl c => c.shown :: decodeLossy none bs
        | .inr q => decodeLossy (some q) bs
      else fresh [CodePoint.replacement]

/-- The bytes of a text. -/
def encode (cs : List Char) : List UInt8 := cs.flatMap String.utf8EncodeChar

end Utf8

/-! ## UTF-16 and UTF-32 -/

/-- The order of the bytes in a unit. -/
inductive ByteOrder where
  | little
  | big
deriving DecidableEq

namespace ByteOrder

/-- The unit spelled by two bytes. -/
def unit16 (order : ByteOrder) (a b : UInt8) : Nat :=
  match order with
  | .little => a.toNat + 0x100 * b.toNat
  | .big => b.toNat + 0x100 * a.toNat

/-- The number spelled by four bytes. -/
def unit32 (order : ByteOrder) (a b c d : UInt8) : Nat :=
  match order with
  | .little => unit16 .little a b + 0x10000 * unit16 .little c d
  | .big => unit16 .big c d + 0x10000 * unit16 .big a b

end ByteOrder

namespace Utf16

/-- Join the units of surrogate pairs. -/
def joinPairs : List Nat → List CodePoint
  | [] => []
  | [u] => [.ofNat u]
  | u :: v :: us =>
    if 0xD800 ≤ u ∧ u < 0xDC00 ∧ 0xDC00 ≤ v ∧ v < 0xE000 then
      .ofNat (0x10000 + (u - 0xD800) * 0x400 + (v - 0xDC00)) :: joinPairs us
    else .ofNat u :: joinPairs (v :: us)

/-- The units of a byte string, or the offset of a last byte without a partner. -/
def units (order : ByteOrder) : Nat → List UInt8 → Except Nat (List Nat)
  | _, [] => .ok []
  | offset, [_] => .error offset
  | offset, a :: b :: bs => (units order (offset + 2) bs).map (order.unit16 a b :: ·)

/-- Decode bytes that start at an offset. -/
def decodeFrom (order : ByteOrder) (offset : Nat) (bs : List UInt8) :
    Except Nat (List CodePoint) :=
  (units order offset bs).map joinPairs

end Utf16

namespace Utf32

/-- Decode bytes that start at an offset. -/
def decodeFrom (order : ByteOrder) : Nat → List UInt8 → Except Nat (List CodePoint)
  | _, [] => .ok []
  | offset, a :: b :: c :: d :: bs =>
    let n := order.unit32 a b c d
    if n < 0x110000 then (decodeFrom order (offset + 4) bs).map (.ofNat n :: ·)
    else .error offset
  | offset, _ :: _ => .error offset

end Utf32

/-! ## Detection -/

/-- How a byte string spells characters, and whether a byte order mark comes
first. -/
inductive Encoding where
  | utf8 (marked : Bool)
  | utf16 (order : ByteOrder) (marked : Bool)
  | utf32 (order : ByteOrder) (marked : Bool)
deriving DecidableEq

namespace Encoding

/-- The encoding told by a byte order mark. -/
def ofMark? : List UInt8 → Option Encoding
  | 0x00 :: 0x00 :: 0xFE :: 0xFF :: _ => some (.utf32 .big true)
  | 0xFF :: 0xFE :: 0x00 :: 0x00 :: _ => some (.utf32 .little true)
  | 0xFE :: 0xFF :: _ => some (.utf16 .big true)
  | 0xFF :: 0xFE :: _ => some (.utf16 .little true)
  | 0xEF :: 0xBB :: 0xBF :: _ => some (.utf8 true)
  | _ => none

/-- The encoding told by the zero bytes at the front of an unmarked text, which
begins with an ASCII character. -/
def ofZeros : List UInt8 → Encoding
  | [a, b] =>
    if a = 0 then .utf16 .big false else if b = 0 then .utf16 .little false else .utf8 false
  | a :: b :: c :: d :: _ =>
    if a = 0 then (if b = 0 then .utf32 .big false else .utf16 .big false)
    else if b = 0 then
      (if c = 0 ∧ d = 0 then .utf32 .little false else .utf16 .little false)
    else .utf8 false
  | _ => .utf8 false

/-- The encoding of a byte string. -/
def detect (bs : List UInt8) : Encoding := (ofMark? bs).getD (ofZeros bs)

def name : Encoding → String
  | .utf8 _ => "utf-8"
  | .utf16 .little _ => "utf-16-le"
  | .utf16 .big _ => "utf-16-be"
  | .utf32 .little _ => "utf-32-le"
  | .utf32 .big _ => "utf-32-be"

/-- A byte that belongs to no code point: its offset, the bytes the offset counts
in, and the encoding. -/
structure Fault where
  offset : Nat
  bytes : List UInt8
  encoding : Encoding

/-- Decode a byte string in an encoding; a byte order mark is left out of the
text.  Offsets count from the first byte, except that a mark of three bytes is not
counted. -/
def decode (e : Encoding) (bs : List UInt8) : Except Fault (List CodePoint) :=
  let faultIn := fun (bytes : List UInt8) (offset : Nat) => (⟨offset, bytes, e⟩ : Fault)
  match e with
  | .utf8 marked =>
    let body := if marked then bs.drop 3 else bs
    (Utf8.decode body).mapError (faultIn body)
  | .utf16 order marked =>
    let size := if marked then 2 else 0
    (Utf16.decodeFrom order size (bs.drop size)).mapError (faultIn bs)
  | .utf32 order marked =>
    let size := if marked then 4 else 0
    (Utf32.decodeFrom order size (bs.drop size)).mapError (faultIn bs)

end Encoding

end WorkflowEngine
