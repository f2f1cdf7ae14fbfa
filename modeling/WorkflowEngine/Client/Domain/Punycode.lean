/-!
# Punycode

A label with characters outside ASCII is spelled in ASCII: first the characters that are
ASCII, then a hyphen if there were any, then the places of the others in rising order of
their numbers.  A place is told by its distance from the one before it, in digits to base
36 of which the lowest come first.  A digit below a threshold ends a distance, and the
thresholds follow a bias that adapts to the distances seen so far.
-/

namespace WorkflowEngine.Domain.Punycode

/-! ## Digits -/

/-- The digit of a value below 36: letters, then decimal digits. -/
def digitChar (value : Nat) : Char :=
  if value < 26 then Char.ofNat ('a'.toNat + value) else Char.ofNat ('0'.toNat + (value - 26))

/-- The value of a digit; capitals count as small letters. -/
def digitValue? (c : Char) : Option Nat :=
  if c.isDigit then some (c.toNat - '0'.toNat + 26)
  else if c.isAlpha then some (c.toLower.toNat - 'a'.toNat)
  else none

/-- The threshold of the digit at a place that counts up from 36 in steps of 36. -/
def threshold (place bias : Nat) : Nat :=
  if place ≤ bias then 1 else if bias + 26 ≤ place then 26 else place - bias

theorem threshold_pos (place bias : Nat) : 1 ≤ threshold place bias := by
  unfold threshold
  split
  · omega
  · split <;> omega

/-- The bias for a distance that has been made small, together with what was gained by
that. -/
def biasOf (gained distance : Nat) : Nat :=
  if 455 < distance then biasOf (gained + 36) (distance / 35)
  else gained + 36 * distance / (distance + 38)
termination_by distance

/-- The bias behind a distance.  The first distance of a label counts less, and all count
by the number of characters that have been placed. -/
def adapt (distance placed : Nat) (isFirst : Bool) : Nat :=
  let share := if isFirst then distance / 700 else distance / 2
  biasOf 0 (share + share / placed)

/-! ## Spelling -/

/-- The digits of a distance from a place on. -/
def distanceChars (bias place distance : Nat) : List Char :=
  let t := threshold place bias
  if distance < t then [digitChar distance]
  else
    digitChar (t + (distance - t) % (36 - t)) ::
      distanceChars bias (place + 36) ((distance - t) / (36 - t))
termination_by distance
decreasing_by
  have := threshold_pos place bias
  have := Nat.div_le_self (distance - threshold place bias) (36 - threshold place bias)
  omega

/-- A label that is being spelled. -/
structure Spelling where
  /-- The digits so far, the last first. -/
  written : List Char
  /-- The distance from the last place that was told. -/
  distance : Nat
  bias : Nat
  /-- How many characters have been placed. -/
  placed : Nat
  /-- Whether no distance has been told yet. -/
  isFirst : Bool

/-- Pass a character of the label while the places of a number are told. -/
def Spelling.pass (number : Nat) (s : Spelling) (n : Nat) : Spelling :=
  if n < number then { s with distance := s.distance + 1 }
  else if n = number then
    { written := (distanceChars s.bias 36 s.distance).reverse ++ s.written
      distance := 0
      bias := adapt s.distance (s.placed + 1) s.isFirst
      placed := s.placed + 1
      isFirst := false }
  else s

/-- Tell the places of numbers in rising order, beginning at a least number. -/
def Spelling.tell (label : List Nat) (least : Nat) (s : Spelling) : List Nat → Spelling
  | [] => s
  | number :: rest =>
    let ahead := { s with distance := s.distance + (number - least) * (s.placed + 1) }
    let told := label.foldl (Spelling.pass number) ahead
    Spelling.tell label (number + 1) { told with distance := told.distance + 1 } rest

/-- Whether a number is that of a character of ASCII. -/
def isBasic (n : Nat) : Bool := n < 0x80

/-- Numbers in rising order, each once. -/
def rising (numbers : List Nat) : List Nat := (numbers.mergeSort (· ≤ ·)).eraseReps

/-- The bias at the start. -/
def firstBias : Nat := 72

/-- The spelling of a label. -/
def encode (label : List Nat) : List Char :=
  let basic := label.filter isBasic
  let start : Spelling := ⟨[], 0, firstBias, basic.length, true⟩
  let told := start.tell label 0x80 (rising (label.filter (!isBasic ·)))
  basic.map Char.ofNat ++ (if basic.isEmpty then [] else ['-']) ++ told.written.reverse

/-! ## Reading -/

/-- Take a distance off the front: what it adds to a sum at a weight, and what is left. -/
def takeDistance (bias place weight sum : Nat) : List Char → Option (Nat × List Char)
  | [] => none
  | c :: rest => do
    let value ← digitValue? c
    let t := threshold place bias
    if value < t then return (sum + value * weight, rest)
    else takeDistance bias (place + 36) (weight * (36 - t)) (sum + value * weight) rest

theorem takeDistance_length {bias : Nat} {cs : List Char} {place weight sum : Nat}
    {r : Nat × List Char} (h : takeDistance bias place weight sum cs = some r) :
    r.2.length < cs.length := by
  induction cs generalizing place weight sum with
  | nil => simp [takeDistance] at h
  | cons c rest ih =>
    simp only [takeDistance, Option.bind_eq_bind, Option.bind_eq_some_iff] at h
    obtain ⟨value, -, h⟩ := h
    split at h
    · cases h; simp
    · have := ih h
      simp only [List.length_cons]
      omega

/-- A label that is being read. -/
structure Reading where
  /-- The characters that have been placed. -/
  label : Array Nat
  /-- The number of which places are told. -/
  number : Nat
  /-- The place behind the last one that was told. -/
  place : Nat
  bias : Nat
  isFirst : Bool

/-- The greatest number of a character. -/
def greatest : Nat := 0x10FFFF

/-- Place a character at a distance from the last one. -/
def Reading.put (r : Reading) (distance : Nat) : Option Reading :=
  let sum := r.place + distance
  let count := r.label.size + 1
  let number := r.number + sum / count
  if greatest < number then none
  else
    some
      { label := r.label.insertIdxIfInBounds (sum % count) number
        number := number
        place := sum % count + 1
        bias := adapt distance count r.isFirst
        isFirst := false }

/-- Place characters at the distances that are told. -/
def Reading.follow (r : Reading) (cs : List Char) : Option (List Nat) :=
  if cs.isEmpty then some r.label.toList
  else
    match h : takeDistance r.bias 36 1 0 cs with
    | none => none
    | some (distance, rest) =>
      have : rest.length < cs.length := takeDistance_length h
      (r.put distance).bind fun next => next.follow rest
termination_by cs.length

/-- The label that is spelled by some characters of ASCII. -/
def decode? (cs : List Char) : Option (List Nat) :=
  let places := (cs.reverse.takeWhile (· != '-')).reverse
  let basic := (cs.take (cs.length - places.length)).dropLast
  Reading.follow ⟨(basic.map Char.toNat).toArray, 0x80, 0, firstBias, true⟩ places

end WorkflowEngine.Domain.Punycode
