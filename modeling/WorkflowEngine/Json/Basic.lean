import WorkflowEngine.Number.Binary64
import WorkflowEngine.Text.CodePoint

/-!
# JSON values

A JSON value with its exact content: integers of any size stay apart from
binary64 numbers, and an object is the list of its members in order.  Texts and the
names of members may hold surrogates on their own.  Equality is equality of that
content.
-/

namespace WorkflowEngine

/-- A JSON value. -/
inductive Json where
  | null
  | bool (b : Bool)
  | int (n : Int)
  | float (x : Binary64)
  | str (t : Text)
  | arr (items : List Json)
  | obj (members : List (Text × Json))
deriving Inhabited

/-- The members of an object, in order. -/
abbrev Members := List (Text × Json)

namespace Json

mutual

/-- Equality of values is decidable. -/
def decEq : (a b : Json) → Decidable (a = b)
  | .null, .null => isTrue rfl
  | .bool a, .bool b => if h : a = b then isTrue (h ▸ rfl) else isFalse (by simp [h])
  | .int a, .int b => if h : a = b then isTrue (h ▸ rfl) else isFalse (by simp [h])
  | .float a, .float b => if h : a = b then isTrue (h ▸ rfl) else isFalse (by simp [h])
  | .str a, .str b => if h : a = b then isTrue (h ▸ rfl) else isFalse (by simp [h])
  | .arr a, .arr b =>
    match decEqItems a b with
    | isTrue h => isTrue (h ▸ rfl)
    | isFalse h => isFalse (by simp [h])
  | .obj a, .obj b =>
    match decEqMembers a b with
    | isTrue h => isTrue (h ▸ rfl)
    | isFalse h => isFalse (by simp [h])
  | .null, .bool _ | .null, .int _ | .null, .float _ | .null, .str _ | .null, .arr _
  | .null, .obj _ | .bool _, .null | .bool _, .int _ | .bool _, .float _ | .bool _, .str _
  | .bool _, .arr _ | .bool _, .obj _ | .int _, .null | .int _, .bool _ | .int _, .float _
  | .int _, .str _ | .int _, .arr _ | .int _, .obj _ | .float _, .null | .float _, .bool _
  | .float _, .int _ | .float _, .str _ | .float _, .arr _ | .float _, .obj _ | .str _, .null
  | .str _, .bool _ | .str _, .int _ | .str _, .float _ | .str _, .arr _ | .str _, .obj _
  | .arr _, .null | .arr _, .bool _ | .arr _, .int _ | .arr _, .float _ | .arr _, .str _
  | .arr _, .obj _ | .obj _, .null | .obj _, .bool _ | .obj _, .int _ | .obj _, .float _
  | .obj _, .str _ | .obj _, .arr _ => isFalse (by simp)

/-- Equality of item lists is decidable. -/
def decEqItems : (a b : List Json) → Decidable (a = b)
  | [], [] => isTrue rfl
  | [], _ :: _ | _ :: _, [] => isFalse (by simp)
  | a :: as, b :: bs =>
    match decEq a b, decEqItems as bs with
    | isTrue h, isTrue hs => isTrue (h ▸ hs ▸ rfl)
    | isFalse h, _ => isFalse (by simp [h])
    | _, isFalse hs => isFalse (by simp [hs])

/-- Equality of member lists is decidable. -/
def decEqMembers : (a b : List (Text × Json)) → Decidable (a = b)
  | [], [] => isTrue rfl
  | [], _ :: _ | _ :: _, [] => isFalse (by simp)
  | (k, a) :: as, (l, b) :: bs =>
    if hk : k = l then
      match decEq a b, decEqMembers as bs with
      | isTrue h, isTrue hs => isTrue (hk ▸ h ▸ hs ▸ rfl)
      | isFalse h, _ => isFalse (by simp [h])
      | _, isFalse hs => isFalse (by simp [hs])
    else isFalse (by simp [hk])

end

instance : DecidableEq Json := decEq

end Json

namespace Members

/-- The value of the first member with a key. -/
def get? (o : Members) (key : Text) : Option Json := o.lookup key

/-- Whether a key is present. -/
def has (o : Members) (key : Text) : Bool := o.any (·.1 == key)

/-- Set the value of a key: in place if the key is present, at the end if not. -/
def put : Members → Text → Json → Members
  | [], key, value => [(key, value)]
  | (k, v) :: rest, key, value =>
    if k = key then (key, value) :: rest else (k, v) :: put rest key value

/-- The object read from a sequence of pairs: the last value of a key wins and
takes the place of the first. -/
def ofPairs (pairs : List (Text × Json)) : Members :=
  pairs.foldl (fun o p => put o p.1 p.2) []

/-- Lay one object on top of another: its values win key by key, and new keys follow. -/
def merge (base top : Members) : Members :=
  top.foldl (fun o p => put o p.1 p.2) base

end Members

namespace Json

/-- The value at a key, and null where there is none. -/
def field (j : Json) (key : Text) : Json :=
  match j with
  | .obj o => (Members.get? o key).getD .null
  | _ => .null

/-- The text of a string value, and the empty text for other values. -/
def text : Json → Text
  | .str t => t
  | _ => ""

/-- The text of a string value as a string, and the empty string for other values. -/
def string (j : Json) : String := j.text.lossy

/-- A truth value, and false for other values. -/
def truth : Json → Bool
  | .bool b => b
  | _ => false

/-- An integer value, and zero for other values. -/
def integer : Json → Int
  | .int n => n
  | _ => 0

/-- The text of a string value, and none for other values. -/
def text? : Json → Option Text
  | .str t => some t
  | _ => none

/-- The items of an array, and none for other values. -/
def items : Json → List Json
  | .arr xs => xs
  | _ => []

/-- The members of an object, and none for other values. -/
def members : Json → Members
  | .obj o => o
  | _ => []

mutual

/-- Whether the parts of a value that have no parts pass one test, and the names of members
another. -/
def passes (leaf : Json → Bool) (name : Text → Bool) : Json → Bool
  | .arr xs => itemsPass leaf name xs
  | .obj ms => membersPass leaf name ms
  | j => leaf j

/-- Whether some items pass. -/
def itemsPass (leaf : Json → Bool) (name : Text → Bool) : List Json → Bool
  | [] => true
  | x :: xs => x.passes leaf name && itemsPass leaf name xs

/-- Whether some members pass. -/
def membersPass (leaf : Json → Bool) (name : Text → Bool) : List (Text × Json) → Bool
  | [] => true
  | (k, v) :: ms => name k && v.passes leaf name && membersPass leaf name ms

end

/-- The most digits that an integer may have where it is read or shown in decimal. -/
def digitLimit : Nat := 4300

/-- Whether all numbers in a value are finite. -/
def isFinite : Json → Bool :=
  passes (fun | .float x => x.isFinite | _ => true) fun _ => true

/-- Whether all texts in a value are strings, the names of members included. -/
def isProper : Json → Bool := passes (·.text.isProper) Text.isProper

/-- A natural number as a value. -/
def nat (n : Nat) : Json := .int n

/-- Some strings as an array. -/
def strings (ss : List String) : Json := .arr (ss.map fun s : String => .str s)

@[simp] theorem strings_inj {ss ts : List String} : strings ss = strings ts ↔ ss = ts := by
  have hinjective : ∀ s t : String, Json.str s = Json.str t → s = t :=
    fun _ _ h => Text.proper.inj (Json.str.inj h)
  rw [strings, strings, Json.arr.injEq, List.map_inj_right fun s t => hinjective s t]

/-- A string or null. -/
def ofString? : Option String → Json
  | some s => .str s
  | none => .null

end Json

end WorkflowEngine
