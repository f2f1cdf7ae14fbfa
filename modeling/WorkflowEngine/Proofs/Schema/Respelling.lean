import Mathlib.Data.List.Forall2
import WorkflowEngine.Proofs.Json.Content
import WorkflowEngine.Proofs.Schema.Canonical

/-!
# Fields in their other spelling

An object is respelled by writing some of its fields under their snake case names, where
those are still free.  A model reads an object and the respelled object alike: both are
accepted with the same canonical form, or both are refused with the same faults at the
same places.  The places are found by position, so their paths have the keys of either
object.
-/

namespace WorkflowEngine.Schema

/-! ## Places -/

/-- Two paths that lead to one place in two values: through items and members at the same
positions.  The keys of a member are the same or two spellings of one name. -/
inductive SamePlace (spelled : Text → Text → Prop) :
    Json → Json → List PathStep → List PathStep → Prop where
  | here (v w : Json) : SamePlace spelled v w [] []
  | same (v : Json) (path : List PathStep) : SamePlace spelled v v path path
  | alternative (name : String) {v w : Json} {p q : List PathStep} (h : SamePlace spelled v w p q) :
    SamePlace spelled v w (.alternative name :: p) (.alternative name :: q)
  | item {xs ys : List Json} {i : Nat} {x y : Json} {p q : List PathStep}
    (hx : xs[i]? = some x) (hy : ys[i]? = some y) (h : SamePlace spelled x y p q) :
    SamePlace spelled (.arr xs) (.arr ys) (.index i :: p) (.index i :: q)
  | member {o r : Members} {i : Nat} {k l : Text} {x y : Json} {p q : List PathStep}
    (hkey : k = l ∨ spelled k l) (hx : o[i]? = some (k, x)) (hy : r[i]? = some (l, y))
    (h : SamePlace spelled x y p q) :
    SamePlace spelled (.obj o) (.obj r) (.key k :: p) (.key l :: q)
  | absent {o r : Members} {k : Text} (ho : o.get? k = none) (hr : r.get? k = none) :
    SamePlace spelled (.obj o) (.obj r) [.key k] [.key k]

/-- The same fault at the same place of two values. -/
structure Issue.Alongside (spelled : Text → Text → Prop) (v w : Json) (i j : Issue) :
    Prop where
  fault : i.fault = j.fault
  place : SamePlace spelled v w i.path j.path

/-- Checks of two values that end alike: with the same result, or with the same faults at
the same places. -/
inductive Checked.Alike {α : Type} (spelled : Text → Text → Prop) (v w : Json) :
    Checked α → Checked α → Prop where
  | ok (x : α) : Alike spelled v w (.ok x) (.ok x)
  | error {issues others : List Issue}
    (h : List.Forall₂ (Issue.Alongside spelled v w) issues others) :
    Alike spelled v w (.error issues) (.error others)

namespace Checked

variable {spelled : Text → Text → Prop} {α β : Type} {v w x y : Json} {c d : Checked α}

theorem Alike.refl (v : Json) (c : Checked α) : Alike spelled v v c c := by
  cases c with
  | ok x => exact .ok x
  | error issues => exact .error (List.forall₂_same.mpr fun i _ => ⟨rfl, .same v i.path⟩)

theorem Alike.cases (h : Alike spelled v w c d) :
    (∃ x, c = .ok x ∧ d = .ok x) ∨
      ∃ issues others, c = .error issues ∧ d = .error others ∧
        List.Forall₂ (Issue.Alongside spelled v w) issues others := by
  cases h with
  | ok x => exact Or.inl ⟨x, rfl, rfl⟩
  | error h => exact Or.inr ⟨_, _, rfl, rfl, h⟩

/-- A fault of the values themselves. -/
theorem Alike.fault (v w : Json) (f : Fault) :
    Alike spelled v w (Checked.fault f : Checked α) (Checked.fault f) :=
  .error (.cons ⟨rfl, .here v w⟩ .nil)

theorem Alike.map (f : α → β) (h : Alike spelled v w c d) :
    Alike spelled v w (c.map f) (d.map f) := by
  cases h with
  | ok x => exact .ok (f x)
  | error h => exact .error h

/-- Checks of parts that end alike do so from one level further out. -/
theorem Alike.under {s t : PathStep} (h : Alike spelled x y c d)
    (hplace : ∀ p q, SamePlace spelled x y p q → SamePlace spelled v w (s :: p) (t :: q)) :
    Alike spelled v w (Checked.under s c) (Checked.under t d) := by
  cases h with
  | ok x => exact .ok x
  | error h =>
    refine .error ?_
    rw [List.forall₂_map_left_iff, List.forall₂_map_right_iff]
    exact h.imp fun i j hij => ⟨hij.fault, hplace _ _ hij.place⟩

theorem Alike.gather {cs ds : List (Checked α)} (h : List.Forall₂ (Alike spelled v w) cs ds) :
    Alike spelled v w (Checked.gather cs) (Checked.gather ds) := by
  induction h with
  | nil => exact .ok []
  | @cons c d cs ds hcd _ ih =>
    simp only [Checked.gather]
    generalize Checked.gather cs = all at ih
    generalize Checked.gather ds = others at ih
    rcases hcd with x | hissues
    · rcases ih with xs | hmore
      · exact .ok (x :: xs)
      · exact .error hmore
    · rcases ih with xs | hmore
      · exact .error hissues
      · exact .error (List.rel_append hissues hmore)

end Checked

/-! ## Shapes -/

namespace Shape

/-- A shape that checks two values alike. -/
def ReadsAlike (spelled : Text → Text → Prop) (s : Shape) (v w : Json) : Prop :=
  Checked.Alike spelled v w (s.check v) (s.check w)

variable {spelled : Text → Text → Prop}

theorem ReadsAlike.refl (s : Shape) (v : Json) : s.ReadsAlike spelled v v := Checked.Alike.refl v _

/-- Items at the same positions, with their positions. -/
theorem forall₂_zipIdx {r : Json → Json → Prop} {xs ys : List Json} (h : List.Forall₂ r xs ys) :
    List.Forall₂ (fun a b => a.2 = b.2 ∧ xs[a.2]? = some a.1 ∧ ys[b.2]? = some b.1 ∧ r a.1 b.1)
      xs.zipIdx ys.zipIdx := by
  rw [List.forall₂_iff_get] at h ⊢
  obtain ⟨hlength, hget⟩ := h
  refine ⟨by simpa using hlength, fun i hx hy => ?_⟩
  rw [List.length_zipIdx] at hx hy
  simpa [hx, hy] using hget i hx hy

/-- Lists are checked alike item by item. -/
theorem readsAlike_list {s : Shape} {xs ys : List Json}
    (h : List.Forall₂ (s.ReadsAlike spelled) xs ys) :
    (list s).ReadsAlike spelled (.arr xs) (.arr ys) := by
  refine Checked.Alike.map Json.arr (Checked.Alike.gather ?_)
  rw [List.forall₂_map_left_iff, List.forall₂_map_right_iff]
  refine (forall₂_zipIdx h).imp fun a b hab => ?_
  obtain ⟨x, i⟩ := a
  obtain ⟨y, j⟩ := b
  obtain ⟨rfl, hx, hy, hxy⟩ := hab
  exact hxy.under fun p q hplace => .item hx hy hplace

/-- A check of the canonical value as a whole sees no difference. -/
theorem readsAlike_refine {s : Shape} {fault? : Json → Option Fault} {v w : Json}
    (h : s.ReadsAlike spelled v w) : (s.refine fault?).ReadsAlike spelled v w := by
  rw [ReadsAlike] at h ⊢
  simp only [refine]
  generalize s.check v = c at h
  generalize s.check w = d at h
  rcases h with x | hissues
  · dsimp only
    split
    · exact .fault v w _
    · exact .ok x
  · exact .error hissues

end Shape

/-! ## Respelled objects -/

/-- What becomes of a key when some fields are spelled in snake case. -/
def FieldName.Respells (names : List FieldName) (key other : Text) : Prop :=
  (∃ n ∈ names, (n.camel : Text) = key ∧ (n.snake : Text) = other) ∨
    (∀ n ∈ names, (n.camel : Text) ≠ key) ∧ other = key

namespace Model

/-- An object and the same object with some fields of the model in snake case.  No member
goes by one of the new names before.  Values may differ below their keys as told. -/
structure Respells (m : Model) (names : List FieldName) (parts : Text → Json → Json → Prop)
    (o r : Members) : Prop where
  declared : ∀ n ∈ names, ∃ f ∈ m.fields, f.name = n
  free : ∀ n ∈ names, o.has n.snake = false
  members : List.Forall₂ (fun a b => FieldName.Respells names a.1 b.1 ∧ parts a.1 a.2 b.2) o r

/-- No two fields share a spelling. -/
structure Unambiguous (m : Model) : Prop extends m.Distinct where
  snakes : (m.fields.map (·.name.snake)).Nodup

/-- The names of the fields are spellings of one name, and values differ only below fields
of one word, whose shapes read them alike. -/
structure ReadsParts (spelled : Text → Text → Prop) (m : Model)
    (parts : Text → Json → Json → Prop) : Prop where
  spellings : ∀ f ∈ m.fields, spelled f.name.camel f.name.snake
  values : ∀ key x y, parts key x y →
    x = y ∨ ∃ f ∈ m.fields, ∃ word : String, f.name = .word word ∧ key = word ∧
      f.shape.ReadsAlike spelled x y

end Model

theorem has_eq_isSome (o : Members) (key : Text) : o.has key = (o.get? key).isSome := by
  rw [Bool.eq_iff_iff, Members.has_iff, Option.isSome_iff_ne_none, Ne, Members.get?_eq_none_iff,
    not_not]

/-- What two objects hold under two keys that stand at the same positions. -/
theorem get?_of_forall₂ {r : Text × Json → Text × Json → Prop} {o s : Members}
    (h : List.Forall₂ r o s) {key other : Text}
    (hkeys : ∀ a ∈ o, ∀ b, r a b → (b.1 = other ↔ a.1 = key)) :
    (o.get? key = none ∧ s.get? other = none) ∨
      ∃ (i : Nat) (x y : Json), o[i]? = some (key, x) ∧ s[i]? = some (other, y) ∧
        o.get? key = some x ∧ s.get? other = some y ∧ r (key, x) (other, y) := by
  induction h with
  | nil => exact Or.inl ⟨rfl, rfl⟩
  | @cons a b o s hab _ ih =>
    obtain ⟨k, x⟩ := a
    obtain ⟨l, y⟩ := b
    rw [Members.get?_cons, Members.get?_cons]
    have hiff : l = other ↔ k = key := hkeys (k, x) (List.mem_cons_self ..) (l, y) hab
    by_cases hk : k = key
    · obtain rfl := hk
      obtain rfl := hiff.mpr rfl
      exact Or.inr ⟨0, x, y, rfl, rfl, if_pos rfl, if_pos rfl, hab⟩
    · have hl : l ≠ other := fun hl => hk (hiff.mp hl)
      rw [if_neg (Ne.symm hk), if_neg (Ne.symm hl)]
      rcases ih fun a ha => hkeys a (List.mem_cons_of_mem _ ha) with hnone | hsome
      · exact Or.inl hnone
      · obtain ⟨i, x, y, hx, hy, hrest⟩ := hsome
        exact Or.inr ⟨i + 1, x, y, hx, hy, hrest⟩

theorem filter_eq_of_forall₂ {r : Text × Json → Text × Json → Prop} {o s : Members}
    {p q : Text × Json → Bool} (h : List.Forall₂ r o s)
    (hpq : ∀ a ∈ o, ∀ b, r a b → p a = q b ∧ (p a = true → a = b)) :
    o.filter p = s.filter q := by
  induction h with
  | nil => rfl
  | @cons a b o s hab _ ih =>
    obtain ⟨hsame, heq⟩ := hpq a (List.mem_cons_self ..) b hab
    rw [List.filter_cons, List.filter_cons, ← hsame,
      ih fun a ha => hpq a (List.mem_cons_of_mem _ ha)]
    split
    · next hp => rw [heq hp]
    · rfl

theorem get?_eq_none_of_forall₂ {r : Text × Json → Text × Json → Prop} {o s : Members}
    (h : List.Forall₂ r o s) {other : Text} (hkeys : ∀ a ∈ o, ∀ b, r a b → b.1 ≠ other) :
    s.get? other = none := by
  induction h with
  | nil => rfl
  | @cons a b o s hab _ ih =>
    have hb : other ≠ b.1 := (hkeys a (List.mem_cons_self ..) b hab).symm
    rw [Members.get?_cons, if_neg hb]
    exact ih fun a ha => hkeys a (List.mem_cons_of_mem _ ha)

namespace Model.Respells

variable {spelled : Text → Text → Prop} {m : Model} {names : List FieldName}
  {parts : Text → Json → Json → Prop} {o r : Members} {f : Field}

/-- A name among those that are respelled is the name of the field that shares a
spelling with it. -/
theorem name_eq (h : m.Respells names parts o r) (hm : m.Unambiguous) (hf : f ∈ m.fields)
    {n : FieldName} (hn : n ∈ names)
    (hshared : (n.camel : Text) = f.name.camel ∨ (n.snake : Text) = f.name.snake ∨
      (n.snake : Text) = f.name.camel ∨ (n.camel : Text) = f.name.snake) : n = f.name := by
  obtain ⟨g, hg, rfl⟩ := h.declared n hn
  have hcamel : g.name.camel = f.name.camel → g.name = f.name := fun heq =>
    congrArg Field.name (eq_of_camel_eq hm.toDistinct hg hf (congrArg Text.proper heq))
  simp only [Text.proper.injEq] at hshared
  rcases hshared with heq | heq | heq | heq
  · exact hcamel heq
  · exact congrArg Field.name (List.inj_on_of_nodup_map hm.snakes hg hf heq)
  · exact hcamel (hm.apart g hg f hf heq)
  · exact hcamel (hm.apart f hf g hg heq.symm).symm

theorem not_free (h : m.Respells names parts o r) {a : Text × Json} (ha : a ∈ o)
    {n : FieldName} (hn : n ∈ names) : a.1 ≠ n.snake := by
  intro heq
  have hhas : o.has n.snake = true := Members.has_iff.mpr (heq ▸ List.mem_map_of_mem ha)
  rw [h.free n hn] at hhas
  contradiction

/-- What is held under the camel case name of a respelled field is held under its snake
case name afterwards. -/
theorem keys_of_mem (h : m.Respells names parts o r) (hm : m.Unambiguous) (hf : f ∈ m.fields)
    (hn : f.name ∈ names) {a : Text × Json} (ha : a ∈ o) {other : Text}
    (hother : FieldName.Respells names a.1 other) :
    (other = f.name.snake ↔ a.1 = f.name.camel) ∧ other ≠ f.name.camel := by
  rcases hother with ⟨n, hin, hcamel, hsnake⟩ | ⟨hnone, rfl⟩
  · refine ⟨⟨fun heq => ?_, fun heq => ?_⟩, fun heq => ?_⟩
    · rw [← h.name_eq hm hf hin (Or.inr (Or.inl (hsnake.trans heq))), hcamel]
    · rw [← h.name_eq hm hf hin (Or.inl (hcamel.trans heq)), hsnake]
    · -- A field that has its camel case name for its snake case name is not free.
      have hsame := h.name_eq hm hf hin (Or.inr (Or.inr (Or.inl (hsnake.trans heq))))
      rw [hsame] at hcamel hsnake
      exact h.not_free ha hn (by rw [hsnake, heq, hcamel])
  · refine ⟨⟨fun heq => absurd heq (h.not_free ha hn), fun heq => ?_⟩, fun heq => ?_⟩
    · exact absurd heq.symm (hnone _ hn)
    · exact hnone _ hn heq.symm

/-- The names of the other fields stay where they are. -/
theorem keys_of_not_mem (h : m.Respells names parts o r) (hm : m.Unambiguous)
    (hf : f ∈ m.fields) (hn : f.name ∉ names) {key other : Text}
    (hother : FieldName.Respells names key other) :
    (other = f.name.camel ↔ key = f.name.camel) ∧ (other = f.name.snake ↔ key = f.name.snake) := by
  rcases hother with ⟨n, hin, rfl, rfl⟩ | ⟨-, rfl⟩
  · have hne : n ≠ f.name := fun heq => hn (heq ▸ hin)
    have hall := fun hshared => hne (h.name_eq hm hf hin hshared)
    refine ⟨⟨fun heq => ?_, fun heq => ?_⟩, ⟨fun heq => ?_, fun heq => ?_⟩⟩
    · exact absurd (Or.inr (Or.inr (Or.inl heq))) hall
    · exact absurd (Or.inl heq) hall
    · exact absurd (Or.inr (Or.inl heq)) hall
    · exact absurd (Or.inr (Or.inr (Or.inr heq))) hall
  · exact ⟨Iff.rfl, Iff.rfl⟩

theorem get?_camel_eq_none (h : m.Respells names parts o r) (hm : m.Unambiguous)
    (hf : f ∈ m.fields) (hn : f.name ∈ names) : r.get? f.name.camel = none :=
  get?_eq_none_of_forall₂ h.members fun _ ha _ hab => (h.keys_of_mem hm hf hn ha hab.1).2

/-- A field is given in both objects, by members at the same position, or in neither. -/
theorem find?_cases (h : m.Respells names parts o r) (hm : m.Unambiguous) (hf : f ∈ m.fields) :
    (f.name.find? o = none ∧ f.name.find? r = none) ∨
      ∃ (i : Nat) (key other : Text) (x y : Json),
        o[i]? = some (key, x) ∧ r[i]? = some (other, y) ∧ f.name.find? o = some (key, x) ∧
          f.name.find? r = some (other, y) ∧ (key = f.name.camel ∨ key = f.name.snake) ∧
          FieldName.Respells names key other ∧ parts key x y := by
  by_cases hn : f.name ∈ names
  · have hsnake : o.get? f.name.snake = none := by
      rw [Members.get?_eq_none_iff, ← Members.has_iff, h.free _ hn]
      decide
    have hcamel := h.get?_camel_eq_none hm hf hn
    rcases get?_of_forall₂ h.members fun a ha b hab => (h.keys_of_mem hm hf hn ha hab.1).1 with
      ⟨ho, hr⟩ | ⟨i, x, y, hx, hy, ho, hr, hrelated⟩
    · exact Or.inl ⟨FieldName.find?_eq_none_iff.mpr ⟨ho, hsnake⟩,
        FieldName.find?_eq_none_iff.mpr ⟨hcamel, hr⟩⟩
    · refine Or.inr ⟨i, _, _, x, y, hx, hy, ?_, ?_, Or.inl rfl, hrelated⟩
      · rw [FieldName.find?, ho]
      · rw [FieldName.find?, hcamel, hr]
        rfl
  · rcases get?_of_forall₂ h.members fun a _ b hab => (h.keys_of_not_mem hm hf hn hab.1).1 with
      ⟨ho, hr⟩ | ⟨i, x, y, hx, hy, ho, hr, hrelated⟩
    · rcases get?_of_forall₂ h.members fun a _ b hab => (h.keys_of_not_mem hm hf hn hab.1).2 with
        ⟨hos, hrs⟩ | ⟨i, x, y, hx, hy, hos, hrs, hrelated⟩
      · exact Or.inl ⟨FieldName.find?_eq_none_iff.mpr ⟨ho, hos⟩,
          FieldName.find?_eq_none_iff.mpr ⟨hr, hrs⟩⟩
      · refine Or.inr ⟨i, _, _, x, y, hx, hy, ?_, ?_, Or.inr rfl, hrelated⟩
        · rw [FieldName.find?, ho, hos]
          rfl
        · rw [FieldName.find?, hr, hrs]
          rfl
    · refine Or.inr ⟨i, _, _, x, y, hx, hy, ?_, ?_, Or.inl rfl, hrelated⟩
      · rw [FieldName.find?, ho]
      · rw [FieldName.find?, hr]

/-- The values of a field are read alike. -/
theorem readsAlike_of_parts (hm : m.Unambiguous) (hparts : m.ReadsParts spelled parts)
    (hf : f ∈ m.fields) {key : Text} (hkey : key = f.name.camel ∨ key = f.name.snake)
    {x y : Json} (hxy : parts key x y) : f.shape.ReadsAlike spelled x y := by
  rcases hparts.values key x y hxy with rfl | ⟨g, hg, word, hword, hword', halike⟩
  · exact Shape.ReadsAlike.refl _ x
  · have hcamel : (g.name.camel : Text) = key := by rw [hword, hword']; rfl
    have hsame : f.name.camel = g.name.camel := by
      rcases hkey with hkey | hkey
      · exact Text.proper.inj (hkey.symm.trans hcamel.symm)
      · exact hm.apart f hf g hg (Text.proper.inj (hkey.symm.trans hcamel.symm))
    rwa [eq_of_camel_eq hm.toDistinct hf hg (congrArg Text.proper hsame)]

/-- Each field is checked alike. -/
theorem check_alike (h : m.Respells names parts o r) (hm : m.Unambiguous)
    (hparts : m.ReadsParts spelled parts) (hf : f ∈ m.fields) :
    Checked.Alike spelled (.obj o) (.obj r) (f.check o) (f.check r) := by
  rw [Field.check, Field.check]
  rcases h.find?_cases hm hf with
    ⟨ho, hr⟩ | ⟨i, key, other, x, y, hx, hy, ho, hr, hkey, hrespells, hxy⟩
  · rw [ho, hr]
    dsimp only
    split
    · exact .ok []
    · rw [FieldName.find?_eq_none_iff] at ho hr
      exact .error (.cons ⟨rfl, .absent ho.1 hr.1⟩ .nil)
  · rw [ho, hr]
    have halike := readsAlike_of_parts hm hparts hf hkey hxy
    have hspelled : key = other ∨ spelled key other := by
      rcases hrespells with ⟨n, hn, rfl, rfl⟩ | ⟨-, rfl⟩
      · obtain ⟨g, hg, rfl⟩ := h.declared n hn
        exact Or.inr (hparts.spellings g hg)
      · exact Or.inl rfl
    exact (halike.map _).under fun p q hplace => .member hspelled hx hy hplace

/-- Whether a field that is not respelled has its camel case name stays as it is. -/
theorem has_camel_eq (h : m.Respells names parts o r) (hm : m.Unambiguous) (hf : f ∈ m.fields)
    (hn : f.name ∉ names) : o.has f.name.camel = r.has f.name.camel := by
  rw [has_eq_isSome, has_eq_isSome]
  rcases get?_of_forall₂ h.members fun a _ b hab => (h.keys_of_not_mem hm hf hn hab.1).1 with
    ⟨ho, hr⟩ | ⟨i, x, y, -, -, ho, hr, -⟩
  · rw [ho, hr]
  · rw [ho, hr]
    rfl

/-- A member is an extra in both objects or in neither. -/
theorem isExtra_eq (h : m.Respells names parts o r) (hm : m.Unambiguous) {a : Text × Json}
    (ha : a ∈ o) {other : Text} (hother : FieldName.Respells names a.1 other) :
    m.isExtra o a.1 = m.isExtra r other := by
  rcases hother with ⟨n, hn, hcamel, hsnake⟩ | ⟨-, rfl⟩
  · obtain ⟨f, hf, rfl⟩ := h.declared n hn
    have ho : m.isExtra o a.1 = false := by
      rw [isExtra, Bool.not_eq_false', List.any_eq_true]
      exact ⟨f, hf, by simp [FieldName.gives, hcamel]⟩
    have hr : m.isExtra r other = false := by
      rw [isExtra, Bool.not_eq_false', List.any_eq_true]
      refine ⟨f, hf, ?_⟩
      rw [FieldName.gives, has_eq_isSome, h.get?_camel_eq_none hm hf hn]
      simp [hsnake]
    rw [ho, hr]
  · have hgives : ∀ f ∈ m.fields, f.name.gives o a.1 = f.name.gives r a.1 := by
      intro f hf
      rw [FieldName.gives, FieldName.gives]
      by_cases hsnake : a.1 = f.name.snake
      · rw [h.has_camel_eq hm hf fun hn => h.not_free ha hn hsnake]
      · rw [beq_eq_false_iff_ne.mpr hsnake, Bool.false_and, Bool.false_and]
    have hany : m.fields.any (·.name.gives o a.1) = m.fields.any (·.name.gives r a.1) := by
      rw [Bool.eq_iff_iff, List.any_eq_true, List.any_eq_true]
      refine exists_congr fun f => and_congr_right fun hf => ?_
      rw [hgives f hf]
    rw [isExtra, isExtra, hany]

/-- A member that is an extra is the same in both objects. -/
theorem eq_of_isExtra (h : m.Respells names parts o r) (hparts : m.ReadsParts spelled parts)
    {a b : Text × Json} (hab : FieldName.Respells names a.1 b.1 ∧ parts a.1 a.2 b.2)
    (hextra : m.isExtra o a.1 = true) : a = b := by
  rw [isExtra, Bool.not_eq_true', List.any_eq_false] at hextra
  obtain ⟨hkey, hvalue⟩ := hab
  have hsame : b.1 = a.1 := by
    rcases hkey with ⟨n, hn, hcamel, -⟩ | ⟨-, hsame⟩
    · obtain ⟨f, hf, rfl⟩ := h.declared n hn
      exact absurd (by simp [FieldName.gives, hcamel]) (hextra f hf)
    · exact hsame
  rcases hparts.values a.1 a.2 b.2 hvalue with hvalue | ⟨f, hf, word, hword, hkey, -⟩
  · exact Prod.ext hsame.symm hvalue
  · exact absurd (by simp [FieldName.gives, hword, hkey, FieldName.word]) (hextra f hf)

/-- The members that are no fields are the same. -/
theorem extras_eq (h : m.Respells names parts o r) (hm : m.Unambiguous)
    (hparts : m.ReadsParts spelled parts) : m.extras o = m.extras r := by
  rw [extras_eq_filter, extras_eq_filter]
  exact filter_eq_of_forall₂ h.members fun a ha b hab =>
    ⟨h.isExtra_eq hm ha hab.1, h.eq_of_isExtra hparts hab⟩

theorem keptExtras_eq (h : m.Respells names parts o r) (hm : m.Unambiguous)
    (hparts : m.ReadsParts spelled parts) : m.keptExtras o = m.keptExtras r := by
  rw [keptExtras, keptExtras, h.extras_eq hm hparts]

/-- The new names are strings, as the old ones are. -/
theorem admitsNames_iff (h : m.Respells names parts o r) : m.AdmitsNames o ↔ m.AdmitsNames r := by
  have hproper : List.Forall₂ (fun a b => a.1.isProper = b.1.isProper) o r := by
    refine h.members.imp fun a b hab => ?_
    rcases hab.1 with ⟨n, -, hcamel, hsnake⟩ | ⟨-, hsame⟩
    · rw [← hcamel, ← hsnake]
      rfl
    · rw [hsame]
  refine imp_congr_right fun _ => ?_
  clear h
  induction hproper with
  | nil => exact Iff.rfl
  | cons hab _ ih => rw [List.forall_mem_cons, List.forall_mem_cons, hab, ih]

end Model.Respells

namespace Model

variable {spelled : Text → Text → Prop} {m : Model} {names : List FieldName}
  {parts : Text → Json → Json → Prop} {o r : Members}

/-- A respelled object is checked alike. -/
theorem Respells.readsAlike (h : m.Respells names parts o r) (hm : m.Unambiguous)
    (hparts : m.ReadsParts spelled parts) : m.shape.ReadsAlike spelled (.obj o) (.obj r) := by
  have hfields : Checked.Alike spelled (.obj o) (.obj r)
      (Checked.gather (m.fields.map (·.check o))) (Checked.gather (m.fields.map (·.check r))) := by
    apply Checked.Alike.gather
    rw [List.forall₂_map_left_iff, List.forall₂_map_right_iff]
    exact List.forall₂_same.mpr fun f hf => h.check_alike hm hparts hf
  refine Checked.Alike.map Json.obj ?_
  by_cases hnames : m.AdmitsNames o
  · rw [checkMembers_of_admitsNames hnames,
      checkMembers_of_admitsNames (h.admitsNames_iff.mp hnames), h.keptExtras_eq hm hparts]
    exact hfields.map _
  · rw [checkMembers_of_not_admitsNames hnames,
      checkMembers_of_not_admitsNames fun hr => hnames (h.admitsNames_iff.mpr hr)]
    exact .fault _ _ _

/-- A field of one word has the value that it had, unless the value may differ. -/
theorem Respells.get?_word (h : m.Respells names parts o r) (hm : m.Unambiguous) {f : Field}
    (hf : f ∈ m.fields) {key : String} (hword : f.name = .word key)
    (hsame : ∀ x y, parts key x y → x = y) : r.get? key = o.get? key := by
  have hcamel : f.name.camel = key := by rw [hword]; rfl
  have hsnake : f.name.snake = key := by rw [hword]; rfl
  by_cases hn : f.name ∈ names
  · have hr := h.get?_camel_eq_none hm hf hn
    have ho := h.free _ hn
    rw [has_eq_isSome, Option.isSome_eq_false_iff, Option.isNone_iff_eq_none] at ho
    rw [hcamel] at hr
    rw [hsnake] at ho
    rw [hr, ho]
  · have hkeys : ∀ a ∈ o, ∀ b : Text × Json,
        FieldName.Respells names a.1 b.1 ∧ parts a.1 a.2 b.2 → (b.1 = key ↔ a.1 = key) := by
      intro a _ b hab
      rw [← hcamel]
      exact (h.keys_of_not_mem hm hf hn hab.1).1
    rcases get?_of_forall₂ h.members hkeys with ⟨ho, hr⟩ | ⟨i, x, y, -, -, ho, hr, -, hxy⟩
    · rw [ho, hr]
    · rw [ho, hr, hsame x y hxy]

/-- A value and the same value with its object respelled, or the value itself. -/
inductive Respelled (m : Model) (parts : Text → Json → Json → Prop) : Json → Json → Prop where
  | same (v : Json) : Respelled m parts v v
  | object {names : List FieldName} {o r : Members} (h : m.Respells names parts o r) :
    Respelled m parts (.obj o) (.obj r)

theorem Respelled.readsAlike {v w : Json} (h : m.Respelled parts v w) (hm : m.Unambiguous)
    (hparts : m.ReadsParts spelled parts) : m.shape.ReadsAlike spelled v w := by
  rcases h with - | h
  · exact Shape.ReadsAlike.refl _ v
  · exact h.readsAlike hm hparts

/-- No value differs below its key. -/
def SameParts (_ : Text) (x y : Json) : Prop := x = y

theorem readsParts_sameParts (h : ∀ f ∈ m.fields, spelled f.name.camel f.name.snake) :
    m.ReadsParts spelled SameParts :=
  ⟨h, fun _ _ _ h => Or.inl h⟩

end Model

/-! ## Lists and kinds -/

/-- A value and the same value with the items of its list replaced, or the value itself. -/
inductive ItemsRespelled (item : Json → Json → Prop) : Json → Json → Prop where
  | same (v : Json) : ItemsRespelled item v v
  | list {xs ys : List Json} (h : List.Forall₂ item xs ys) : ItemsRespelled item (.arr xs) (.arr ys)

variable {spelled : Text → Text → Prop}

theorem ItemsRespelled.readsAlike {item : Json → Json → Prop} {s : Shape} {v w : Json}
    (h : ItemsRespelled item v w) (hitem : ∀ x y, item x y → s.ReadsAlike spelled x y) :
    (Shape.list s).ReadsAlike spelled v w := by
  rcases h with - | h
  · exact Shape.ReadsAlike.refl _ v
  · exact Shape.readsAlike_list (h.imp hitem)

/-- Objects of one kind are checked alike if the model of that kind does so. -/
theorem Shape.readsAlike_tagged {tags : List String} {models : String → Option Model}
    {tag : String} {m : Model} {o r : Members} (ho : o.get? "type" = some (.str tag))
    (hr : r.get? "type" = some (.str tag)) (hm : models tag = some m)
    (h : m.shape.ReadsAlike spelled (.obj o) (.obj r)) :
    (Shape.tagged tags models).ReadsAlike spelled (.obj o) (.obj r) := by
  rw [ReadsAlike]
  simp only [tagged, ho, hr, hm]
  exact Checked.Alike.under h fun p q hplace => .alternative tag hplace

end WorkflowEngine.Schema
