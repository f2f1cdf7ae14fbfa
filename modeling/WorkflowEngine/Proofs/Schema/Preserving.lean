import Mathlib.Data.List.Perm.Basic
import WorkflowEngine.Proofs.Schema.LeafValues

/-!
# Checks that change no more than an order

A canonical object has its fields in the order of their declaration, whatever their order
was.  A shape preserves a value if the canonical form differs from it in nothing else and
has no number that a text cannot hold.  An object is preserved if its fields are, if each
of them goes by its camel case name, and if its other members hold finite numbers.
-/

namespace WorkflowEngine

namespace Json

/-- No object in a value has a key twice. -/
inductive DistinctKeys : Json → Prop where
  | null : DistinctKeys .null
  | bool (b : Bool) : DistinctKeys (.bool b)
  | int (n : Int) : DistinctKeys (.int n)
  | float (x : Binary64) : DistinctKeys (.float x)
  | str (t : Text) : DistinctKeys (.str t)
  | arr {xs : List Json} (items : ∀ x ∈ xs, DistinctKeys x) : DistinctKeys (.arr xs)
  | obj {o : Members} (keys : (o.map Prod.fst).Nodup) (values : ∀ m ∈ o, DistinctKeys m.2) :
    DistinctKeys (.obj o)

/-- Two values are the same but for the order of the members of objects: arrays agree item
by item, and objects have the same keys and agree key by key. -/
inductive Reordered : Json → Json → Prop where
  | same (j : Json) : Reordered j j
  | arr {xs ys : List Json} (items : List.Forall₂ Reordered xs ys) :
    Reordered (.arr xs) (.arr ys)
  | obj {o p : Members} (keys : (o.map Prod.fst).Perm (p.map Prod.fst))
    (values : ∀ key v w, (key, v) ∈ o → (key, w) ∈ p → Reordered v w) :
    Reordered (.obj o) (.obj p)

theorem DistinctKeys.of_mem_items {j x : Json} (hj : j.DistinctKeys) (hx : x ∈ j.items) :
    x.DistinctKeys := by
  cases hj with
  | arr items => exact items x hx
  | _ => contradiction

theorem DistinctKeys.of_get? {o : Members} (ho : (Json.obj o).DistinctKeys) {key : Text}
    {v : Json} (hv : o.get? key = some v) : v.DistinctKeys := by
  cases ho with
  | obj keys values => exact values _ ((Members.get?_eq_some_iff keys).mp hv)

theorem DistinctKeys.nodup_keys {o : Members} (ho : (Json.obj o).DistinctKeys) :
    (o.map Prod.fst).Nodup := by
  cases ho with
  | obj keys _ => exact keys

/-- Another order brings in no text that is not there already. -/
theorem Reordered.isProper {v w : Json} (h : v.Reordered w) (hv : v.isProper = true) :
    w.isProper = true := by
  induction v using nestedInduction generalizing w with
  | arr xs ih =>
    cases h with
    | same => exact hv
    | @arr _ ys items =>
      rw [isProper_arr] at hv ⊢
      intro y hy
      obtain ⟨i, hi, rfl⟩ := List.getElem_of_mem hy
      have hlength := items.length_eq
      have hx : xs[i] ∈ xs := List.getElem_mem _
      exact ih _ hx (items.get (hlength ▸ hi) hi) (hv _ hx)
  | obj o ih =>
    cases h with
    | same => exact hv
    | obj keys values =>
      rw [isProper_obj] at hv ⊢
      rintro ⟨key, w⟩ hw
      have hkey : key ∈ o.map Prod.fst := keys.mem_iff.mpr (List.mem_map_of_mem hw)
      obtain ⟨⟨_, v⟩, hmem, rfl⟩ := List.mem_map.mp hkey
      exact ⟨(hv _ hmem).1, ih _ hmem (values _ v w hmem hw) (hv _ hmem).2⟩
  | _ =>
    cases h
    exact hv

/-- What a text can hold has distinct keys. -/
theorem Storable.distinctKeys {j : Json} (hj : Storable j) : j.DistinctKeys := by
  induction hj with
  | null => exact .null
  | bool b => exact .bool b
  | int _ => exact .int _
  | float x => exact .float x
  | str t => exact .str t
  | arr _ ih => exact .arr ih
  | obj hkeys _ ih => exact .obj hkeys ih

end Json

namespace Schema

open Json (Reordered)

namespace Shape

/-- A value that is accepted keeps everything but the order of members, and its canonical
form has no number that is not finite. -/
def Preserves (s : Shape) (v : Json) : Prop :=
  ∀ c, s.check v = .ok c → Reordered v c ∧ c.isFinite = true

theorem Verbatim.preserves {s : Shape} (hs : s.Verbatim) (v : Json) : s.Preserves v := by
  intro c hc
  obtain ⟨rfl, hfinite⟩ := hs v c hc
  exact ⟨.same c, hfinite⟩

end Shape

/-! ## Flags and numbers -/

/-- Whether a value is an integer or a binary64 number that is finite. -/
def isFiniteNumber : Json → Bool
  | .int _ => true
  | .float x => x.isFinite
  | _ => false

/-- Whether a value is a truth value. -/
def isTruth : Json → Bool
  | .bool _ => true
  | _ => false

/-- A finite number stands for itself. -/
theorem toJson_of_isFiniteNumber {v : Json} {x : Number} (hv : isFiniteNumber v = true)
    (hx : number? v = some x) : x.toJson = v ∧ v.isFinite = true := by
  cases v with
  | int n =>
    injection hx with hx
    rw [← hx]
    exact ⟨rfl, rfl⟩
  | float y =>
    injection hx with hx
    rw [← hx]
    exact ⟨rfl, hv⟩
  | _ => contradiction

namespace Leaf

theorem preserves_number {v : Json} (hv : isFiniteNumber v = true) :
    (Shape.leaf .number).Preserves v := by
  intro c hc
  obtain ⟨x, hx, rfl⟩ := check_number_eq_ok_iff.mp hc
  obtain ⟨hsame, hfinite⟩ := toJson_of_isFiniteNumber hv hx
  rw [hsame]
  exact ⟨.same v, hfinite⟩

theorem preserves_threshold {v : Json} (hv : isFiniteNumber v = true) :
    (Shape.leaf .threshold).Preserves v := by
  intro c hc
  obtain ⟨x, hx, -, rfl⟩ := check_threshold_eq_ok_iff.mp hc
  obtain ⟨hsame, hfinite⟩ := toJson_of_isFiniteNumber hv hx
  rw [hsame]
  exact ⟨.same v, hfinite⟩

theorem preserves_flag {v : Json} (hv : isTruth v = true) : (Shape.leaf .flag).Preserves v := by
  intro c hc
  obtain ⟨b, hb, rfl⟩ := check_flag_eq_ok_iff.mp hc
  cases v with
  | bool a =>
    injection hb with hb
    rw [hb]
    exact ⟨.same _, rfl⟩
  | _ => contradiction

end Leaf

/-! ## Lists -/

namespace Shape

variable {s : Shape}

theorem preserves_list {v : Json} (h : ∀ x ∈ v.items, s.Preserves x) : (list s).Preserves v := by
  intro c hc
  obtain ⟨xs, cs, rfl, rfl, hall⟩ := check_list_eq_ok_iff_forall₂.mp hc
  have hitems : List.Forall₂ Reordered xs cs ∧ ∀ c ∈ cs, c.isFinite = true := by
    rw [Json.items] at h
    clear hc
    induction hall with
    | nil => exact ⟨.nil, by simp⟩
    | cons hx _ ih =>
      rw [List.forall_mem_cons] at h
      obtain ⟨hsame, hfinite⟩ := h.1 _ hx
      obtain ⟨hrest, hall⟩ := ih h.2
      exact ⟨.cons hsame hrest, List.forall_mem_cons.mpr ⟨hfinite, hall⟩⟩
  exact ⟨.arr hitems.1, (Json.isFinite_arr cs).mpr hitems.2⟩

end Shape

/-! ## Objects -/

namespace Model

/-- No field of an object goes by its snake case name alone, and the members that are no
fields hold finite numbers only. -/
structure Tidy (m : Model) (o : Members) : Prop where
  spelled : ∀ f ∈ m.fields, o.has f.name.snake = true → o.has f.name.camel = true
  finite : ∀ member ∈ m.extras o, member.2.isFinite = true

section Tidy

variable {m : Model} {o members : Members}

/-- A field of a tidy object is found under its camel case name. -/
theorem Tidy.find?_eq (ho : m.Tidy o) {f : Field} (hf : f ∈ m.fields) :
    f.name.find? o = (o.get? f.name.camel).map ((f.name.camel : Text), ·) := by
  rw [FieldName.find?]
  cases hcamel : o.get? f.name.camel with
  | some v => rfl
  | none =>
    cases hsnake : o.get? f.name.snake with
    | none => rfl
    | some v =>
      have hhas := Members.has_iff.mpr (Members.mem_keys_of_get? hsnake)
      have hkey := Members.has_iff.mp (ho.spelled f hf hhas)
      exact absurd hkey (Members.get?_eq_none_iff.mp hcamel)

/-- A member of the canonical form of a tidy object comes from the member with the same
key. -/
theorem Tidy.mem_cases (ho : m.Tidy o) (hc : m.checkMembers o = .ok members) {key : Text}
    {w : Json} (h : (key, w) ∈ members) :
    (∃ f ∈ m.fields, key = f.name.camel ∧ ∃ v, o.get? key = some v ∧ f.shape.check v = .ok w) ∨
      (key, w) ∈ m.extras o := by
  obtain ⟨-, -, rfl⟩ := checkMembers_eq_ok_iff.mp hc
  rcases List.mem_append.mp h with h | h
  · obtain ⟨f, hf, hin⟩ := mem_fieldMembers_iff.mp h
    obtain ⟨spelling, v, hfind, hv, hname⟩ := Field.mem_canonical_iff.mp hin
    rw [ho.find?_eq hf] at hfind
    obtain ⟨u, hu, hpair⟩ := Option.map_eq_some_iff.mp hfind
    obtain ⟨-, rfl⟩ := Prod.mk.inj hpair
    refine Or.inl ⟨f, hf, hname, u, ?_, hv⟩
    rw [show key = f.name.camel from hname, hu]
  · rw [keptExtras] at h
    split at h
    · exact Or.inr h
    · contradiction

/-- A key of a tidy object is the camel case name of a field or gives none. -/
theorem Tidy.camel_or_extra (ho : m.Tidy o) {key : Text} (hkey : key ∈ o.map Prod.fst) :
    (∃ f ∈ m.fields, key = f.name.camel) ∨ m.isExtra o key = true := by
  by_cases hextra : m.isExtra o key = true
  · exact Or.inr hextra
  · rw [isExtra, Bool.not_eq_true, Bool.not_eq_false', List.any_eq_true] at hextra
    obtain ⟨f, hf, hgives⟩ := hextra
    rw [FieldName.gives, Bool.or_eq_true, beq_iff_eq, Bool.and_eq_true, beq_iff_eq] at hgives
    rcases hgives with hcamel | ⟨hsnake, hnot⟩
    · exact Or.inl ⟨f, hf, hcamel⟩
    · have hhas := ho.spelled f hf (Members.has_iff.mpr (hsnake ▸ hkey))
      rw [hhas] at hnot
      contradiction

/-- The canonical form of a tidy object has the same keys. -/
theorem Tidy.keys_perm (ho : m.Tidy o) (hm : m.Distinct) (hkeeps : m.keepsExtras = true)
    (hkeys : (o.map Prod.fst).Nodup) (hc : m.checkMembers o = .ok members) :
    (o.map Prod.fst).Perm (members.map Prod.fst) := by
  obtain ⟨-, hfields, hmembers⟩ := checkMembers_eq_ok_iff.mp hc
  rw [List.perm_ext_iff_of_nodup hkeys (hmembers ▸ nodup_keys_canonical hm hkeys)]
  intro key
  constructor
  · intro hkey
    rw [hmembers]
    obtain ⟨member, hmember, rfl⟩ := List.mem_map.mp hkey
    rcases ho.camel_or_extra hkey with ⟨f, hf, hcamel⟩ | hextra
    · rw [hcamel, camel_mem_keys_iff hm hf]
      intro hnil
      have hnone := find?_eq_none_of_canonical_eq_nil (hfields f hf) hnil
      rw [ho.find?_eq hf, Option.map_eq_none_iff, ← hcamel, Members.get?_eq_none_iff] at hnone
      exact hnone hkey
    · apply List.mem_map_of_mem
      apply List.mem_append_right
      rw [keptExtras, if_pos hkeeps, extras_eq_filter, List.mem_filter]
      exact ⟨hmember, hextra⟩
  · intro hkey
    obtain ⟨⟨key, w⟩, hmember, rfl⟩ := List.mem_map.mp hkey
    rcases ho.mem_cases hc hmember with ⟨f, -, -, v, hv, -⟩ | hextra
    · exact Members.mem_keys_of_get? hv
    · exact List.mem_map_of_mem (List.mem_of_mem_filter hextra)

end Tidy

/-- A tidy object is preserved if the values of its fields are. -/
theorem preserves_shape {m : Model} (hm : m.Distinct) (hkeeps : m.keepsExtras = true) {v : Json}
    (hkeys : v.DistinctKeys) (hv : m.Tidy v.members)
    (hfields : ∀ f ∈ m.fields, ∀ j, v.members.get? f.name.camel = some j → f.shape.Preserves j) :
    m.shape.Preserves v := by
  intro c hc
  obtain ⟨o, members, rfl, rfl, hmembers⟩ := check_shape_eq_ok_iff.mp hc
  rw [Json.members] at hv hfields
  have hdistinct := hkeys.nodup_keys
  have hvalues : ∀ key w, (key, w) ∈ members →
      ∃ u, (key, u) ∈ o ∧ Reordered u w ∧ w.isFinite = true := by
    intro key w hw
    rcases hv.mem_cases hmembers hw with ⟨f, hf, hcamel, u, hu, hcheck⟩ | hextra
    · obtain ⟨hsame, hfinite⟩ := hfields f hf u (hcamel ▸ hu) w hcheck
      exact ⟨u, (Members.get?_eq_some_iff hdistinct).mp hu, hsame, hfinite⟩
    · exact ⟨w, List.mem_of_mem_filter hextra, .same w, hv.finite _ hextra⟩
  constructor
  · apply Reordered.obj (hv.keys_perm hm hkeeps hdistinct hmembers)
    intro key u w hu hw
    obtain ⟨u', hu', hsame, -⟩ := hvalues key w hw
    rw [← Members.get?_eq_some_iff hdistinct] at hu hu'
    rwa [Option.some.inj (hu.symm.trans hu')]
  · rw [Json.isFinite_obj]
    rintro ⟨key, w⟩ hw
    obtain ⟨-, -, -, hfinite⟩ := hvalues key w hw
    exact hfinite

end Model

end Schema

end WorkflowEngine
