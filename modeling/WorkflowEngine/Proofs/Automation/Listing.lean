import Mathlib.Data.List.Induction
import WorkflowEngine.Automation
import WorkflowEngine.Proofs.Occurrences
import WorkflowEngine.Proofs.Schema.LeafValues
import WorkflowEngine.Proofs.Schema.WrittenObjects

/-!
# The listing of a catalogue

What a catalogue lists, said of the actions it was made from: the place of an id comes from the
first action that has it, and the listed action is the last one.  Adding one action either fills
the place of its id or makes a new place at the end, and a listing stays one under every addition.
A lookup finds exactly what is listed.  Actions are written as their model asks and are read
back as they were.
-/

namespace WorkflowEngine

/-! ## Written actions -/

namespace AutomatedAction

open Schema

theorem distinct_model : model.Distinct := ⟨by decide, by decide⟩

/-- The value that an action has for a field. -/
def value? (a : AutomatedAction) : String → Option Json
  | "id" => some (.str a.id)
  | "label" => some (.str a.label)
  | "params" => some (.strings a.params)
  | _ => none

theorem toJson_eq_written (a : AutomatedAction) : a.toJson = .obj (model.written a.value?) := rfl

/-- What an action writes is accepted as it is. -/
theorem check_toJson (a : AutomatedAction) : model.shape.check a.toJson = .ok a.toJson := by
  rw [toJson_eq_written]
  refine Model.check_written distinct_model rfl ?_
  simp only [model, List.forall_mem_cons]
  exact ⟨Leaf.check_str a.id, Leaf.check_str a.label, Leaf.check_strings a.params,
    List.forall_mem_nil _⟩

/-- An action is read back as it was written. -/
theorem ofJson_toJson (a : AutomatedAction) : ofJson a.toJson = .ok a := by
  have hparams : (a.params.map fun s : String => Json.str s).map Json.string = a.params := by
    rw [List.map_map]
    exact List.map_id a.params
  have hcanonical : ofCanonical a.toJson = a := by
    rw [ofCanonical, AutomatedAction.mk.injEq]
    exact ⟨rfl, rfl, hparams⟩
  rw [ofJson, check_toJson]
  exact congrArg Except.ok hcanonical

end AutomatedAction

/-! ## Listings -/

namespace Catalogue

/-- An action is the last one among some actions that has its id. -/
def IsLast (actions : List AutomatedAction) (a : AutomatedAction) : Prop :=
  ∃ before after, actions = before ++ a :: after ∧ a.id ∉ idsOf after

/-- A list holds one action for each id of some actions.  The ids stand in the order in which
they occur first, and each action is the last one with its id. -/
structure Lists (actions listing : List AutomatedAction) : Prop where
  ids : ByOccurrence 0 (idsOf actions) (idsOf listing)
  last : ∀ a ∈ listing, IsLast actions a

variable {actions listing : List AutomatedAction} {a b : AutomatedAction}

/-- From the end the last action with an id is found first. -/
theorem IsLast.find?_reverse (h : IsLast actions a) :
    actions.reverse.find? (·.id == a.id) = some a := by
  obtain ⟨before, after, rfl, hafter⟩ := h
  have hnone : after.reverse.find? (·.id == a.id) = none := by
    simpa [idsOf] using hafter
  rw [List.reverse_append, List.reverse_cons, List.append_assoc, List.find?_append, hnone,
    Option.none_or, List.singleton_append]
  exact List.find?_cons_of_pos (beq_self_eq_true a.id)

/-- There is one last action for an id. -/
theorem IsLast.eq_of_id_eq (ha : IsLast actions a) (hb : IsLast actions b) (hid : a.id = b.id) :
    a = b := by
  have hfound := ha.find?_reverse
  rw [hid, hb.find?_reverse] at hfound
  exact (Option.some.inj hfound).symm

/-! ## Adding one action -/

theorem mem_insert_iff (hnodup : (idsOf listing).Nodup) :
    b ∈ insert listing a ↔ b = a ∨ b ∈ listing ∧ b.id ≠ a.id := by
  induction listing with
  | nil => simp [insert]
  | cons c rest ih =>
    obtain ⟨hfresh, hrest⟩ := List.nodup_cons.mp hnodup
    by_cases hc : c.id = a.id
    · have hothers : ∀ other ∈ rest, other.id ≠ a.id := by
        intro other hother hid
        exact hfresh (List.mem_map.mpr ⟨other, hother, hid.trans hc.symm⟩)
      rw [insert, if_pos hc, List.mem_cons, List.mem_cons]
      constructor
      · rintro (rfl | hb)
        · exact Or.inl rfl
        · exact Or.inr ⟨Or.inr hb, hothers b hb⟩
      · rintro (rfl | ⟨rfl | hb, hid⟩)
        · exact Or.inl rfl
        · exact absurd hc hid
        · exact Or.inr hb
    · rw [insert, if_neg hc, List.mem_cons, List.mem_cons, ih hrest]
      constructor
      · rintro (rfl | rfl | ⟨hb, hid⟩)
        · exact Or.inr ⟨Or.inl rfl, hc⟩
        · exact Or.inl rfl
        · exact Or.inr ⟨Or.inr hb, hid⟩
      · rintro (rfl | ⟨rfl | hb, hid⟩)
        · exact Or.inr (Or.inl rfl)
        · exact Or.inl rfl
        · exact Or.inr (Or.inr ⟨hb, hid⟩)

/-! ## Listings -/

namespace Lists

theorem mem_ids (h : Lists actions listing) (id : String) :
    id ∈ idsOf listing ↔ id ∈ idsOf actions := by
  rw [h.ids.mem_iff, List.count_pos_iff]

/-- Some actions have one listing: its ids are given, and an id has one last action. -/
theorem unique {other : List AutomatedAction} (h : Lists actions listing)
    (hother : Lists actions other) : listing = other := by
  have hids : idsOf listing = idsOf other := h.ids.unique hother.ids
  have hlength : listing.length = other.length := by
    simpa [idsOf] using congrArg List.length hids
  refine List.ext_getElem hlength fun i hi hi' => ?_
  have hid : listing[i].id = other[i].id := by
    simpa [idsOf, hi, hi'] using congrArg (fun ids => ids[i]?) hids
  exact (h.last _ (List.getElem_mem hi)).eq_of_id_eq (hother.last _ (List.getElem_mem hi')) hid

/-- A listing stays one when one more action is added. -/
theorem insert (h : Lists actions listing) (a : AutomatedAction) :
    Lists (actions ++ [a]) (Catalogue.insert listing a) := by
  constructor
  · have hids : idsOf (Catalogue.insert listing a) =
        if (idsOf actions).count a.id = 0 then idsOf listing ++ [a.id] else idsOf listing := by
      have hplace := h.ids.mem_iff a.id
      rw [idsOf_insert]
      by_cases hnew : (idsOf actions).count a.id = 0
      · rw [if_pos hnew, if_neg (by rw [hplace]; omega)]
      · rw [if_neg hnew, if_pos (by rw [hplace]; omega)]
    have hactions : idsOf (actions ++ [a]) = idsOf actions ++ [a.id] := List.map_append
    rw [hids, hactions]
    exact h.ids.concat a.id
  · intro b hb
    rcases (mem_insert_iff h.ids.nodup).mp hb with rfl | ⟨hold, hid⟩
    · exact ⟨actions, [], rfl, List.not_mem_nil⟩
    · obtain ⟨before, after, hactions, hafter⟩ := h.last b hold
      refine ⟨before, after ++ [a], by rw [hactions, List.append_assoc, List.cons_append], ?_⟩
      simpa [idsOf, hid] using hafter

end Lists

/-- The actions of a catalogue are the listing of the actions it was made from. -/
theorem lists_ofList (actions : List AutomatedAction) :
    Lists actions (ofList actions).actions := by
  induction actions using List.reverseRecOn with
  | nil => exact ⟨.nil, fun _ h => absurd h List.not_mem_nil⟩
  | append_singleton actions a ih =>
    have hstep : (ofList (actions ++ [a])).actions =
        Catalogue.insert (ofList actions).actions a :=
      List.foldl_concat ..
    rw [hstep]
    exact ih.insert a

/-! ## Lookup -/

theorem get_eq_ok_iff {c : Catalogue} {id : String} :
    c.get id = .ok a ↔ a ∈ c.actions ∧ a.id = id := by
  rw [get]
  constructor
  · intro h
    split at h
    · next found hfound =>
      obtain rfl := Except.ok.inj h
      exact ⟨List.mem_of_find?_eq_some hfound, by simpa using List.find?_some hfound⟩
    · contradiction
  · rintro ⟨ha, rfl⟩
    split
    · next found hfound =>
      have hid : found.id = a.id := by simpa using List.find?_some hfound
      have hsame := List.inj_on_of_nodup_map c.distinct (List.mem_of_find?_eq_some hfound) ha hid
      rw [hsame]
    · next hnone => exact absurd (beq_self_eq_true a.id) (List.find?_eq_none.mp hnone a ha)

theorem get_eq_error_iff {c : Catalogue} {id : String} {e : EngineError} :
    c.get id = .error e ↔ id ∉ idsOf c.actions ∧ e = .actionNotFound id := by
  have hnone : c.actions.find? (·.id == id) = none ↔ id ∉ idsOf c.actions := by
    simp [idsOf]
  rw [get, ← hnone]
  cases c.actions.find? (·.id == id) with
  | none => simp [eq_comm]
  | some a => simp

/-- A catalogue lists one action for each id of the actions it was made from, and nothing but
that listing is one.  A lookup finds the listed action with an id exactly if some action has the
id, and else fails with an error that names the id.  So each listed action is found under its
id. -/
theorem lists_and_finds_ofList (actions : List AutomatedAction) :
    (∀ listing, Lists actions listing ↔ (ofList actions).actions = listing) ∧
      (∀ id a, (ofList actions).get id = .ok a ↔ a ∈ (ofList actions).actions ∧ a.id = id) ∧
      (∀ id, (∃ a, (ofList actions).get id = .ok a) ↔ ∃ a ∈ actions, a.id = id) ∧
      (∀ id e, (ofList actions).get id = .error e ↔
        (∀ a ∈ actions, a.id ≠ id) ∧ e = .actionNotFound id ∧
          e.details = ([("action_id", .str id)] : Members)) ∧
      ((ofList actions).actions.map fun a => (ofList actions).get a.id) =
        (ofList actions).actions.map .ok := by
  have hlists := lists_ofList actions
  have hget : ∀ id a, (ofList actions).get id = .ok a ↔
      a ∈ (ofList actions).actions ∧ a.id = id :=
    fun _ _ => get_eq_ok_iff
  have hmem : ∀ id, id ∈ idsOf (ofList actions).actions ↔ ∃ a ∈ actions, a.id = id :=
    fun id => (hlists.mem_ids id).trans List.mem_map
  refine ⟨fun listing => ⟨hlists.unique, fun h => h ▸ hlists⟩, hget, ?_, ?_, ?_⟩
  · intro id
    rw [← hmem, idsOf, List.mem_map]
    exact exists_congr (hget id)
  · intro id e
    rw [get_eq_error_iff, hmem, not_exists]
    constructor
    · rintro ⟨hfresh, rfl⟩
      exact ⟨fun a ha hid => hfresh a ⟨ha, hid⟩, rfl, rfl⟩
    · rintro ⟨hfresh, rfl, -⟩
      exact ⟨fun a ha => hfresh a ha.1 ha.2, rfl⟩
  · exact List.map_congr_left fun a ha => (hget a.id a).mpr ⟨ha, rfl⟩

example :
    (ofList [⟨"mail", "Mail", []⟩, ⟨"file", "File", []⟩, ⟨"mail", "Post", []⟩]).actions =
      [⟨"mail", "Post", []⟩, ⟨"file", "File", []⟩] := by
  decide

end Catalogue

end WorkflowEngine
