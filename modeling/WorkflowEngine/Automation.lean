import WorkflowEngine.Error
import WorkflowEngine.Schema.Shape

/-!
# The catalogue of automated actions

A catalogue lists the actions that automated steps can name.  On a repeated id the
later action takes the place of the earlier one.
-/

namespace WorkflowEngine

/-- An action that an automated step can run. -/
structure AutomatedAction where
  id : String
  label : String
  params : List String
deriving DecidableEq

namespace AutomatedAction

open Schema in
/-- Actions as objects. -/
def model : Model where
  name := "AutomatedAction"
  fields :=
    [.required (.word "id") (.leaf .text), .required (.word "label") (.leaf .text),
      .optional (.word "params") (.leaf .textList) (.arr [])]
  keepsExtras := false

/-- An action as a JSON object. -/
def toJson (a : AutomatedAction) : Json :=
  .obj [("id", .str a.id), ("label", .str a.label), ("params", .strings a.params)]

/-- The action in a canonical object. -/
def ofCanonical (j : Json) : AutomatedAction where
  id := (j.field "id").string
  label := (j.field "label").string
  params := (j.field "params").items.map Json.string

/-- Read an action. -/
def ofJson (j : Json) : Schema.Checked AutomatedAction := (model.shape.check j).map ofCanonical

end AutomatedAction

/-- Actions with distinct ids, in order. -/
structure Catalogue where
  actions : List AutomatedAction
  distinct : (actions.map (·.id)).Nodup

namespace Catalogue

/-- Add an action, in the place of one with its id if there is one. -/
def insert : List AutomatedAction → AutomatedAction → List AutomatedAction
  | [], a => [a]
  | b :: bs, a => if b.id = a.id then a :: bs else b :: insert bs a

/-- The ids of some actions, in order. -/
def idsOf (actions : List AutomatedAction) : List String := actions.map (·.id)

theorem idsOf_cons (a : AutomatedAction) (rest : List AutomatedAction) :
    idsOf (a :: rest) = a.id :: idsOf rest :=
  rfl

/-- An action fills the place of its id or makes a new one at the end. -/
theorem idsOf_insert (listing : List AutomatedAction) (a : AutomatedAction) :
    idsOf (insert listing a) =
      if a.id ∈ idsOf listing then idsOf listing else idsOf listing ++ [a.id] := by
  induction listing with
  | nil => rfl
  | cons c rest ih =>
    rw [insert, idsOf_cons]
    by_cases hc : c.id = a.id
    · rw [if_pos hc, idsOf_cons, if_pos (List.mem_cons.mpr (Or.inl hc.symm)), hc]
    · have hmem : a.id ∈ c.id :: idsOf rest ↔ a.id ∈ idsOf rest := by
        simp [Ne.symm hc]
      rw [if_neg hc, idsOf_cons, ih]
      simp only [hmem]
      split
      · rfl
      · rfl

/-- Adding an action repeats no id. -/
theorem nodup_insert {listing : List AutomatedAction} (h : (idsOf listing).Nodup)
    (a : AutomatedAction) : (idsOf (insert listing a)).Nodup := by
  rw [idsOf_insert]
  split
  · exact h
  · next hfresh =>
    refine List.nodup_append.mpr ⟨h, List.nodup_cons.mpr ⟨List.not_mem_nil, List.nodup_nil⟩, ?_⟩
    intro id hid other hother heq
    rw [List.mem_singleton.mp hother] at heq
    exact hfresh (heq ▸ hid)

theorem nodup_foldl_insert {listing : List AutomatedAction} (h : (idsOf listing).Nodup)
    (actions : List AutomatedAction) : (idsOf (actions.foldl insert listing)).Nodup := by
  induction actions generalizing listing with
  | nil => exact h
  | cons a rest ih => exact ih (nodup_insert h a)

/-- The catalogue of a list of actions. -/
def ofList (actions : List AutomatedAction) : Catalogue where
  actions := actions.foldl insert []
  distinct := @nodup_foldl_insert [] List.nodup_nil actions

def get (c : Catalogue) (id : String) : Except EngineError AutomatedAction :=
  match c.actions.find? (·.id == id) with
  | some a => .ok a
  | none => .error (.actionNotFound id)

/-- The actions offered by the service. -/
def standard : Catalogue :=
  .ofList
    [⟨"send_email", "Send Email", ["to", "subject", "body"]⟩,
      ⟨"generate_doc", "Generate Document", ["template", "recipient"]⟩,
      ⟨"create_ticket", "Create Support Ticket", ["title", "priority", "assignee"]⟩,
      ⟨"update_database", "Update Database Record", ["table", "recordId", "fields"]⟩,
      ⟨"send_notification", "Send Push Notification", ["userId", "message"]⟩]

end Catalogue

end WorkflowEngine
