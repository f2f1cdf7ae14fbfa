import WorkflowEngine.Log.Scope
import WorkflowEngine.Proofs.Json.Content

/-!
# Nested scopes

Scope objects hold what they restore, and the scope that is current is shared by all of them.
As long as objects are entered and left like brackets, the current scope is nevertheless a
function of the objects that are open: their contexts laid over each other from the outermost
inwards.  `Blocks` keeps account of the open objects without any saved scope, and
`ScopeState.Keeps` says how the saved scopes fit to it.
-/

namespace WorkflowEngine

namespace Members

/-! ## Objects laid over each other -/

theorem get?_put (o : Members) (key : Text) (value : Json) (other : Text) :
    (put o key value).get? other = if other = key then some value else o.get? other := by
  induction o with
  | nil => rw [put, get?_cons]
  | cons m o ih =>
    obtain ⟨k, v⟩ := m
    rw [put]
    by_cases hk : k = key
    · rw [if_pos hk, get?_cons, get?_cons, hk]
      by_cases hother : other = key
      · rw [if_pos hother, if_pos hother]
      · rw [if_neg hother, if_neg hother, if_neg hother]
    · rw [if_neg hk, get?_cons, get?_cons, ih]
      by_cases hother : other = k
      · rw [if_pos hother, if_pos hother, if_neg fun h => hk (hother ▸ h)]
      · rw [if_neg hother, if_neg hother]

/-- Of pairs that are put one after the other the last value of a key counts. -/
theorem get?_foldl_put (pairs o : Members) (key : Text) :
    Members.get? (pairs.foldl (fun o p => put o p.1 p.2) o) key =
      (pairs.reverse.lookup key).or (o.get? key) := by
  induction pairs generalizing o with
  | nil => rfl
  | cons p pairs ih =>
    obtain ⟨k, v⟩ := p
    rw [List.foldl_cons, ih, List.reverse_cons, List.lookup_append, get?_put, Option.or_assoc]
    congr 1
    by_cases hkey : key = k
    · simp [hkey]
    · simp [hkey, List.lookup_cons, beq_eq_false_iff_ne.mpr hkey]

theorem get?_ofPairs (pairs : Members) (key : Text) :
    (ofPairs pairs).get? key = pairs.reverse.lookup key := by
  rw [ofPairs, get?_foldl_put]
  exact Option.or_none

theorem merge_ofPairs (pairs top : Members) : (ofPairs pairs).merge top = ofPairs (pairs ++ top) :=
  List.foldl_append.symm

end Members

namespace Log

/-! ## Operations -/

/-- What is done with scope objects, each known by its name. -/
inductive ScopeOperation where
  | create (name : String) (context : Members)
  | enter (name : String)
  | leave (name : String)

namespace ScopeState

def perform (s : ScopeState) : ScopeOperation → ScopeState
  | .create name context => s.create name context
  | .enter name => s.enter name
  | .leave name => s.leave name

/-- The state after some operations on no objects. -/
def after (ops : List ScopeOperation) : ScopeState := ops.foldl perform initial

theorem after_append (ops more : List ScopeOperation) :
    after (ops ++ more) = more.foldl perform (after ops) :=
  List.foldl_append

end ScopeState

/-! ## Blocks -/

/-- The objects that have been made, the latest first, and those among them that are open, the
innermost first.  Each stands with its name and its context. -/
structure Blocks where
  objects : List (String × Members)
  opened : List (String × Members)

namespace Blocks

/-- No objects. -/
def empty : Blocks := ⟨[], []⟩

def IsOpen (b : Blocks) (name : String) : Prop := name ∈ b.opened.map Prod.fst

instance (b : Blocks) (name : String) : Decidable (b.IsOpen name) :=
  inferInstanceAs (Decidable (name ∈ b.opened.map Prod.fst))

/-- What one operation does to the blocks if the operations are properly nested: an open object
is not entered again, and of the open objects only the innermost is left.  An object that is not
open may be left at any time. -/
inductive Step : Blocks → ScopeOperation → Blocks → Prop
  | create {b : Blocks} {name : String} {context : Members} (hclosed : ¬ b.IsOpen name) :
      Step b (.create name context) ⟨(name, context) :: b.objects, b.opened⟩
  | enter {b : Blocks} {name : String} {context : Members}
      (hobject : b.objects.lookup name = some context) (hclosed : ¬ b.IsOpen name) :
      Step b (.enter name) ⟨b.objects, (name, context) :: b.opened⟩
  | leave {objects opened : List (String × Members)} {name : String} {context : Members} :
      Step ⟨objects, (name, context) :: opened⟩ (.leave name) ⟨objects, opened⟩
  | stray {b : Blocks} {name : String} (hclosed : ¬ b.IsOpen name) : Step b (.leave name) b

/-- Operations that are properly nested, with the blocks before and after them.  What they leave
open may be left by later operations. -/
inductive Nests : Blocks → List ScopeOperation → Blocks → Prop
  | nil {b : Blocks} : Nests b [] b
  | cons {b b' b'' : Blocks} {op : ScopeOperation} {ops : List ScopeOperation}
      (hstep : Step b op b') (hrest : Nests b' ops b'') : Nests b (op :: ops) b''

theorem Nests.append {b b' b'' : Blocks} {ops more : List ScopeOperation} (h : b.Nests ops b')
    (hmore : b'.Nests more b'') : b.Nests (ops ++ more) b'' := by
  induction h with
  | nil => exact hmore
  | cons hstep _ ih => exact .cons hstep (ih hmore)

/-- The contexts of the open objects from the outermost inwards. -/
def contexts (b : Blocks) : Members := b.opened.reverse.flatMap Prod.snd

end Blocks

/-- The scope of some open objects, the innermost of them first. -/
def scopeOf : List (String × Members) → Members
  | [] => []
  | (_, context) :: outer => (scopeOf outer).merge context

/-- The scope that an open object restores: that of the objects around it. -/
def savedBy (name : String) : List (String × Members) → Option Members
  | [] => none
  | (innermost, _) :: outer => if innermost = name then some (scopeOf outer) else savedBy name outer

theorem scopeOf_eq_ofPairs (opened : List (String × Members)) :
    scopeOf opened = Members.ofPairs (opened.reverse.flatMap Prod.snd) := by
  induction opened with
  | nil => rfl
  | cons o outer ih =>
    rw [scopeOf, ih, Members.merge_ofPairs, List.reverse_cons, List.flatMap_append]
    simp

theorem savedBy_eq_none {name : String} {opened : List (String × Members)}
    (h : name ∉ opened.map Prod.fst) : savedBy name opened = none := by
  induction opened with
  | nil => rfl
  | cons o outer ih =>
    rw [List.map_cons, List.mem_cons, not_or] at h
    rw [savedBy, if_neg fun heq => h.1 heq.symm, ih h.2]

/-! ## States that keep account of blocks -/

namespace ScopeState

/-- The current scope is that of the open objects, every object is found with its context, and
exactly the open ones hold the scope they restore. -/
structure Keeps (s : ScopeState) (b : Blocks) : Prop where
  current : s.current = scopeOf b.opened
  find : ∀ name, s.find? name =
    (b.objects.lookup name).map fun context => ⟨name, context, savedBy name b.opened⟩
  objects : ∀ o ∈ b.opened, b.objects.lookup o.1 = some o.2
  distinct : (b.opened.map Prod.fst).Nodup

theorem find?_put (s : ScopeState) (o : ScopeObject) (name : String) :
    (s.put o).find? name = if name = o.name then some o else s.find? name := by
  rw [find?, put]
  by_cases hname : name = o.name
  · simp [hname]
  · have hne : (o.name == name) = false := beq_eq_false_iff_ne.mpr fun h => hname h.symm
    rw [if_neg hname, List.find?_cons, hne, find?]
    dsimp only
    rw [List.find?_filter]
    congr 1
    funext other
    by_cases hother : other.name = name
    · simp [hother, hname]
    · simp [hother]

theorem keeps_initial : Keeps initial .empty where
  current := rfl
  find _ := rfl
  objects := by simp [Blocks.empty]
  distinct := by simp [Blocks.empty]

section Step

variable {s : ScopeState} {b : Blocks} {name : String} {context : Members}

theorem Keeps.create (hs : s.Keeps b) (hclosed : ¬ b.IsOpen name) :
    (s.create name context).Keeps ⟨(name, context) :: b.objects, b.opened⟩ where
  current := hs.current
  find other := by
    rw [ScopeState.create, find?_put, List.lookup_cons]
    by_cases hother : other = name
    · simp [hother, savedBy_eq_none hclosed]
    · simp [hother, beq_eq_false_iff_ne.mpr hother, hs.find]
  objects o ho := by
    have hne : o.1 ≠ name := fun h => hclosed (h ▸ List.mem_map_of_mem ho)
    rw [List.lookup_cons, beq_eq_false_iff_ne.mpr hne]
    exact hs.objects o ho
  distinct := hs.distinct

theorem Keeps.enter (hs : s.Keeps b) (hobject : b.objects.lookup name = some context)
    (hclosed : ¬ b.IsOpen name) :
    (s.enter name).Keeps ⟨b.objects, (name, context) :: b.opened⟩ := by
  have hfind := hs.find name
  rw [hobject, Option.map_some] at hfind
  have henter : s.enter name =
      { s.put ⟨name, context, some s.current⟩ with current := s.current.merge context } := by
    rw [ScopeState.enter, hfind]
  rw [henter]
  refine ⟨?_, fun other => ?_, ?_, ?_⟩
  · rw [scopeOf, hs.current]
  · have hput := find?_put s ⟨name, context, some s.current⟩ other
    refine hput.trans ?_
    by_cases hother : other = name
    · simp [hother, hobject, savedBy, hs.current]
    · have hne : name ≠ other := fun h => hother h.symm
      simp [hother, hne, savedBy, hs.find]
  · intro o ho
    rcases List.mem_cons.mp ho with rfl | ho
    · exact hobject
    · exact hs.objects o ho
  · exact List.nodup_cons.mpr ⟨hclosed, hs.distinct⟩

theorem Keeps.leave {objects opened : List (String × Members)}
    (hs : s.Keeps ⟨objects, (name, context) :: opened⟩) :
    (s.leave name).Keeps ⟨objects, opened⟩ := by
  have hobject := hs.objects (name, context) (by simp)
  obtain ⟨hclosed, hdistinct⟩ := List.nodup_cons.mp hs.distinct
  have hfind := hs.find name
  rw [hobject, Option.map_some, savedBy, if_pos rfl] at hfind
  have hleave : s.leave name =
      { s.put ⟨name, context, none⟩ with current := scopeOf opened } := by
    rw [ScopeState.leave, hfind]
  rw [hleave]
  refine ⟨rfl, fun other => ?_, fun o ho => hs.objects o (by simp [ho]), hdistinct⟩
  have hput := find?_put s ⟨name, context, none⟩ other
  refine hput.trans ?_
  by_cases hother : other = name
  · simp [hother, hobject, savedBy_eq_none hclosed]
  · have hne : name ≠ other := fun h => hother h.symm
    have hold := hs.find other
    rw [savedBy, if_neg hne] at hold
    simp [hother, hold]

/-- Leaving an object that is not open changes nothing. -/
theorem Keeps.leave_eq (hs : s.Keeps b) (hclosed : ¬ b.IsOpen name) : s.leave name = s := by
  rw [ScopeState.leave, hs.find, savedBy_eq_none hclosed]
  cases b.objects.lookup name with
  | none => rfl
  | some context => rfl

theorem Keeps.step (hs : s.Keeps b) {op : ScopeOperation} {b' : Blocks} (hstep : b.Step op b') :
    (s.perform op).Keeps b' := by
  cases hstep with
  | create hclosed => exact hs.create hclosed
  | enter hobject hclosed => exact hs.enter hobject hclosed
  | leave => exact hs.leave
  | stray hclosed =>
    rw [perform, hs.leave_eq hclosed]
    exact hs

end Step

theorem Keeps.run {s : ScopeState} {b b' : Blocks} (hs : s.Keeps b) {ops : List ScopeOperation}
    (hops : b.Nests ops b') : (ops.foldl perform s).Keeps b' := by
  induction hops generalizing s with
  | nil => exact hs
  | cons hstep _ ih => exact ih (hs.step hstep)

theorem keeps_after {ops : List ScopeOperation} {b : Blocks} (hops : Blocks.empty.Nests ops b) :
    (after ops).Keeps b :=
  keeps_initial.run hops

/-- At any point of properly nested operations a record carries the contexts of the open objects
from the outermost inwards and its own context behind them, and of a repeated key the last value.
Where nothing is open it carries its own context alone.  Leaving the innermost open object
restores the scope that held before it was entered, and leaving an object that is not open
changes nothing, then or later. -/
theorem contextOf_after {ops : List ScopeOperation} {b : Blocks}
    (hops : Blocks.empty.Nests ops b) :
    (∀ own, (after ops).contextOf own = Members.ofPairs (b.contexts ++ own)) ∧
      (∀ own key, ((after ops).contextOf own).get? key =
        (b.contexts ++ own).reverse.lookup key) ∧
      (b.opened = [] → (after ops).current = []) ∧
      (∀ (before body : List ScopeOperation) (name : String) (context : Members) (outer : Blocks),
        ops = before ++ .enter name :: body → Blocks.empty.Nests before outer →
          b.opened = (name, context) :: outer.opened →
            ((after ops).leave name).current = (after before).current) ∧
      ∀ name, ¬ b.IsOpen name →
        ∀ more, after (ops ++ .leave name :: more) = after (ops ++ more) := by
  have hkeeps := keeps_after hops
  have hcontext : ∀ own, (after ops).contextOf own = Members.ofPairs (b.contexts ++ own) := by
    intro own
    rw [contextOf, hkeeps.current, scopeOf_eq_ofPairs, Members.merge_ofPairs]
    rfl
  refine ⟨hcontext, ?_, ?_, ?_, ?_⟩
  · intro own key
    rw [hcontext, Members.get?_ofPairs]
  · intro hopened
    rw [hkeeps.current, hopened]
    rfl
  · intro before body name context outer _ hbefore hopened
    obtain ⟨objects, opened⟩ := b
    subst hopened
    rw [hkeeps.leave.current, (keeps_after hbefore).current]
  · intro name hclosed more
    rw [after_append, after_append, List.foldl_cons, perform, hkeeps.leave_eq hclosed]

/-- The first try of a request.  Its object is left before it is entered and twice after that. -/
def firstTry : List ScopeOperation :=
  [.create "request" [("action", .str "import"), ("path", .str "/import")],
    .create "try" [("action", .str "retry")], .leave "try", .enter "request", .enter "try",
    .leave "try", .leave "try"]

/-- In the second try the object is entered again. -/
theorem contextOf_after_secondTry :
    ∃ b, Blocks.empty.Nests (firstTry ++ [.enter "try"]) b ∧
      b.opened.map Prod.fst = ["try", "request"] ∧
      (after (firstTry ++ [.enter "try"])).contextOf [("count", .int 2)] =
        ([("action", .str "retry"), ("path", .str "/import"), ("count", .int 2)] : Members) ∧
      ((after (firstTry ++ [.enter "try"])).leave "try").current = (after firstTry).current ∧
      after (firstTry ++ [.enter "try"] ++ [.leave "other", .leave "try"]) =
        after (firstTry ++ [.enter "try"] ++ [.leave "try"]) := by
  have hfirst : Blocks.empty.Nests firstTry
      ⟨[("try", [("action", .str "retry")]),
          ("request", [("action", .str "import"), ("path", .str "/import")])],
        [("request", [("action", .str "import"), ("path", .str "/import")])]⟩ :=
    .cons (.create (by decide)) <| .cons (.create (by decide)) <| .cons (.stray (by decide)) <|
      .cons (.enter rfl (by decide)) <| .cons (.enter rfl (by decide)) <| .cons .leave <|
        .cons (.stray (by decide)) .nil
  have hsecond : Blocks.empty.Nests (firstTry ++ [.enter "try"]) _ :=
    hfirst.append (.cons (.enter rfl (by decide)) .nil)
  obtain ⟨hcontext, -, -, hrestore, hstray⟩ := contextOf_after hsecond
  exact ⟨_, hsecond, rfl, (hcontext _).trans (by decide),
    hrestore firstTry [] "try" _ _ rfl hfirst rfl, hstray "other" (by decide) [.leave "try"]⟩

end ScopeState

end Log

end WorkflowEngine
