import DeferredJobs.Json.Basic
import DeferredJobs.Proofs.Entries

/-!
# Values that a text can hold without loss

A text keeps a value if the names of every object ascend (`Json.Ordered`), if its numbers are
integers (`Json.Integral`), and if its containers do not nest too deep (`Json.depth`). `Storable`
says all three. Objects are built by insertion, so what matters is that an insertion keeps them
storable: `Object.Storable.insert`.

* `storable_object_iff`: an object is storable if its names ascend and its values are.
-/

namespace DeferredJobs

namespace Json

mutual

/-- No double occurs at any level. -/
def Integral : Json → Prop
  | .double _ => False
  | .null | .bool _ | .int _ | .string _ => True
  | .array items => IntegralItems items
  | .object members => IntegralMembers members

def IntegralItems : List Json → Prop
  | [] => True
  | item :: rest => item.Integral ∧ IntegralItems rest

def IntegralMembers : List (String × Json) → Prop
  | [] => True
  | (_, value) :: rest => value.Integral ∧ IntegralMembers rest

end

theorem orderedItems_iff {items : List Json} :
    OrderedItems items ↔ ∀ item ∈ items, item.Ordered := by
  induction items with
  | nil => simp [OrderedItems]
  | cons item items ih => simp [OrderedItems, ih]

theorem orderedMembers_iff {members : List (String × Json)} :
    OrderedMembers members ↔ ∀ member ∈ members, member.2.Ordered := by
  induction members with
  | nil => simp [OrderedMembers]
  | cons member members ih => simp [OrderedMembers, ih]

theorem integralItems_iff {items : List Json} :
    IntegralItems items ↔ ∀ item ∈ items, item.Integral := by
  induction items with
  | nil => simp [IntegralItems]
  | cons item items ih => simp [IntegralItems, ih]

theorem integralMembers_iff {members : List (String × Json)} :
    IntegralMembers members ↔ ∀ member ∈ members, member.2.Integral := by
  induction members with
  | nil => simp [IntegralMembers]
  | cons member members ih => simp [IntegralMembers, ih]

theorem depthItems_le_iff {items : List Json} {bound : Nat} :
    depthItems items ≤ bound ↔ ∀ item ∈ items, item.depth ≤ bound := by
  induction items with
  | nil => simp [depthItems]
  | cons item items ih =>
    rw [depthItems, Nat.max_le, ih]
    simp

theorem depthMembers_le_iff {members : List (String × Json)} {bound : Nat} :
    depthMembers members ≤ bound ↔ ∀ member ∈ members, member.2.depth ≤ bound := by
  induction members with
  | nil => simp [depthMembers]
  | cons member members ih =>
    rw [depthMembers, Nat.max_le, ih]
    simp

/-- A text keeps the value, and its containers nest at most `bound` deep. -/
structure Storable (bound : Nat) (v : Json) : Prop where
  ordered : v.Ordered
  integral : v.Integral
  depth_le : v.depth ≤ bound

theorem storable_null (bound : Nat) : Json.null.Storable bound :=
  ⟨trivial, trivial, Nat.zero_le _⟩

theorem storable_bool (bound : Nat) (value : Bool) : (Json.bool value).Storable bound :=
  ⟨trivial, trivial, Nat.zero_le _⟩

theorem storable_int (bound : Nat) (n : Integer) : (Json.int n).Storable bound :=
  ⟨trivial, trivial, Nat.zero_le _⟩

theorem storable_string (bound : Nat) (text : String) : (Json.string text).Storable bound :=
  ⟨trivial, trivial, Nat.zero_le _⟩

theorem storable_array_iff {bound : Nat} {items : List Json} :
    (Json.array items).Storable (bound + 1) ↔ ∀ item ∈ items, item.Storable bound := by
  constructor
  · rintro ⟨hOrdered, hIntegral, hDepth⟩ item hItem
    exact ⟨orderedItems_iff.1 hOrdered item hItem, integralItems_iff.1 hIntegral item hItem,
      depthItems_le_iff.1 (Nat.le_of_succ_le_succ hDepth) item hItem⟩
  · intro h
    exact ⟨orderedItems_iff.2 fun item hItem => (h item hItem).ordered,
      integralItems_iff.2 fun item hItem => (h item hItem).integral,
      Nat.succ_le_succ (depthItems_le_iff.2 fun item hItem => (h item hItem).depth_le)⟩

theorem storable_object_iff {bound : Nat} {members : List (String × Json)} :
    (Json.object members).Storable (bound + 1) ↔
      Entries.Ascending members ∧ ∀ member ∈ members, member.2.Storable bound := by
  constructor
  · rintro ⟨⟨hAscending, hOrdered⟩, hIntegral, hDepth⟩
    refine ⟨hAscending, fun member hMember => ?_⟩
    exact ⟨orderedMembers_iff.1 hOrdered member hMember,
      integralMembers_iff.1 hIntegral member hMember,
      depthMembers_le_iff.1 (Nat.le_of_succ_le_succ hDepth) member hMember⟩
  · rintro ⟨hAscending, h⟩
    exact ⟨⟨hAscending, orderedMembers_iff.2 fun member hMember => (h member hMember).ordered⟩,
      integralMembers_iff.2 fun member hMember => (h member hMember).integral,
      Nat.succ_le_succ (depthMembers_le_iff.2 fun member hMember => (h member hMember).depth_le)⟩

end Json

namespace Object

theorem storable_empty (bound : Nat) : empty.toJson.Storable (bound + 1) :=
  Json.storable_object_iff.2 ⟨Entries.ascending_nil, fun _ h => absurd h List.not_mem_nil⟩

theorem storable_insert {bound : Nat} {o : Object} {value : Json}
    (h : o.toJson.Storable (bound + 1)) (hValue : value.Storable bound) (name : String) :
    (o.insert name value).toJson.Storable (bound + 1) := by
  obtain ⟨hAscending, hMembers⟩ := Json.storable_object_iff.1 h
  refine Json.storable_object_iff.2 ⟨Entries.ascending_insert hAscending name value, ?_⟩
  intro member hMember
  rcases Entries.mem_insert hMember with rfl | hOld
  · exact hValue
  · exact hMembers member hOld

/-- What is found in a storable object is storable one level less deep. -/
theorem storable_of_find? {bound : Nat} {o : Object} {name : String} {value : Json}
    (h : o.toJson.Storable (bound + 1)) (hFound : o.find? name = some value) :
    value.Storable bound :=
  (Json.storable_object_iff.1 h).2 (name, value) (Entries.mem_of_find? hFound)

end Object

end DeferredJobs
