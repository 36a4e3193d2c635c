import Mathlib.Data.List.Induction
import Mathlib.Data.List.Sort
import DeferredJobs.Entries

/-!
# Entries written one after the other

Entries in ascending order are determined by what is found under each name. What is written last
under a name is found there, so writes under different names change places freely.

* `eq_of_find?_eq`: entries that ascend and answer alike are the same.
* `ofList_of_ascending`: entries in ascending order are what they are inserted to.
* `find?_ofList_eq_some_iff`, `mem_names_ofList`: what is found after any writes.
* `ofList_eq_of_sameByName`: writes in another order.
-/

namespace DeferredJobs.Entries

variable {α : Type u}

/-! ## Names and values -/

theorem contains_iff_mem_names {entries : Entries α} {name : String} :
    entries.contains name ↔ name ∈ entries.names := by
  induction entries with
  | nil => simp [contains, names]
  | cons entry rest ih =>
    obtain ⟨other, value⟩ := entry
    rw [contains, names] at ih
    rw [contains, names, find?_cons, List.map_cons, List.mem_cons, ← ih]
    split
    · simp [*]
    · simp [*]

theorem ascending_names {entries : Entries α} (h : entries.Ascending) :
    entries.names.Pairwise (· < ·) :=
  List.pairwise_map.2 h

theorem mem_of_find? {entries : Entries α} {name : String} {value : α}
    (h : entries.find? name = some value) : (name, value) ∈ entries := by
  induction entries with
  | nil => cases h
  | cons head rest ih =>
    obtain ⟨other, previous⟩ := head
    rw [find?_cons] at h
    split at h
    · rename_i hName
      cases h
      rw [hName]
      exact List.mem_cons_self
    · exact List.mem_cons_of_mem _ (ih h)

/-- In ascending entries every entry is the one that is found under its name. -/
theorem mem_iff_find? {entries : Entries α} (h : entries.Ascending) {name : String} {value : α} :
    (name, value) ∈ entries ↔ entries.find? name = some value := by
  refine ⟨fun hMem => ?_, mem_of_find?⟩
  induction entries with
  | nil => cases hMem
  | cons head rest ih =>
    obtain ⟨hAbove, hRest⟩ := List.pairwise_cons.1 h
    rw [find?_cons]
    rcases List.mem_cons.1 hMem with rfl | hMem
    · rw [if_pos rfl]
    · have hLess : head.1 < name := hAbove (name, value) hMem
      rw [if_neg fun hSame : name = head.1 => String.lt_irrefl _ (hSame ▸ hLess), ih hRest hMem]

theorem eq_of_find?_eq {entries others : Entries α} (h : entries.Ascending)
    (hOthers : others.Ascending) (hFound : ∀ name, entries.find? name = others.find? name) :
    entries = others := by
  have hIrreflexive : Std.Irrefl fun a b : String × α => a.1 < b.1 :=
    ⟨fun a => String.lt_irrefl a.1⟩
  have hAntisymmetric : Std.Antisymm fun a b : String × α => a.1 < b.1 :=
    ⟨fun _ _ hLess hMore => absurd (String.lt_trans hLess hMore) (String.lt_irrefl _)⟩
  refine List.Pairwise.eq_of_mem_iff h hOthers fun entry => ?_
  rw [mem_iff_find? h, mem_iff_find? hOthers, hFound]

/-! ## Insertion -/

theorem mem_insert {entries : Entries α} {name : String} {value : α} {entry : String × α}
    (h : entry ∈ insert entries name value) : entry = (name, value) ∨ entry ∈ entries := by
  induction entries with
  | nil => exact Or.inl (List.mem_singleton.1 h)
  | cons head rest ih =>
    obtain ⟨other, previous⟩ := head
    unfold insert at h
    split at h
    · rcases List.mem_cons.1 h with rfl | hRest
      · exact Or.inl rfl
      · exact Or.inr (List.mem_cons_of_mem _ hRest)
    · split at h
      · exact List.mem_cons.1 h
      · rcases List.mem_cons.1 h with rfl | hRest
        · exact Or.inr List.mem_cons_self
        · exact (ih hRest).imp_right (List.mem_cons_of_mem _)

/-- A name above all others is inserted at the end. -/
theorem insert_of_above {entries : Entries α} {name : String}
    (h : ∀ entry ∈ entries, entry.1 < name) (value : α) :
    insert entries name value = entries ++ [(name, value)] := by
  induction entries with
  | nil => rfl
  | cons head rest ih =>
    obtain ⟨other, previous⟩ := head
    have hBelow : other < name := h _ List.mem_cons_self
    have hNotLess : ¬ name < other := fun hLess => String.lt_irrefl _ (String.lt_trans hBelow hLess)
    have hNotEqual : name ≠ other := fun hEqual => String.lt_irrefl _ (hEqual ▸ hBelow)
    rw [insert, if_neg hNotEqual, if_neg hNotLess, List.cons_append,
      ih fun entry hEntry => h entry (List.mem_cons_of_mem _ hEntry)]

/-! ## Writes in order -/

theorem ofList_concat (entries : List (String × α)) (name : String) (value : α) :
    ofList (entries ++ [(name, value)]) = insert (ofList entries) name value := by
  rw [ofList, List.foldl_append]
  rfl

/-- Entries in ascending order are what they are inserted to. -/
theorem ofList_of_ascending {entries : Entries α} (h : Ascending entries) :
    ofList entries = entries := by
  induction entries using List.reverseRecOn with
  | nil => rfl
  | append_singleton entries last ih =>
    obtain ⟨hEarlier, -, hAbove⟩ := List.pairwise_append.1 h
    rw [ofList_concat, ih hEarlier, insert_of_above]
    exact fun entry hEntry => hAbove entry hEntry last (List.mem_singleton_self last)

theorem ascending_ofList (entries : List (String × α)) : Ascending (ofList entries) := by
  induction entries using List.reverseRecOn with
  | nil => exact ascending_nil
  | append_singleton entries last ih =>
    rw [ofList_concat]
    exact ascending_insert ih _ _

theorem mem_ofList {entries : List (String × α)} {entry : String × α}
    (h : entry ∈ ofList entries) : entry ∈ entries := by
  induction entries using List.reverseRecOn with
  | nil => exact h
  | append_singleton entries last ih =>
    rw [ofList_concat] at h
    rcases mem_insert h with hLast | hEarlier
    · exact List.mem_append_right _ (List.mem_singleton.2 hLast)
    · exact List.mem_append_left _ (ih hEarlier)

variable {name : String} {value : α}

theorem find?_ofList_concat (entries : List (String × α)) (name other : String) (value : α) :
    find? (ofList (entries ++ [(other, value)])) name =
      if name = other then some value else find? (ofList entries) name := by
  rw [ofList_concat, find?_insert]

theorem find?_ofList_eq_some_iff {entries : List (String × α)} :
    find? (ofList entries) name = some value ↔
      ∃ before after, entries = before ++ (name, value) :: after ∧
        ∀ entry ∈ after, entry.1 ≠ name := by
  induction entries using List.reverseRecOn with
  | nil =>
    constructor
    · intro h
      cases h
    · rintro ⟨before, after, hEntries, -⟩
      cases before <;> cases hEntries
  | append_singleton entries last ih =>
    obtain ⟨other, final⟩ := last
    rw [find?_ofList_concat]
    constructor
    · intro h
      split at h
      · rename_i hName
        cases h
        exact ⟨entries, [], by rw [hName], nofun⟩
      · rename_i hName
        obtain ⟨before, after, rfl, hAfter⟩ := ih.1 h
        refine ⟨before, after ++ [(other, final)], by rw [List.append_assoc]; rfl, ?_⟩
        rw [List.forall_mem_append, List.forall_mem_singleton]
        exact ⟨hAfter, fun hSame => hName hSame.symm⟩
    · rintro ⟨before, after, hEntries, hAfter⟩
      rcases after.eq_nil_or_concat with rfl | ⟨after, next, rfl⟩
      · obtain ⟨-, hLast⟩ := List.append_inj' hEntries rfl
        cases hLast
        rw [if_pos rfl]
      · have hSplit : before ++ (name, value) :: (after ++ [next]) =
            (before ++ (name, value) :: after) ++ [next] := by
          rw [List.append_assoc, List.cons_append]
        rw [List.concat_eq_append] at hEntries hAfter
        rw [hSplit] at hEntries
        obtain ⟨hEarlier, hLast⟩ := List.append_inj' hEntries rfl
        cases hLast
        rw [List.forall_mem_append, List.forall_mem_singleton] at hAfter
        rw [if_neg (Ne.symm hAfter.2)]
        exact ih.2 ⟨before, after, hEarlier, hAfter.1⟩

theorem find?_ofList_eq_none_iff {entries : List (String × α)} :
    find? (ofList entries) name = none ↔ ∀ entry ∈ entries, entry.1 ≠ name := by
  induction entries using List.reverseRecOn with
  | nil => exact ⟨fun _ => nofun, fun _ => rfl⟩
  | append_singleton entries last ih =>
    rw [find?_ofList_concat, List.forall_mem_append, List.forall_mem_singleton, ← ih]
    split
    · rename_i hName
      exact ⟨nofun, fun h => absurd hName.symm h.2⟩
    · rename_i hName
      exact ⟨fun h => ⟨h, Ne.symm hName⟩, And.left⟩

theorem mem_names_ofList {entries : List (String × α)} :
    name ∈ (ofList entries).names ↔ ∃ entry ∈ entries, entry.1 = name := by
  rw [← contains_iff_mem_names, contains, Option.isSome_iff_ne_none, Ne,
    find?_ofList_eq_none_iff]
  simp

/-! ## Writes in another order -/

/-- Under each name the same is written in the same order. -/
def SameByName (xs ys : List (String × α)) : Prop :=
  ∀ name, xs.filter (·.1 = name) = ys.filter (·.1 = name)

theorem find?_ofList_eq (entries : List (String × α)) (name : String) :
    find? (ofList entries) name = ((entries.filter (·.1 = name)).getLast?).map Prod.snd := by
  induction entries using List.reverseRecOn with
  | nil => rfl
  | append_singleton entries last ih =>
    rw [find?_ofList_concat, List.filter_append, List.getLast?_append]
    split
    · rename_i hName
      simp [hName]
    · rename_i hName
      simp [Ne.symm hName, ih]

theorem ofList_eq_of_sameByName {xs ys : List (String × α)} (h : SameByName xs ys) :
    ofList xs = ofList ys := by
  refine eq_of_find?_eq (ascending_ofList xs) (ascending_ofList ys) fun name => ?_
  rw [find?_ofList_eq, find?_ofList_eq, h name]

end DeferredJobs.Entries
