/-!
# Named entries in ascending order of name

The members of a JSON object and the handlers of a registry are lists of named entries. `insert`
keeps the names strictly ascending and replaces the entry of an equal name, so insertion order
never shows. Names are compared by code point. The laws of `find?` need no order and hold for
every list.
-/

namespace DeferredJobs

abbrev Entries (α : Type u) := List (String × α)

namespace Entries

variable {α : Type u}

def find? (entries : Entries α) (name : String) : Option α :=
  match entries with
  | [] => none
  | (other, value) :: rest => if name = other then some value else find? rest name

def insert (entries : Entries α) (name : String) (value : α) : Entries α :=
  match entries with
  | [] => [(name, value)]
  | (other, previous) :: rest =>
    if name = other then (name, value) :: rest
    else if name < other then (name, value) :: (other, previous) :: rest
    else (other, previous) :: insert rest name value

def names (entries : Entries α) : List String :=
  entries.map Prod.fst

def contains (entries : Entries α) (name : String) : Bool :=
  (entries.find? name).isSome

/-- The entries of a list written one after the other, the last of equal names winning. -/
def ofList (entries : List (String × α)) : Entries α :=
  entries.foldl (fun done (name, value) => insert done name value) []

/-- The names are strictly ascending. -/
def Ascending (entries : Entries α) : Prop :=
  entries.Pairwise fun a b => a.1 < b.1

@[simp] theorem find?_nil (name : String) : find? ([] : Entries α) name = none := rfl

theorem find?_cons (name other : String) (value : α) (rest : Entries α) :
    find? ((other, value) :: rest) name =
      if name = other then some value else find? rest name := rfl

/-- Insertion changes the entry of its own name and no other. -/
theorem find?_insert (entries : Entries α) (name other : String) (value : α) :
    find? (insert entries name value) other =
      if other = name then some value else find? entries other := by
  induction entries with
  | nil => simp [insert, find?]
  | cons entry rest ih =>
    obtain ⟨head, previous⟩ := entry
    by_cases equal : name = head
    · subst equal
      by_cases h : other = name <;> simp [insert, find?_cons, h]
    · by_cases less : name < head
      · by_cases h : other = name <;> simp [insert, equal, less, find?_cons, h]
      · by_cases h : other = name
        · subst h
          simp [insert, equal, less, find?_cons, ih]
        · simp [insert, equal, less, find?_cons, ih, h]

theorem mem_names_insert (entries : Entries α) (name other : String) (value : α) :
    other ∈ names (insert entries name value) ↔ other = name ∨ other ∈ names entries := by
  induction entries with
  | nil => simp [insert, names]
  | cons entry rest ih =>
    obtain ⟨head, previous⟩ := entry
    by_cases equal : name = head
    · subst equal
      simp [insert, names]
    · by_cases less : name < head
      · simp [insert, names, equal, less]
      · simp only [names] at ih
        simp only [insert, equal, less, names, ite_false, List.map_cons, List.mem_cons, ih]
        constructor <;> rintro (h | h | h) <;> simp [h]

theorem ascending_nil : Ascending ([] : Entries α) := List.Pairwise.nil

theorem ascending_insert {entries : Entries α} (h : Ascending entries) (name : String) (value : α) :
    Ascending (insert entries name value) := by
  induction entries with
  | nil => simp [insert, Ascending]
  | cons entry rest ih =>
    obtain ⟨head, previous⟩ := entry
    have ⟨above, tail⟩ := List.pairwise_cons.1 h
    by_cases equal : name = head
    · subst equal
      simp only [insert, ite_true]
      exact List.pairwise_cons.2 ⟨above, tail⟩
    · by_cases less : name < head
      · simp only [insert, equal, less, ite_false, ite_true]
        refine List.pairwise_cons.2 ⟨?_, h⟩
        intro other mem
        rcases List.mem_cons.1 mem with rfl | mem
        · exact less
        · exact String.lt_trans less (above other mem)
      · simp only [insert, equal, less, ite_false]
        refine List.pairwise_cons.2 ⟨?_, ih tail⟩
        intro other mem
        have inserted : other.1 ∈ names (insert rest name value) := List.mem_map_of_mem mem
        rcases (mem_names_insert rest name other.1 value).1 inserted with same | old
        · rw [same]
          exact (Std.lt_trichotomy name head).resolve_left less |>.resolve_left equal
        · obtain ⟨entry, entryMem, same⟩ := List.mem_map.1 old
          exact same ▸ above entry entryMem

end Entries

end DeferredJobs
