import DeferredJobs.Migration.Format
import DeferredJobs.Proofs.Configuration.Field

/-!
# What is demanded of an object

A `Demand` says when an object can be read and which faults it has otherwise, by what is found under
its names and without a reader. A reader decides a demand if it succeeds on the objects that meet it
and reports the faults of the others. Records demand their fields one after the other, so the fault
of a record is that of the first field that has one; and the fault of an array is that of its first
faulty item.

* `FieldType.exists_readAs_iff`, `FieldType.readAs_error_iff`: which values a type takes.
* `FieldType.readAs_bind_ok_iff`, `FieldType.readAs_bind_error_iff`: and what is made of them.
* `readItems_ok_iff`: lists, by their items.
* `Demand.Decided.cons_of_ok`, `Demand.Decided.cons`: records, field by field.
* `Demand.decided_field` and its siblings: the readers of fields.
* `Demand.decided_records`: arrays of records.
-/

namespace DeferredJobs

variable {α β : Type} {e : ConfigurationError}

/-! ## Values of a type -/

namespace FieldType

variable {type : FieldType α} {field : String} {value : Json}

/-- Some value of the type is written like this. -/
def Holds (type : FieldType α) (value : Json) : Prop :=
  ∃ a, value = type.write a

theorem exists_readAs_iff (hExact : type.Exact) :
    (∃ a, type.readAs field value = .ok a) ↔ type.Holds value :=
  exists_congr fun _ => readAs_ok_iff hExact

theorem readAs_error_iff (hExact : type.Exact) :
    type.readAs field value = .error e ↔ ¬ type.Holds value ∧ e = .wrongType field type.shape := by
  have hHolds : (∃ a, type.readAs field value = .ok a) ↔ type.Holds value :=
    exists_readAs_iff hExact
  rw [← hHolds, readAs]
  split
  · simp
  · simp [eq_comm]

/-- What is read from a value of a type decides the rest. -/
theorem readAs_bind_ok_iff (hExact : type.Exact) {next : α → Except ConfigurationError β} {b : β} :
    (type.readAs field value >>= next) = .ok b ↔ ∃ a, value = type.write a ∧ next a = .ok b := by
  constructor
  · intro h
    obtain ⟨a, hRead, hNext⟩ := bind_eq_ok h
    exact ⟨a, (readAs_ok_iff hExact).1 hRead, hNext⟩
  · rintro ⟨a, hValue, hNext⟩
    rw [(readAs_ok_iff hExact).2 hValue]
    exact hNext

theorem readAs_bind_error_iff (hExact : type.Exact) {next : α → Except ConfigurationError β} :
    (type.readAs field value >>= next) = .error e ↔
      ¬ type.Holds value ∧ e = .wrongType field type.shape ∨
        ∃ a, value = type.write a ∧ next a = .error e := by
  constructor
  · intro h
    rcases bind_eq_error h with hRead | ⟨a, hRead, hNext⟩
    · exact .inl ((readAs_error_iff hExact).1 hRead)
    · exact .inr ⟨a, (readAs_ok_iff hExact).1 hRead, hNext⟩
  · rintro (hFault | ⟨a, hValue, hNext⟩)
    · rw [(readAs_error_iff hExact).2 hFault]
      rfl
    · rw [(readAs_ok_iff hExact).2 hValue]
      exact hNext

end FieldType

/-! ## Lists -/

theorem readItems_ok_iff {read : Nat → Json → Except ConfigurationError α} {Item : Json → Prop}
    (hItem : ∀ index item, (∃ a, read index item = .ok a) ↔ Item item) (start : Nat)
    (items : List Json) :
    (∃ values, readItems read start items = .ok values) ↔ ∀ item ∈ items, Item item := by
  constructor
  · rintro ⟨values, h⟩ item hMem
    obtain ⟨index, hRead⟩ := exists_of_mem_readItems h item hMem
    exact (hItem index item).1 hRead
  · intro h
    induction items generalizing start with
    | nil => exact ⟨[], rfl⟩
    | cons item rest ih =>
      obtain ⟨hFirst, hRest⟩ := List.forall_mem_cons.1 h
      obtain ⟨a, hFirst⟩ := (hItem start item).2 hFirst
      obtain ⟨values, hRest⟩ := ih (start + 1) hRest
      refine ⟨a :: values, ?_⟩
      rw [readItems_cons, hFirst, ok_bind, hRest]
      rfl

/-! ## Demands -/

/-- When an object can be read, and the faults that it has otherwise. -/
structure Demand where
  Met : Object → Prop
  Fault : Object → ConfigurationError → Prop

namespace Demand

/-- A field that has to be there and to be of a type. -/
def field (type : FieldType α) (name : String) : Demand where
  Met o := ∃ value ∈ o.find? name, type.Holds value
  Fault o e :=
    o.find? name = none ∧ e = .missingField name ∨
      ∃ value ∈ o.find? name, ¬ type.Holds value ∧ e = .wrongType name type.shape

/-- A boolean that may be absent or null. -/
def flag (name : String) : Demand where
  Met o := ∀ value ∈ o.find? name, value = .null ∨ FieldType.boolean.Holds value
  Fault o e :=
    ∃ value ∈ o.find? name, value ≠ .null ∧ ¬ FieldType.boolean.Holds value ∧
      e = .wrongType name .boolean

/-- A field of a type that may be absent or null. -/
def optional (type : FieldType α) (name : String) : Demand where
  Met o := ∀ value ∈ o.find? name, value = .null ∨ type.Holds value
  Fault o e :=
    ∃ value ∈ o.find? name, value ≠ .null ∧ ¬ type.Holds value ∧ e = .wrongType name type.shape

theorem flag_eq_optional (name : String) : flag name = optional .boolean name := rfl

/-- A field of a type, with more demanded of what is in it. -/
def content (type : FieldType α) (name : String) (Inner : α → Prop)
    (InnerFault : α → ConfigurationError → Prop) : Demand where
  Met o := ∃ a, o.find? name = some (type.write a) ∧ Inner a
  Fault o e :=
    (field type name).Fault o e ∨ ∃ a, o.find? name = some (type.write a) ∧ InnerFault a e

/-- An object in a field. -/
def record (name : String) (inner : Demand) : Demand :=
  content .object name inner.Met inner.Fault

/-- An array with something demanded of each item. The first that is faulty decides. -/
def items (name : String) (Item : Json → Prop)
    (ItemFault : String → Json → ConfigurationError → Prop) : Demand :=
  content .array name (fun items => ∀ item ∈ items, Item item) fun items e =>
    ∃ before item after, items = before ++ item :: after ∧ (∀ earlier ∈ before, Item earlier) ∧
      ItemFault (elementName name before.length) item e

/-- An array of strings. -/
def strings (name : String) : Demand :=
  items name FieldType.string.Holds fun field item e =>
    ¬ FieldType.string.Holds item ∧ e = .wrongType field .string

/-- An array of objects. -/
def records (name : String) (inner : Demand) : Demand :=
  items name (fun item => ∃ i : Object, item = i.toJson ∧ inner.Met i) fun field item e =>
    ¬ FieldType.object.Holds item ∧ e = .wrongType field .object ∨
      ∃ i : Object, item = i.toJson ∧ inner.Fault i e

/-- An array that starts with a string. -/
def leadingString (name : String) : Demand :=
  content .array name (fun items => ∃ first ∈ items.head?, FieldType.string.Holds first)
    fun items e =>
      items = [] ∧ e = .invalidValue name "[]" ∨
        ∃ first ∈ items.head?, ¬ FieldType.string.Holds first ∧
          e = .wrongType (elementName name 0) .string

/-- Whatever a format can read. -/
def readable (format : Format α) : Demand where
  Met o := ∃ a, format.read o = .ok a
  Fault o e := format.read o = .error e

/-- One demand after the other: the first that is not met is at fault. -/
def all (demands : List Demand) : Demand where
  Met o := ∀ demand ∈ demands, demand.Met o
  Fault o e :=
    ∃ before demand after, demands = before ++ demand :: after ∧
      (∀ earlier ∈ before, earlier.Met o) ∧ demand.Fault o e

theorem fault_all_cons {first : Demand} {rest : List Demand} {o : Object} :
    (all (first :: rest)).Fault o e ↔ first.Fault o e ∨ first.Met o ∧ (all rest).Fault o e := by
  constructor
  · rintro ⟨before, demand, after, hDemands, hBefore, hFault⟩
    cases before with
    | nil =>
      cases hDemands
      exact .inl hFault
    | cons earlier before =>
      cases hDemands
      obtain ⟨hFirst, hBefore⟩ := List.forall_mem_cons.1 hBefore
      exact .inr ⟨hFirst, before, demand, after, rfl, hBefore, hFault⟩
  · rintro (hFault | ⟨hFirst, before, demand, after, rfl, hBefore, hFault⟩)
    · exact ⟨[], first, rest, rfl, nofun, hFault⟩
    · exact ⟨first :: before, demand, after, rfl, List.forall_mem_cons.2 ⟨hFirst, hBefore⟩, hFault⟩

theorem not_fault_all_nil {o : Object} : ¬ (all []).Fault o e := by
  rintro ⟨before, demand, after, hDemands, -⟩
  cases before <;> cases hDemands

/-! ## Readers that decide demands -/

/-- The result tells whether the object meets the demand, and which fault it has if not. -/
structure Decided (demand : Demand) (o : Object) (x : Except ConfigurationError α) : Prop where
  ok_iff : (∃ a, x = .ok a) ↔ demand.Met o
  error_iff : ∀ e, x = .error e ↔ demand.Fault o e

variable {o : Object} {name : String}

theorem decided_readable (format : Format α) (o : Object) :
    (readable format).Decided o (format.read o) where
  ok_iff := Iff.rfl
  error_iff _ := Iff.rfl

namespace Decided

variable {x : Except ConfigurationError α}

theorem nil (a : α) : (all []).Decided o (.ok a) where
  ok_iff := ⟨fun _ => nofun, fun _ => ⟨a, rfl⟩⟩
  error_iff _ := ⟨nofun, fun hFault => absurd hFault not_fault_all_nil⟩

/-- The rest of a record is read after its first field, and what was read there may count again. -/
theorem cons_of_ok {first : Demand} {rest : List Demand} {next : α → Except ConfigurationError β}
    (hFirst : first.Decided o x) (hRest : ∀ a, x = .ok a → (all rest).Decided o (next a)) :
    (all (first :: rest)).Decided o (x >>= next) where
  ok_iff := by
    refine Iff.trans ?_ List.forall_mem_cons.symm
    constructor
    · rintro ⟨b, h⟩
      obtain ⟨a, hx, hNext⟩ := bind_eq_ok h
      exact ⟨hFirst.ok_iff.1 ⟨a, hx⟩, (hRest a hx).ok_iff.1 ⟨b, hNext⟩⟩
    · rintro ⟨hMet, hMetRest⟩
      obtain ⟨a, rfl⟩ := hFirst.ok_iff.2 hMet
      exact (hRest a rfl).ok_iff.2 hMetRest
  error_iff e := by
    rw [fault_all_cons]
    constructor
    · intro h
      rcases bind_eq_error h with hx | ⟨a, hx, hNext⟩
      · exact .inl ((hFirst.error_iff e).1 hx)
      · exact .inr ⟨hFirst.ok_iff.1 ⟨a, hx⟩, ((hRest a hx).error_iff e).1 hNext⟩
    · rintro (hFault | ⟨hMet, hFaultRest⟩)
      · rw [(hFirst.error_iff e).2 hFault]
        rfl
      · obtain ⟨a, rfl⟩ := hFirst.ok_iff.2 hMet
        exact ((hRest a rfl).error_iff e).2 hFaultRest

/-- The rest of a record is read after its first field. -/
theorem cons {first : Demand} {rest : List Demand} {next : α → Except ConfigurationError β}
    (hFirst : first.Decided o x) (hRest : ∀ a, (all rest).Decided o (next a)) :
    (all (first :: rest)).Decided o (x >>= next) :=
  cons_of_ok hFirst fun a _ => hRest a

/-- What is made of a result decides nothing more. -/
theorem map {demand : Demand} (h : demand.Decided o x) (f : α → β) :
    demand.Decided o (x.map f) where
  ok_iff := by
    rw [← h.ok_iff]
    cases x with
    | error e => simp [Except.map]
    | ok a => simp [Except.map]
  error_iff e := by
    rw [← h.error_iff]
    cases x with
    | error e => simp [Except.map]
    | ok a => simp [Except.map]

end Decided

/-! ## Readers of fields -/

section Fields

variable {type : FieldType α}

theorem require_error_iff (hExact : type.Exact) :
    o.require type name = .error e ↔ (field type name).Fault o e := by
  unfold Object.require field
  dsimp only
  cases o.find? name with
  | none => simp [eq_comm]
  | some value => simp [FieldType.readAs_error_iff hExact]

theorem decided_field (hExact : type.Exact) (o : Object) (name : String) :
    (field type name).Decided o (o.require type name) where
  ok_iff := by
    simp only [Object.require_ok_iff hExact]
    constructor
    · rintro ⟨a, hFound⟩
      exact ⟨type.write a, hFound, a, rfl⟩
    · rintro ⟨-, hFound, a, rfl⟩
      exact ⟨a, hFound⟩
  error_iff _ := require_error_iff hExact

theorem skipped_or_exists (o : Object) (name : String) :
    (∀ value ∈ o.find? name, value = .null) ∨ ∃ value, o.find? name = some value ∧ value ≠ .null := by
  cases o.find? name with
  | none => exact .inl nofun
  | some value =>
    by_cases hNull : value = .null
    · exact .inl fun _ hFound => Option.some.inj hFound ▸ hNull
    · exact .inr ⟨value, rfl, hNull⟩

theorem get?_of_skipped (h : ∀ value ∈ o.find? name, value = .null) : o.get? type name = .ok none := by
  rw [Object.get?]
  cases hFound : o.find? name with
  | none => rfl
  | some value =>
    obtain rfl := h value hFound
    rfl

theorem get?_of_value {value : Json} (hFound : o.find? name = some value) (hNull : value ≠ .null) :
    o.get? type name = (type.readAs name value).map some := by
  rw [Object.get?, hFound]
  split
  · contradiction
  · cases ‹some value = some .null›
    exact absurd rfl hNull
  · cases ‹some value = some _›
    rfl

theorem get?_ok_iff (hExact : type.Exact) {a : α} :
    o.get? type name = .ok (some a) ↔ o.find? name = some (type.write a) := by
  constructor
  · intro h
    rcases skipped_or_exists o name with hSkipped | ⟨value, hFound, hNull⟩
    · rw [get?_of_skipped hSkipped] at h
      cases h
    · rw [get?_of_value hFound hNull] at h
      cases hRead : type.readAs name value with
      | error e =>
        rw [hRead] at h
        cases h
      | ok b =>
        rw [hRead] at h
        cases h
        rw [hFound, (FieldType.readAs_ok_iff hExact).1 hRead]
  · exact fun hFound => Object.get?_of_find? hFound

theorem decided_optional (hExact : type.Exact) (o : Object) (name : String) :
    (optional type name).Decided o (o.get? type name) := by
  rcases skipped_or_exists o name with hSkipped | ⟨value, hFound, hNull⟩
  · rw [get?_of_skipped hSkipped]
    refine ⟨⟨fun _ value hFound => .inl (hSkipped value hFound), fun _ => ⟨none, rfl⟩⟩, fun e => ?_⟩
    exact ⟨nofun, fun ⟨value, hFound, hNull, _⟩ => absurd (hSkipped value hFound) hNull⟩
  · have hField : (optional type name).Decided o (type.readAs name value) := by
      refine ⟨?_, fun e => ?_⟩
      · rw [FieldType.exists_readAs_iff hExact]
        simp [optional, hFound, hNull]
      · rw [FieldType.readAs_error_iff hExact]
        simp [optional, hFound, hNull]
    rw [get?_of_value hFound hNull]
    exact hField.map some

theorem decided_flag (o : Object) (name : String) :
    (flag name).Decided o (o.flag name false) := by
  rw [flag_eq_optional]
  exact (decided_optional FieldType.exact_boolean o name).map _

/-- A flag that is read as other than its default is there. -/
theorem find?_of_flag (h : o.flag name false = .ok true) : o.find? name = some (.bool true) := by
  cases hRead : o.get? .boolean name with
  | error e =>
    rw [Object.flag, hRead] at h
    cases h
  | ok value =>
    rw [Object.flag, hRead] at h
    cases value with
    | none => cases h
    | some value =>
      cases h
      exact (get?_ok_iff FieldType.exact_boolean).1 hRead

theorem decided_content (hExact : type.Exact) {Inner : α → Prop}
    {InnerFault : α → ConfigurationError → Prop} {read : α → Except ConfigurationError β}
    (hOk : ∀ a, (∃ b, read a = .ok b) ↔ Inner a)
    (hError : ∀ a e, read a = .error e ↔ InnerFault a e) (o : Object) (name : String) :
    (content type name Inner InnerFault).Decided o (o.require type name >>= read) where
  ok_iff := by
    constructor
    · rintro ⟨b, h⟩
      obtain ⟨a, hField, hRead⟩ := bind_eq_ok h
      exact ⟨a, (Object.require_ok_iff hExact).1 hField, (hOk a).1 ⟨b, hRead⟩⟩
    · rintro ⟨a, hFound, hInner⟩
      rw [Object.require_of_find? hFound]
      exact (hOk a).2 hInner
  error_iff e := by
    constructor
    · intro h
      rcases bind_eq_error h with hField | ⟨a, hField, hRead⟩
      · exact .inl ((require_error_iff hExact).1 hField)
      · exact .inr ⟨a, (Object.require_ok_iff hExact).1 hField, (hError a e).1 hRead⟩
    · rintro (hField | ⟨a, hFound, hInner⟩)
      · rw [(require_error_iff hExact).2 hField]
        rfl
      · rw [Object.require_of_find? hFound]
        exact (hError a e).2 hInner

theorem decided_record {inner : Demand} {read : Object → Except ConfigurationError α}
    (hInner : ∀ i, inner.Decided i (read i)) (o : Object) (name : String) :
    (record name inner).Decided o (o.require .object name >>= read) :=
  decided_content FieldType.exact_object (fun i => (hInner i).ok_iff)
    (fun i => (hInner i).error_iff) o name

theorem decided_items {Item : Json → Prop} {ItemFault : String → Json → ConfigurationError → Prop}
    {read : String → Json → Except ConfigurationError α}
    (hOk : ∀ field item, (∃ a, read field item = .ok a) ↔ Item item)
    (hError : ∀ field item e, read field item = .error e ↔ ItemFault field item e) (o : Object)
    (name : String) :
    (items name Item ItemFault).Decided o
      (o.require .array name >>= readItems (fun index => read (elementName name index)) 0) := by
  have hItem (index : Nat) := hOk (elementName name index)
  refine decided_content FieldType.exact_array (readItems_ok_iff hItem 0) (fun list e => ?_) o name
  simp only [readItems_error_iff, readItems_ok_iff hItem, hError, Nat.zero_add]

theorem decided_strings (o : Object) (name : String) :
    (strings name).Decided o (o.requireStrings name) := by
  have hOk (field : String) (item : Json) :
      (∃ text, FieldType.string.readAs field item = .ok text) ↔ FieldType.string.Holds item :=
    FieldType.exists_readAs_iff FieldType.exact_string
  exact decided_items hOk (fun _ _ _ => FieldType.readAs_error_iff FieldType.exact_string) o name

theorem decided_records {format : Format α} {inner : Demand}
    (hInner : ∀ i, inner.Decided i (format.read i)) (o : Object) (name : String) :
    (records name inner).Decided o (o.require .array name >>= format.readAll name) := by
  have hOk (field : String) (item : Json) :
      (∃ a, (FieldType.object.readAs field item >>= format.read) = .ok a) ↔
        ∃ i : Object, item = i.toJson ∧ inner.Met i := by
    simp only [FieldType.readAs_bind_ok_iff FieldType.exact_object]
    rw [exists_comm]
    refine exists_congr fun i => ?_
    rw [exists_and_left, (hInner i).ok_iff]
    rfl
  refine decided_items hOk (fun field item e => ?_) o name
  rw [FieldType.readAs_bind_error_iff FieldType.exact_object]
  refine or_congr Iff.rfl (exists_congr fun i => ?_)
  rw [(hInner i).error_iff]
  rfl

theorem decided_leadingString (o : Object) (name : String) :
    (leadingString name).Decided o (o.requireFirst name) := by
  refine decided_content FieldType.exact_array (fun list => ?_) (fun list e => ?_) o name
  · cases list with
    | nil => simp
    | cons first rest => simp [FieldType.readAs_ok_iff FieldType.exact_string, FieldType.Holds]
  · cases list with
    | nil => simp [eq_comm]
    | cons first rest =>
      have hFirst : FieldType.string.readAs (elementName name 0) first = .error e ↔
          ¬ FieldType.string.Holds first ∧ e = .wrongType (elementName name 0) .string :=
        FieldType.readAs_error_iff FieldType.exact_string
      simpa using hFirst

end Fields

end Demand

end DeferredJobs
