import DeferredJobs.Proofs.Json.Storable
import DeferredJobs.Tenant

/-!
# Fields of an object under construction

An object is written field by field. Each writer changes what is found under its own name and
nothing else, and each reader only depends on what is found under its name. So a reader returns
what was written as soon as the value found there is known, whatever was written around it.

* `find?_put`, `find?_put?`, `find?_putFlag`, `find?_putStrings`, `find?_putTenant`: what each
  writer leaves to be found.
* `require_of_find?` and its siblings: what each reader returns.
* `Integer.toInt32?_eq_some_iff`, `Integer.toUInt32?_eq_some_iff`: which integers are words.
* `FieldType.readAs_ok_iff`, `require_ok_iff`: and when it returns it.
* `Malformed.bind`, `require_malformed` and its siblings: what is read from fields is only refused as
  a malformed configuration.
* `get?_of_optional` and its siblings: a field that may be left out is read if it is of its type.
* `readItems_map`: a list is read back if its items are.
* `readItems_append`, `readItems_error_iff`: a list is read in order and at fault at its first faulty
  item.
-/

namespace DeferredJobs

variable {α : Type}

/-! ## Results -/

theorem ok_bind {ε β : Type} (a : α) (f : α → Except ε β) : (Except.ok a >>= f) = f a := rfl

theorem bind_eq_ok {ε β : Type} {x : Except ε α} {f : α → Except ε β} {b : β}
    (h : (x >>= f) = .ok b) : ∃ a, x = .ok a ∧ f a = .ok b := by
  cases x with
  | error e => cases h
  | ok a => exact ⟨a, rfl, h⟩

theorem bind_eq_error {ε β : Type} {x : Except ε α} {f : α → Except ε β} {e : ε}
    (h : (x >>= f) = .error e) : x = .error e ∨ ∃ a, x = .ok a ∧ f a = .error e := by
  cases x with
  | error found => exact .inl (congrArg _ (Except.error.inj h))
  | ok a => exact .inr ⟨a, rfl, h⟩

/-- So that what a text is read as can be evaluated. -/
instance decidableEqOk {ε : Type} [DecidableEq α] (x : Except ε α) (a : α) :
    Decidable (x = .ok a) :=
  match x with
  | .ok b => decidable_of_iff (b = a) ⟨congrArg _, Except.ok.inj⟩
  | .error _ => isFalse nofun

theorem readItems_cons (read : Nat → Json → Except ConfigurationError α) (start : Nat)
    (item : Json) (rest : List Json) :
    readItems read start (item :: rest) = do
      let a ← read start item
      let rest ← readItems read (start + 1) rest
      return a :: rest := by
  rw [readItems]
  cases read start item with
  | error e => rfl
  | ok a => cases readItems read (start + 1) rest <;> rfl

/-- Items that are each read back from what they are written to are read back as a list. -/
theorem readItems_map {read : Nat → Json → Except ConfigurationError α} (write : α → Json)
    (h : ∀ index a, read index (write a) = .ok a) (start : Nat) (values : List α) :
    readItems read start (values.map write) = .ok values := by
  induction values generalizing start with
  | nil => rfl
  | cons a values ih => simp only [List.map_cons, readItems, h, ih]

theorem exists_of_mem_readItems {read : Nat → Json → Except ConfigurationError α} {start : Nat}
    {items : List Json} {values : List α} (h : readItems read start items = .ok values) :
    ∀ item ∈ items, ∃ index a, read index item = .ok a := by
  induction items generalizing start values with
  | nil => exact nofun
  | cons item rest ih =>
    rw [readItems_cons] at h
    obtain ⟨a, hFirst, h⟩ := bind_eq_ok h
    obtain ⟨others, hRest, -⟩ := bind_eq_ok h
    exact List.forall_mem_cons.2 ⟨⟨start, a, hFirst⟩, ih hRest⟩

/-- Lists that are joined are read one after the other. -/
theorem readItems_append (read : Nat → Json → Except ConfigurationError α) (start : Nat)
    (before after : List Json) :
    readItems read start (before ++ after) = do
      let first ← readItems read start before
      let rest ← readItems read (start + before.length) after
      return first ++ rest := by
  induction before generalizing start with
  | nil =>
    rw [List.nil_append, List.length_nil, Nat.add_zero]
    cases readItems read start after <;> rfl
  | cons item before ih =>
    have hPlace : start + (item :: before).length = start + 1 + before.length := by
      rw [List.length_cons]
      omega
    rw [List.cons_append, readItems_cons, readItems_cons, ih, hPlace]
    simp only [bind_assoc, pure_bind, List.cons_append]

/-- The fault of a list is that of its first faulty item, whose position it can tell. -/
theorem readItems_error_iff {read : Nat → Json → Except ConfigurationError α} {start : Nat}
    {items : List Json} {e : ConfigurationError} :
    readItems read start items = .error e ↔
      ∃ before item after, items = before ++ item :: after ∧
        (∃ values, readItems read start before = .ok values) ∧
        read (start + before.length) item = .error e := by
  constructor
  · intro h
    induction items generalizing start with
    | nil => cases h
    | cons item rest ih =>
      rw [readItems_cons] at h
      rcases bind_eq_error h with hFirst | ⟨a, hFirst, h⟩
      · exact ⟨[], item, rest, rfl, ⟨[], rfl⟩, hFirst⟩
      · rcases bind_eq_error h with hRest | ⟨others, -, h⟩
        · obtain ⟨before, faulty, after, rfl, ⟨values, hBefore⟩, hFaulty⟩ := ih hRest
          refine ⟨item :: before, faulty, after, rfl, ⟨a :: values, ?_⟩, ?_⟩
          · rw [readItems_cons, hFirst, ok_bind, hBefore]
            rfl
          · rw [List.length_cons, Nat.add_comm before.length, ← Nat.add_assoc]
            exact hFaulty
        · cases h
  · rintro ⟨before, item, after, rfl, ⟨values, hBefore⟩, hItem⟩
    rw [readItems_append, hBefore, ok_bind, readItems_cons, hItem]
    rfl

/-! ## Malformed configurations -/

/-- Every fault is one of a malformed configuration. -/
def Malformed (x : Except ConfigurationError α) : Prop :=
  ∀ e, x = .error e → e.isMalformed

namespace Malformed

variable {β : Type} {x : Except ConfigurationError α}

theorem ok (a : α) : Malformed (.ok a) := nofun

theorem error {e : ConfigurationError} (h : e.isMalformed) :
    Malformed (.error e : Except ConfigurationError α) := by
  rintro _ ⟨⟩
  exact h

theorem bind {next : α → Except ConfigurationError β} (h : Malformed x)
    (hNext : ∀ a, Malformed (next a)) : Malformed (x >>= next) := by
  intro e hError
  rcases bind_eq_error hError with hFirst | ⟨a, -, hLater⟩
  · exact h e hFirst
  · exact hNext a e hLater

theorem map (h : Malformed x) (f : α → β) : Malformed (x.map f) := by
  cases x with
  | ok a => exact ok (f a)
  | error e => exact error (h e rfl)

theorem readItems {read : Nat → Json → Except ConfigurationError α}
    (h : ∀ index item, Malformed (read index item)) (start : Nat) (items : List Json) :
    Malformed (readItems read start items) := by
  intro e hError
  obtain ⟨before, item, after, -, -, hItem⟩ := readItems_error_iff.1 hError
  exact h _ item e hItem

end Malformed

theorem readAs_malformed {type : FieldType α} {field : String} {value : Json} :
    Malformed (type.readAs field value) := by
  rw [FieldType.readAs]
  split
  · exact .ok _
  · exact .error rfl

/-! ## Values of a type -/

/-- A signed word is read exactly from the integer that it is. -/
theorem Integer.toInt32?_eq_some_iff {n : Integer} {m : Int32} :
    n.toInt32? = some m ↔ n.value = m.toInt := by
  rw [toInt32?]
  have hLow := m.le_toInt
  have hHigh := m.toInt_lt
  constructor
  · intro h
    split at h
    · rename_i hRange
      cases h
      exact (Int32.toInt_ofInt_of_le hRange.1 hRange.2).symm
    · cases h
  · intro h
    rw [if_pos (by omega), h, Int32.ofInt_toInt]

theorem Integer.toUInt32?_eq_some_iff {n : Integer} {m : UInt32} :
    n.toUInt32? = some m ↔ n.value = m.toNat := by
  rw [toUInt32?]
  have hHigh := m.toNat_lt
  constructor
  · intro h
    split at h
    · rename_i hRange
      cases h
      rw [UInt32.toNat_ofNat_of_lt' (show n.value.toNat < 4294967296 by omega)]
      omega
    · cases h
  · intro h
    rw [if_pos (by omega), h, Int.toNat_natCast, UInt32.ofNat_toNat]

theorem Integer.eq_of_value_eq {n k : Integer} (h : n.value = k.value) : n = k := by
  obtain ⟨n, hLow, hHigh⟩ := n
  cases h
  rfl

theorem Integer.eq_ofInt32 {n : Integer} {m : Int32} (h : n.toInt32? = some m) : n = ofInt32 m :=
  eq_of_value_eq (toInt32?_eq_some_iff.1 h)

theorem Integer.eq_ofUInt32 {n : Integer} {m : UInt32} (h : n.toUInt32? = some m) :
    n = ofUInt32 m :=
  eq_of_value_eq (toUInt32?_eq_some_iff.1 h)

namespace FieldType

/-- Nothing is read but what is written. -/
def Exact (type : FieldType α) : Prop :=
  ∀ value a, type.read? value = some a → value = type.write a

theorem exact_string : string.Exact := by
  rintro (_ | _ | _ | _ | text | _ | _) a h <;> cases h
  rfl

theorem exact_boolean : boolean.Exact := by
  rintro (_ | b | _ | _ | _ | _ | _) a h <;> cases h
  rfl

theorem exact_array : array.Exact := by
  rintro (_ | _ | _ | _ | _ | items | _) a h <;> cases h
  rfl

theorem exact_object : object.Exact := by
  rintro (_ | _ | _ | _ | _ | _ | members) a h <;> cases h
  rfl

theorem exact_int32 : int32.Exact := by
  rintro (_ | _ | n | _ | _ | _ | _) a h
  case int => exact congrArg Json.int (Integer.eq_ofInt32 h)
  all_goals cases h

theorem exact_uint32 : uint32.Exact := by
  rintro (_ | _ | n | _ | _ | _ | _) a h
  case int => exact congrArg Json.int (Integer.eq_ofUInt32 h)
  all_goals cases h

theorem readAs_ok_iff {type : FieldType α} (hExact : type.Exact) {field : String} {value : Json}
    {a : α} : type.readAs field value = .ok a ↔ value = type.write a := by
  constructor
  · intro h
    rw [readAs] at h
    split at h
    · rename_i found hRead
      cases h
      exact hExact value _ hRead
    · cases h
  · rintro rfl
    rw [readAs, type.read_write]

end FieldType

namespace Object

variable {o : Object} {name : String}

theorem contains_eq (o : Object) (name : String) : o.contains name = (o.find? name).isSome := rfl

/-! ## What writers leave -/

section Writers

variable (o : Object) (name other : String)

@[simp] theorem find?_put (type : FieldType α) (value : α) :
    (o.put type name value).find? other =
      if other = name then some (type.write value) else o.find? other :=
  find?_insert o name other (type.write value)

@[simp] theorem find?_put? (type : FieldType α) (value : Option α) :
    (o.put? type name value).find? other =
      if other = name then (value.map type.write).or (o.find? other) else o.find? other := by
  cases value with
  | none => simp [put?]
  | some value => simp [put?, find?_put]

@[simp] theorem find?_putFlag (default value : Bool) :
    (o.putFlag name default value).find? other =
      if other = name ∧ value ≠ default then some (.bool value) else o.find? other := by
  unfold putFlag
  split
  · rename_i hDefault
    simp [hDefault]
  · rename_i hDefault
    simp [find?_put, hDefault, FieldType.boolean]

@[simp] theorem find?_putStrings (values : List String) :
    (o.putStrings name values).find? other =
      if other = name then some (.array (values.map .string)) else o.find? other :=
  find?_insert o name other _

/-- The value of a tenant field, if the field is written at all. -/
def tenantValue? : TenantScope → Option Json
  | .notConsidered => none
  | .withoutTenant => some .null
  | .tenant id => some (.string id)

@[simp] theorem find?_putTenant (scope : TenantScope) :
    (o.putTenant name scope).find? other =
      if other = name then (tenantValue? scope).or (o.find? other) else o.find? other := by
  cases scope <;> simp [putTenant, tenantValue?, find?_put, find?_insert, FieldType.string]

end Writers

/-! ## What readers return -/

theorem require_of_find? {type : FieldType α} {value : α}
    (h : o.find? name = some (type.write value)) : o.require type name = .ok value := by
  simp only [require, h, FieldType.readAs, type.read_write]

theorem require_ok_iff {type : FieldType α} (hExact : type.Exact) {a : α} :
    o.require type name = .ok a ↔ o.find? name = some (type.write a) := by
  rw [require]
  cases o.find? name with
  | none => simp
  | some value => simp [FieldType.readAs_ok_iff hExact]

theorem get?_of_find? {type : FieldType α} {value : Option α}
    (h : o.find? name = value.map type.write) : o.get? type name = .ok value := by
  cases value with
  | none =>
    have hAbsent : o.find? name = none := h
    simp only [get?, hAbsent]
  | some value =>
    have hRead := get?_put o type name value
    have hFound : (o.put type name value).find? name = o.find? name := by
      rw [find?_put, if_pos rfl]
      exact h.symm
    rw [get?, hFound] at hRead
    exact hRead

theorem flag_of_find? {default value : Bool}
    (h : o.find? name = if value ≠ default then some (.bool value) else none) :
    o.flag name default = .ok value := by
  by_cases hDefault : value = default
  · rw [if_neg (not_not_intro hDefault)] at h
    simp only [flag, get?, h, Except.map, Option.getD_none, hDefault]
  · rw [if_pos hDefault] at h
    simp only [flag, get?, h, FieldType.readAs, FieldType.boolean, Except.map, Option.getD_some]

theorem requireStrings_of_find? {values : List String}
    (h : o.find? name = some (.array (values.map .string))) :
    o.requireStrings name = .ok values := by
  have hArray : o.require .array name = .ok (values.map .string) := require_of_find? h
  rw [requireStrings, hArray]
  exact readItems_map .string (fun _ _ => rfl) 0 values

theorem tenant_of_find? {scope : TenantScope} (h : o.find? name = tenantValue? scope) :
    o.tenant name = .ok scope := by
  cases scope <;> simp only [tenant, h, tenantValue?]

/-! ## Faults of fields -/

theorem require_malformed {type : FieldType α} : Malformed (o.require type name) := by
  rw [require]
  split
  · exact .error rfl
  · exact readAs_malformed

theorem get?_malformed {type : FieldType α} : Malformed (o.get? type name) := by
  rw [get?]
  split
  · exact .ok none
  · exact .ok none
  · exact readAs_malformed.map some

theorem flag_malformed {default : Bool} : Malformed (o.flag name default) :=
  get?_malformed.map _

theorem requireStrings_malformed : Malformed (o.requireStrings name) :=
  require_malformed.bind fun items => .readItems (fun _ _ => readAs_malformed) 0 items

theorem tenant_malformed : Malformed (o.tenant name) := by
  rw [tenant]
  split
  · exact .ok _
  · exact .ok _
  · exact .ok _
  · exact .error rfl

/-! ## Fields that may be left out -/

/-- The field is absent, null, or of the type. -/
def Optional (o : Object) (type : FieldType α) (name : String) : Prop :=
  ∀ value ∈ o.find? name, value = .null ∨ (type.read? value).isSome

instance (o : Object) (type : FieldType α) (name : String) : Decidable (o.Optional type name) :=
  inferInstanceAs (Decidable (∀ value ∈ o.find? name, value = .null ∨ (type.read? value).isSome))

theorem get?_of_optional {type : FieldType α} (h : o.Optional type name) :
    ∃ a, o.get? type name = .ok a := by
  cases hFound : o.find? name with
  | none => exact ⟨none, by simp only [get?, hFound]⟩
  | some value =>
    rcases h value hFound with rfl | hSome
    · exact ⟨none, by simp only [get?, hFound]⟩
    · obtain ⟨a, hRead⟩ := Option.isSome_iff_exists.1 hSome
      refine ⟨some a, ?_⟩
      have hValue : value ≠ .null := by
        rintro rfl
        rw [type.read_null] at hRead
        cases hRead
      rw [get?, hFound]
      split
      · contradiction
      · cases ‹some value = some .null›
        exact absurd rfl hValue
      · cases ‹some value = some _›
        simp only [FieldType.readAs, hRead]
        rfl

theorem flag_of_optional {default : Bool} (h : o.Optional .boolean name) :
    ∃ value, o.flag name default = .ok value := by
  obtain ⟨value, hValue⟩ := get?_of_optional h
  exact ⟨value.getD default, by rw [flag, hValue]; rfl⟩

theorem tenant_of_optional (h : o.Optional .string name) :
    ∃ scope, o.tenant name = .ok scope := by
  cases hFound : o.find? name with
  | none => exact ⟨.notConsidered, by simp only [tenant, hFound]⟩
  | some value =>
    rcases h value hFound with rfl | hSome
    · exact ⟨.withoutTenant, by simp only [tenant, hFound]⟩
    · cases value with
      | string text => exact ⟨.tenant text, by simp only [tenant, hFound]⟩
      | _ => cases hSome

/-! ## Storable objects -/

section Storable

variable {bound : Nat}

theorem storable_put (h : o.toJson.Storable (bound + 1)) {type : FieldType α} {value : α}
    (hValue : (type.write value).Storable bound) (name : String) :
    (o.put type name value).toJson.Storable (bound + 1) :=
  storable_insert h hValue name

theorem storable_putString (h : o.toJson.Storable (bound + 1)) (name value : String) :
    (o.put .string name value).toJson.Storable (bound + 1) :=
  storable_put h (Json.storable_string bound value) name

theorem storable_putString? (h : o.toJson.Storable (bound + 1)) (name : String)
    (value : Option String) : (o.put? .string name value).toJson.Storable (bound + 1) := by
  cases value with
  | none => exact h
  | some value => exact storable_putString h name value

theorem storable_putFlag (h : o.toJson.Storable (bound + 1)) (name : String)
    (default value : Bool) : (o.putFlag name default value).toJson.Storable (bound + 1) := by
  unfold putFlag
  split
  · exact h
  · exact storable_put h (Json.storable_bool bound value) name

theorem storable_putStrings (h : o.toJson.Storable (bound + 2)) (name : String)
    (values : List String) : (o.putStrings name values).toJson.Storable (bound + 2) := by
  refine storable_insert h (Json.storable_array_iff.2 fun item hItem => ?_) name
  obtain ⟨text, -, rfl⟩ := List.mem_map.1 hItem
  exact Json.storable_string bound text

theorem storable_putTenant (h : o.toJson.Storable (bound + 1)) (name : String)
    (scope : TenantScope) : (o.putTenant name scope).toJson.Storable (bound + 1) := by
  cases scope with
  | notConsidered => exact h
  | withoutTenant => exact storable_insert h (Json.storable_null bound) name
  | tenant id => exact storable_putString h name id

end Storable

end Object

end DeferredJobs
