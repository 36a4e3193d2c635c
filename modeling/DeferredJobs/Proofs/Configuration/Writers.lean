import DeferredJobs.Configuration.Format
import DeferredJobs.Proofs.Configuration.Field
import DeferredJobs.Proofs.Text.Encoding

/-!
# Objects after any writes

Eleven writers fill the fields of an object. Three of them may leave the object as it is: an optional
text that is missing, a flag at its default and a tenant that is not considered are not written. So a
call either writes its value under its name or does nothing, and what counts of any calls are the
values under each name, of which the last stays.

* `FieldWrite.apply_eq`: one call inserts its value or does nothing.
* `Object.members_ofCalls`: the object after any calls.
* `Object.reads_of_find?`, `Object.lacks_of_find?`: what the readers make of what is found.
* `Object.ofCalls_exact`: order, names and values after any calls.
-/

namespace DeferredJobs

/-! ## Calls -/

/-- The writers of fields with what they are given besides the name. -/
inductive FieldWrite where
  | string (value : String)
  | string? (value : Option String)
  | boolean (value : Bool)
  | flag (default value : Bool)
  | int32 (value : Int32)
  | uint32 (value : UInt32)
  | null
  | strings (values : List String)
  | array (items : List Json)
  | object (value : Object)
  | tenant (scope : TenantScope)

structure FieldCall where
  name : String
  write : FieldWrite

namespace FieldWrite

def apply (o : Object) (name : String) : FieldWrite → Object
  | string value => o.put .string name value
  | string? value => o.put? .string name value
  | boolean value => o.put .boolean name value
  | flag default value => o.putFlag name default value
  | int32 value => o.put .int32 name value
  | uint32 value => o.put .uint32 name value
  | null => o.insert name .null
  | strings values => o.putStrings name values
  | array items => o.put .array name items
  | object value => o.put .object name value
  | tenant scope => o.putTenant name scope

/-- Something is written. -/
def Effective : FieldWrite → Prop
  | string? none | tenant .notConsidered => False
  | flag default value => value ≠ default
  | _ => True

end FieldWrite

namespace Object

def call (o : Object) (call : FieldCall) : Object :=
  call.write.apply o call.name

/-- The object after calls one after the other. -/
def ofCalls (calls : List FieldCall) : Object :=
  calls.foldl Object.call empty

/-- The readers for what was written return it. -/
def Reads (o : Object) (name : String) : FieldWrite → Prop
  | .string value =>
    o.require .string name = .ok value ∧ o.get? .string name = .ok (some value) ∧
      o.tenant name = .ok (.tenant value)
  | .string? value => o.get? .string name = .ok value
  | .boolean value =>
    o.require .boolean name = .ok value ∧ ∀ default, o.flag name default = .ok value
  | .flag _ value => ∀ default, o.flag name default = .ok value
  | .int32 value => o.require .int32 name = .ok value
  | .uint32 value => o.require .uint32 name = .ok value ∧ o.get? .uint32 name = .ok (some value)
  | .null => o.tenant name = .ok .withoutTenant ∧ o.get? .string name = .ok none
  | .strings values => o.requireStrings name = .ok values
  | .array items => o.require .array name = .ok items ∧ o.get? .array name = .ok (some items)
  | .object value => o.require .object name = .ok value
  | .tenant scope => o.tenant name = .ok scope

/-- No reader finds anything under the name. -/
structure Lacks (o : Object) (name : String) : Prop where
  contains : o.contains name = false
  require : ∀ {α : Type} (type : FieldType α), o.require type name = .error (.missingField name)
  get? : ∀ {α : Type} (type : FieldType α), o.get? type name = .ok none
  flag : ∀ default, o.flag name default = .ok default
  requireStrings : o.requireStrings name = .error (.missingField name)
  tenant : o.tenant name = .ok .notConsidered

end Object

/-! ## One call -/

namespace FieldWrite

/-- The value that is written, if one is. -/
def value? : FieldWrite → Option Json
  | string value => some (.string value)
  | string? value => value.map .string
  | boolean value => some (.bool value)
  | flag default value => if value = default then none else some (.bool value)
  | int32 value => some (FieldType.int32.write value)
  | uint32 value => some (FieldType.uint32.write value)
  | null => some .null
  | strings values => some (.array (values.map .string))
  | array items => some (.array items)
  | object value => some value.toJson
  | tenant scope => Object.tenantValue? scope

theorem effective_iff {write : FieldWrite} : write.Effective ↔ ∃ value, write.value? = some value := by
  cases write with
  | string? value => cases value <;> simp [Effective, value?]
  | flag default value => simp [Effective, value?]
  | tenant scope => cases scope <;> simp [Effective, value?, Object.tenantValue?]
  | _ => exact iff_of_true trivial ⟨_, rfl⟩

theorem not_effective_iff {write : FieldWrite} : ¬ write.Effective ↔ write.value? = none := by
  rw [effective_iff, ← Option.isSome_iff_exists, Bool.not_eq_true, Option.isSome_eq_false_iff,
    Option.isNone_iff_eq_none]

theorem apply_eq (o : Object) (name : String) (write : FieldWrite) :
    write.apply o name = (write.value?.map (o.insert name)).getD o := by
  cases write with
  | string? value => cases value <;> rfl
  | flag default value =>
    rw [apply, value?, Object.putFlag]
    split <;> rfl
  | tenant scope => cases scope <;> rfl
  | _ => rfl

end FieldWrite

/-! ## Any calls -/

/-- The entry that a call writes, if it writes one. -/
def FieldCall.written? (call : FieldCall) : Option (String × Json) :=
  call.write.value?.map fun value => (call.name, value)

theorem FieldCall.written?_eq_some_iff {call : FieldCall} {name : String} {value : Json} :
    call.written? = some (name, value) ↔ call.name = name ∧ call.write.value? = some value := by
  simp only [written?, Option.map_eq_some_iff, Prod.mk.injEq]
  constructor
  · rintro ⟨found, hValue, rfl, rfl⟩
    exact ⟨rfl, hValue⟩
  · rintro ⟨rfl, hValue⟩
    exact ⟨value, hValue, rfl, rfl⟩

/-- Entries come from effective calls. -/
theorem FieldCall.exists_of_mem_written {calls : List FieldCall} {entry : String × Json}
    (h : entry ∈ calls.filterMap written?) :
    ∃ call ∈ calls, call.name = entry.1 ∧ call.write.Effective := by
  obtain ⟨call, hCall, hEntry⟩ := List.mem_filterMap.1 h
  obtain ⟨hName, hValue⟩ := written?_eq_some_iff.1 hEntry
  exact ⟨call, hCall, hName, FieldWrite.effective_iff.2 ⟨entry.2, hValue⟩⟩

namespace Object

theorem members_ofCalls (calls : List FieldCall) :
    (ofCalls calls).members = Entries.ofList (calls.filterMap FieldCall.written?) := by
  induction calls using List.reverseRecOn with
  | nil => rfl
  | append_singleton calls last ih =>
    have hStep : ofCalls (calls ++ [last]) = (ofCalls calls).call last := by
      rw [ofCalls, List.foldl_append]
      rfl
    rw [hStep, call, FieldWrite.apply_eq, List.filterMap_append]
    cases hValue : last.write.value? with
    | none => simp [FieldCall.written?, hValue, ih]
    | some value => simp [FieldCall.written?, hValue, insert, ih, Entries.ofList_concat]

variable {calls : List FieldCall} {name : String}

theorem mem_names_ofCalls :
    name ∈ (ofCalls calls).names ↔ ∃ call ∈ calls, call.name = name ∧ call.write.Effective := by
  rw [names, members_ofCalls, Entries.mem_names_ofList]
  constructor
  · rintro ⟨entry, hEntry, rfl⟩
    exact FieldCall.exists_of_mem_written hEntry
  · rintro ⟨call, hCall, rfl, hEffective⟩
    obtain ⟨value, hValue⟩ := FieldWrite.effective_iff.1 hEffective
    have hWritten : call.written? = some (call.name, value) :=
      FieldCall.written?_eq_some_iff.2 ⟨rfl, hValue⟩
    exact ⟨(call.name, value), List.mem_filterMap.2 ⟨call, hCall, hWritten⟩, rfl⟩

/-- The last effective call of a name leaves its value there. -/
theorem find?_of_last {before after : List FieldCall} {call : FieldCall} {value : Json}
    (hValue : call.write.value? = some value)
    (hLast : ∀ later ∈ after, later.name = call.name → ¬ later.write.Effective) :
    (ofCalls (before ++ call :: after)).find? call.name = some value := by
  rw [find?, members_ofCalls, Entries.find?_ofList_eq_some_iff]
  refine ⟨before.filterMap FieldCall.written?, after.filterMap FieldCall.written?, ?_, ?_⟩
  · have hEntry : call.written? = some (call.name, value) :=
      FieldCall.written?_eq_some_iff.2 ⟨rfl, hValue⟩
    rw [List.filterMap_append, List.filterMap_cons_some hEntry]
  · intro entry hMem hName
    obtain ⟨later, hLater, hSame, hEffective⟩ := FieldCall.exists_of_mem_written hMem
    exact hLast later hLater (hSame.trans hName) hEffective

/-- Ineffective calls leave no entry. -/
theorem find?_of_none (h : ∀ call ∈ calls, call.name = name → ¬ call.write.Effective) :
    (ofCalls calls).find? name = none := by
  rw [find?, members_ofCalls, Entries.find?_ofList_eq_none_iff]
  intro entry hMem hName
  obtain ⟨call, hCall, hSame, hEffective⟩ := FieldCall.exists_of_mem_written hMem
  exact h call hCall (hSame.trans hName) hEffective

theorem ofCalls_eq_of_sameByName {others : List FieldCall}
    (h : ∀ name, calls.filter (·.name = name) = others.filter (·.name = name)) :
    ofCalls calls = ofCalls others := by
  have hEntries (calls : List FieldCall) (name : String) :
      (calls.filterMap FieldCall.written?).filter (·.1 = name) =
        (calls.filter (·.name = name)).filterMap FieldCall.written? := by
    rw [List.filter_filterMap, List.filterMap_filter]
    congr 1
    funext call
    cases hValue : call.write.value? <;> simp [FieldCall.written?, hValue, Option.filter]
  have hMembers : (ofCalls calls).members = (ofCalls others).members := by
    rw [members_ofCalls, members_ofCalls]
    refine Entries.ofList_eq_of_sameByName fun name => ?_
    rw [hEntries, hEntries, h]
  exact congrArg Object.mk hMembers

/-! ## What readers return -/

variable {o : Object}

theorem flag_of_bool {value : Bool} (h : o.find? name = some (.bool value)) (default : Bool) :
    o.flag name default = .ok value := by
  have hFound : o.get? .boolean name = .ok (some value) := get?_of_find? h
  rw [flag, hFound]
  rfl

theorem get?_of_null {α : Type} {type : FieldType α} (h : o.find? name = some .null) :
    o.get? type name = .ok none := by
  simp only [get?, h]

theorem reads_of_find? {write : FieldWrite} {value : Json} (hValue : write.value? = some value)
    (hFound : o.find? name = some value) : o.Reads name write := by
  cases write with
  | string text =>
    cases hValue
    exact ⟨require_of_find? hFound, get?_of_find? hFound, tenant_of_find? hFound⟩
  | string? text =>
    rw [← hValue] at hFound
    exact get?_of_find? hFound
  | boolean flag =>
    cases hValue
    exact ⟨require_of_find? hFound, flag_of_bool hFound⟩
  | flag default flag =>
    rw [FieldWrite.value?] at hValue
    split at hValue
    · cases hValue
    · cases hValue
      exact flag_of_bool hFound
  | int32 n =>
    cases hValue
    exact require_of_find? hFound
  | uint32 n =>
    cases hValue
    exact ⟨require_of_find? hFound, get?_of_find? hFound⟩
  | null =>
    cases hValue
    exact ⟨tenant_of_find? hFound, get?_of_null hFound⟩
  | strings values =>
    cases hValue
    exact requireStrings_of_find? hFound
  | array items =>
    cases hValue
    exact ⟨require_of_find? hFound, get?_of_find? hFound⟩
  | object members =>
    cases hValue
    exact require_of_find? hFound
  | tenant scope =>
    rw [← hValue] at hFound
    exact tenant_of_find? hFound

theorem lacks_of_find? (h : o.find? name = none) : o.Lacks name where
  contains := by rw [contains_eq, h]; rfl
  require type := by rw [require, h]
  get? type := get?_of_find? h
  flag default := flag_of_find? (by rw [h]; simp)
  requireStrings := by rw [requireStrings, require, h]; rfl
  tenant := tenant_of_find? h

/-- After any calls the names are those with an effective call, in ascending order of their bytes.
The readers for the last effective call of a name return what it wrote, and a name without one is
read as absent. A call without effect leaves every object as it is, and calls of different names
change places without a trace. -/
theorem ofCalls_exact (calls : List FieldCall) :
    (ofCalls calls).names.Pairwise (fun a b => a.toUTF8.data.toList < b.toUTF8.data.toList) ∧
    (∀ name, name ∈ (ofCalls calls).names ↔
      ∃ call ∈ calls, call.name = name ∧ call.write.Effective) ∧
    (∀ before call after, calls = before ++ call :: after → call.write.Effective →
      (∀ later ∈ after, later.name = call.name → ¬ later.write.Effective) →
      (ofCalls calls).Reads call.name call.write) ∧
    (∀ name, (∀ call ∈ calls, call.name = name → ¬ call.write.Effective) →
      (ofCalls calls).Lacks name) ∧
    (∀ (o : Object) (call : FieldCall), ¬ call.write.Effective → o.call call = o) ∧
    ∀ others : List FieldCall,
      (∀ name, calls.filter (·.name = name) = others.filter (·.name = name)) →
      ofCalls others = ofCalls calls ∧
        ∀ layout, (ofCalls others).text layout = (ofCalls calls).text layout := by
  refine ⟨?_, fun name => mem_names_ofCalls, ?_, fun name h => lacks_of_find? (find?_of_none h),
    fun o call h => ?_, fun others h => ?_⟩
  · have hAscending : (ofCalls calls).members.Ascending := by
      rw [members_ofCalls]
      exact Entries.ascending_ofList _
    exact (Entries.ascending_names hAscending).imp fun hLess => Text.string_lt_iff.1 hLess
  · rintro before call after rfl hEffective hLast
    obtain ⟨value, hValue⟩ := FieldWrite.effective_iff.1 hEffective
    exact reads_of_find? hValue (find?_of_last hValue hLast)
  · rw [Object.call, FieldWrite.apply_eq, FieldWrite.not_effective_iff.1 h]
    rfl
  · have hSame : ofCalls others = ofCalls calls := (ofCalls_eq_of_sameByName h).symm
    exact ⟨hSame, fun layout => by rw [hSame]⟩

/-- The default of a flag does not take back what was written before. -/
example : ofCalls [⟨"b", .flag false true⟩, ⟨"a", .null⟩, ⟨"b", .flag false false⟩] =
    ⟨[("a", .null), ("b", .bool true)]⟩ := rfl

end Object

end DeferredJobs
