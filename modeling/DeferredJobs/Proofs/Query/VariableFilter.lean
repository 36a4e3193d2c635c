import DeferredJobs.Proofs.Configuration.Demand
import DeferredJobs.Proofs.Configuration.Format
import DeferredJobs.Query.VariableFilter

/-!
# Filters on variables are read back

A filter is the one configuration that carries any JSON value. The value stands one level deep in
the object that is written, so of the depth that texts may have one container is spent on the filter
itself, and a value that could just be read on its own cannot be read as part of a filter.

* `Operator.ofName?_eq_some_iff`: which texts name an operator.
* `VariableFilter.read_write`, `VariableFilter.storable_write_iff`: filters as objects.
* `VariableFilter.decided`: what is demanded of an object.
* `VariableFilter.read_back_by_depth`: filters as texts, with all the above.
-/

namespace DeferredJobs.Query

open Object Demand

/-! ## Operators -/

theorem Operator.ofName?_eq_some_iff {name : String} {operator : Operator} :
    ofName? name = some operator ↔ operator.name = name := by
  constructor
  · intro h
    have hName := List.find?_some h
    exact eq_of_beq hName
  · rintro rfl
    exact ofName?_name operator

theorem Operator.ofName?_eq_none_iff {name : String} :
    ofName? name = none ↔ ∀ operator : Operator, operator.name ≠ name := by
  constructor
  · intro h operator hName
    rw [ofName?_eq_some_iff.2 hName] at h
    cases h
  · intro h
    cases hFound : ofName? name with
    | none => rfl
    | some operator => exact absurd (ofName?_eq_some_iff.1 hFound) (h operator)

namespace VariableFilter

variable {filter : VariableFilter} {o : Object} {bound : Nat}

/-! ## Writing -/

theorem find?_value_write (filter : VariableFilter) :
    (format.write filter).find? "value" = some filter.value := by
  simp [format, find?_insert]

theorem read_write (filter : VariableFilter) : format.read (format.write filter) = .ok filter := by
  have hOperator : (format.write filter).require .string "operator" = .ok filter.operator.name :=
    require_of_find? (by simp [format, FieldType.string])
  have hName : (format.write filter).require .string "name" = .ok filter.name :=
    require_of_find? (by simp [format, find?_insert, FieldType.string])
  have hTask : (format.write filter).flag "taskVariable" false = .ok filter.taskVariable :=
    flag_of_find? (by simp [format, find?_insert])
  have hProcess : (format.write filter).flag "processVariable" false = .ok filter.processVariable :=
    flag_of_find? (by simp [format, find?_insert])
  have hValue := find?_value_write filter
  generalize format.write filter = o at hOperator hName hTask hProcess hValue ⊢
  simp only [format, hOperator, hName, hTask, hProcess, hValue, ok_bind, Operator.ofName?_name,
    Option.getD_some]
  rfl

/-- A text can hold a filter one level deeper than its value. -/
theorem storable_write_iff :
    (format.write filter).toJson.Storable (bound + 1) ↔ filter.value.Storable bound := by
  constructor
  · intro h
    exact storable_of_find? h (find?_value_write filter)
  · intro h
    have hName := storable_putString (storable_empty bound) "name" filter.name
    have hValue := storable_insert hName h "value"
    have hOperator := storable_putString hValue "operator" filter.operator.name
    have hTask := storable_putFlag hOperator "taskVariable" false filter.taskVariable
    exact storable_putFlag hTask "processVariable" false filter.processVariable

theorem parse_canonical (h : filter.value.Storable 126) (layout : Layout) :
    format.parse (format.canonical layout filter) = .ok filter := by
  rw [Format.parse_canonical_eq (storable_write_iff.2 h) layout]
  exact read_write filter

/-- A value that nests too deep for its filter is written to a text that no reader accepts. -/
theorem parse_canonical_of_deep (hOrdered : filter.value.Ordered)
    (hIntegral : filter.value.Integral) (hDeep : 126 < filter.value.depth) (layout : Layout) :
    format.parse (format.canonical layout filter) = .error .notJson := by
  -- The object is storable at the depth of the value, so that only the bound of texts stands against it.
  have hStorable : (format.write filter).toJson.Storable (filter.value.depth + 1) :=
    storable_write_iff.2 ⟨hOrdered, hIntegral, Nat.le_refl _⟩
  have hDepth : Json.maxDepth < (format.write filter).toJson.depth := by
    by_contra hShallow
    have hBound : (format.write filter).toJson.Storable (126 + 1) :=
      ⟨hStorable.ordered, hStorable.integral, Nat.not_lt.1 hShallow⟩
    have hValue := (storable_write_iff.1 hBound).depth_le
    omega
  have hText := parse_text_of_deep hStorable.ordered hStorable.integral hDepth layout
  rw [Format.parse, Format.canonical, hText]
  rfl

/-! ## Reading -/

/-- The text of the operator names one. -/
def knownOperator : Demand where
  Met o := ∃ operator : Operator, o.find? "operator" = some (.string operator.name)
  Fault o e :=
    ∃ text, o.find? "operator" = some (.string text) ∧
      (∀ operator : Operator, operator.name ≠ text) ∧ e = .invalidValue "operator" text

/-- That the operator is a text comes before the name, and which text it is after it. -/
def demand : Demand :=
  .all [field .string "operator", field .string "name", knownOperator, flag "taskVariable",
    flag "processVariable"]

/-- The operator of a name. -/
def operatorNamed (text : String) : Except ConfigurationError Operator :=
  match Operator.ofName? text with
  | some operator => .ok operator
  | none => .error (.invalidValue "operator" text)

theorem operatorNamed_ok_iff {text : String} {operator : Operator} :
    operatorNamed text = .ok operator ↔ operator.name = text := by
  rw [operatorNamed, ← Operator.ofName?_eq_some_iff]
  cases Operator.ofName? text <;> simp

theorem operatorNamed_error_iff {text : String} {e : ConfigurationError} :
    operatorNamed text = .error e ↔
      (∀ operator : Operator, operator.name ≠ text) ∧ e = .invalidValue "operator" text := by
  rw [operatorNamed, ← Operator.ofName?_eq_none_iff]
  cases Operator.ofName? text <;> simp [eq_comm]

theorem decided_knownOperator {text : String} (hFound : o.find? "operator" = some (.string text)) :
    knownOperator.Decided o (operatorNamed text) := by
  have hText {other : String} : o.find? "operator" = some (.string other) ↔ other = text := by
    rw [hFound]
    simp [eq_comm]
  constructor
  · simp only [operatorNamed_ok_iff, knownOperator, hText]
  · intro e
    simp only [operatorNamed_error_iff, knownOperator, hText, exists_eq_left]

theorem read_eq (o : Object) :
    format.read o = do
      let operatorName ← o.require .string "operator"
      let name ← o.require .string "name"
      let operator ← operatorNamed operatorName
      let taskVariable ← o.flag "taskVariable" false
      let processVariable ← o.flag "processVariable" false
      return ⟨name, (o.find? "value").getD .null, operator, taskVariable, processVariable⟩ := by
  simp only [format, operatorNamed]
  congr 1
  funext text
  congr 1
  funext name
  cases Operator.ofName? text <;> rfl

theorem decided (o : Object) : demand.Decided o (format.read o) := by
  rw [read_eq]
  refine .cons_of_ok (decided_field FieldType.exact_string o "operator") fun text hText => ?_
  have hFound := (require_ok_iff FieldType.exact_string).1 hText
  refine .cons (decided_field FieldType.exact_string o "name") fun name => ?_
  refine .cons (decided_knownOperator hFound) fun operator => ?_
  refine .cons (decided_flag o "taskVariable") fun taskVariable => ?_
  refine .cons (decided_flag o "processVariable") fun processVariable => ?_
  exact .nil _

theorem value_of_read (h : format.read o = .ok filter) :
    filter.value = (o.find? "value").getD .null := by
  rw [read_eq] at h
  obtain ⟨text, -, h⟩ := bind_eq_ok h
  obtain ⟨name, -, h⟩ := bind_eq_ok h
  obtain ⟨operator, -, h⟩ := bind_eq_ok h
  obtain ⟨taskVariable, -, h⟩ := bind_eq_ok h
  obtain ⟨processVariable, -, h⟩ := bind_eq_ok h
  cases h
  rfl

/-- No reader but that of the value looks at it. -/
theorem read_insert_null (h : o.find? "value" = none) :
    format.read (o.insert "value" .null) = format.read o := by
  simp [format, require, Object.flag, get?, find?_insert, h]

/-- Every filter is read back from its object. From its text it is read back exactly if its value
nests at most 126 deep, although a value of depth 127 can be read on its own. An object is read
exactly if it meets its demand, and else the first fault is told; a value that is absent counts as
null. -/
theorem read_back_by_depth :
    (∀ filter : VariableFilter, format.read (format.write filter) = .ok filter) ∧
    (∀ (filter : VariableFilter) (layout : Layout),
      filter.value.Ordered → filter.value.Integral →
      (filter.value.depth ≤ 126 → format.parse (format.canonical layout filter) = .ok filter) ∧
      (126 < filter.value.depth →
        format.parse (format.canonical layout filter) = .error .notJson) ∧
      (filter.value.depth = 127 →
        Json.ofText? (filter.value.text layout).toList = some filter.value)) ∧
    ∀ o : Object,
      demand.Decided o (format.read o) ∧
      (∀ filter, format.read o = .ok filter → filter.value = (o.find? "value").getD .null) ∧
      (o.find? "value" = none → format.read (o.insert "value" .null) = format.read o) := by
  refine ⟨read_write, ?_, ?_⟩
  · intro filter layout hOrdered hIntegral
    refine ⟨?_, ?_, ?_⟩
    · intro hDepth
      exact parse_canonical ⟨hOrdered, hIntegral, hDepth⟩ layout
    · intro hDeep
      exact parse_canonical_of_deep hOrdered hIntegral hDeep layout
    · intro hDepth
      have hText := Json.ofText?_write layout hOrdered hIntegral
      have hRead : filter.value.depth ≤ Json.maxDepth := Nat.le_of_eq hDepth
      rw [Json.text, String.toList_ofList, hText, if_pos hRead]
  · intro o
    refine ⟨decided o, ?_, read_insert_null⟩
    intro filter hRead
    exact value_of_read hRead

/-- Arrays in arrays, so many deep. -/
def nested : Nat → Json
  | 0 => .null
  | n + 1 => .array [nested n]

theorem depth_nested (n : Nat) : (nested n).depth = n := by
  induction n with
  | zero => rfl
  | succ n ih => simp [nested, Json.depth, Json.depthItems, ih]

theorem storable_nested (n : Nat) : (nested n).Storable n := by
  induction n with
  | zero => exact Json.storable_null 0
  | succ n ih =>
    refine Json.storable_array_iff.2 fun item hItem => ?_
    rw [List.mem_singleton.1 hItem]
    exact ih

/-- The last depth at which a filter is read back, and the next, at which its value still is. -/
theorem read_back_by_depth_nested :
    format.parse (format.canonical .indented ⟨"x", nested 126, .notLike, true, false⟩) =
      .ok ⟨"x", nested 126, .notLike, true, false⟩ ∧
    format.parse (format.canonical .compact ⟨"x", nested 127, .notLike, true, false⟩) =
      .error .notJson ∧
    Json.ofText? ((nested 127).text .compact).toList = some (nested 127) ∧
    format.read (Object.empty.put .string "name" "x" |>.put .string "operator" "LIKE"
      |>.insert "value" .null) =
      format.read (Object.empty.put .string "name" "x" |>.put .string "operator" "LIKE") := by
  obtain ⟨-, hText, hRead⟩ := read_back_by_depth
  have hLast := hText ⟨"x", nested 126, .notLike, true, false⟩ .indented
    (storable_nested 126).ordered (storable_nested 126).integral
  have hNext := hText ⟨"x", nested 127, .notLike, true, false⟩ .compact
    (storable_nested 127).ordered (storable_nested 127).integral
  have hDepth : 126 < (nested 127).depth := by
    rw [depth_nested]
    omega
  refine ⟨hLast.1 (storable_nested 126).depth_le, hNext.2.1 hDepth, ?_, ?_⟩
  · exact hNext.2.2 (depth_nested 127)
  · exact (hRead _).2.2 rfl

end VariableFilter

end DeferredJobs.Query
