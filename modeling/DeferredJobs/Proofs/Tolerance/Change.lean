import DeferredJobs.Proofs.Configuration.Field
import DeferredJobs.Migration.Format

/-!
# Changes that readers tolerate

A record is described by the fields that its reader looks at, each with the role it plays. From
the roles follows what may happen to an object unnoticed: members under other names come and go, a
null takes the place of an absent optional field, a false that of an absent flag, an array of which
the first element counts alone grows at its end, and the same happens to records inside. `Change`
is one such step.

* `Object.Change.find?`: under each name of a record, a step leaves what it found or follows the
  role.
* `Object.Change.require` and its siblings: no reader of a field notices a step that its role
  allows.
* `Object.Change.requireRecords` and its siblings: where the role is a record, or an array of
  records, the step is one inside.
* `mapError_readAll`, `readAll_eq`: an array is read alike if the one element that differs is.
-/

namespace DeferredJobs

/-- What a field means to the reader of its record. -/
inductive Role where
  /-- The field counts as it stands. -/
  | exact
  /-- An array of which the first element counts alone. -/
  | leading
  /-- False is as good as absent. -/
  | flag
  | record (fields : List (String × Role))
  | records (fields : List (String × Role))
  /-- Null is as good as absent. -/
  | optional (role : Role)

mutual

/-- One change of what is found under a name with a role. -/
inductive Role.Change : Role → Option Json → Option Json → Prop
  | addNull (role : Role) : Role.Change (.optional role) none (some .null)
  | dropNull (role : Role) : Role.Change (.optional role) (some .null) none
  | within {role : Role} {before after : Option Json} (h : Role.Change role before after) :
    Role.Change (.optional role) before after
  | addFalse : Role.Change .flag none (some (.bool false))
  | dropFalse : Role.Change .flag (some (.bool false)) none
  | extend (first : Json) (rest more : List Json) :
    Role.Change .leading (some (.array (first :: rest))) (some (.array (first :: (rest ++ more))))
  | record {fields : List (String × Role)} {inner inner' : Object}
    (h : Object.Change fields inner inner') :
    Role.Change (.record fields) (some inner.toJson) (some inner'.toJson)
  | element {fields : List (String × Role)} {inner inner' : Object} (before after : List Json)
    (h : Object.Change fields inner inner') :
    Role.Change (.records fields) (some (.array (before ++ inner.toJson :: after)))
      (some (.array (before ++ inner'.toJson :: after)))

/-- One change of an object whose fields have these roles: anything under a name without a role, or
what the role allows. -/
inductive Object.Change : List (String × Role) → Object → Object → Prop
  | unread {fields : List (String × Role)} {o o' : Object} (name : String)
    (hUnread : Entries.find? fields name = none)
    (hRest : ∀ other, other ≠ name → o'.find? other = o.find? other) : Object.Change fields o o'
  | field {fields : List (String × Role)} {o o' : Object} (name : String) (role : Role)
    (hRole : Entries.find? fields name = some role)
    (hChange : Role.Change role (o.find? name) (o'.find? name))
    (hRest : ∀ other, other ≠ name → o'.find? other = o.find? other) : Object.Change fields o o'

end

namespace Object.Change

variable {fields inner : List (String × Role)} {o o' : Object} {α : Type}

/-! ## Fields -/

/-- Under each name of a record, a step leaves what it found or follows the role. -/
theorem find? (h : Object.Change fields o o') {name : String} {role : Role}
    (hRole : Entries.find? fields name = some role) :
    o'.find? name = o.find? name ∨ role.Change (o.find? name) (o'.find? name) := by
  cases h with
  | unread changed hUnread hRest =>
    refine .inl (hRest name ?_)
    rintro rfl
    rw [hUnread] at hRole
    cases hRole
  | field changed found hFound hChange hRest =>
    by_cases hName : name = changed
    · subst hName
      rw [hFound] at hRole
      cases hRole
      exact .inr hChange
    · exact .inl (hRest name hName)

theorem find?_exact (h : Object.Change fields o o') (name : String)
    (hRole : Entries.find? fields name = some .exact) : o'.find? name = o.find? name := by
  rcases h.find? hRole with hSame | hChange
  · exact hSame
  · cases hChange

theorem contains (h : Object.Change fields o o') (name : String)
    (hRole : Entries.find? fields name = some .exact) : o'.contains name = o.contains name := by
  have hFind : Entries.find? o'.members name = Entries.find? o.members name :=
    h.find?_exact name hRole
  rw [Object.contains, Object.contains, Entries.contains, Entries.contains, hFind]

theorem require (h : Object.Change fields o o') (type : FieldType α) (name : String)
    (hRole : Entries.find? fields name = some .exact) :
    o'.require type name = o.require type name := by
  rw [Object.require, Object.require, h.find?_exact name hRole]

theorem requireStrings (h : Object.Change fields o o') (name : String)
    (hRole : Entries.find? fields name = some .exact) :
    o'.requireStrings name = o.requireStrings name := by
  rw [Object.requireStrings, Object.requireStrings, h.require .array name hRole]

theorem tenant (h : Object.Change fields o o') (name : String)
    (hRole : Entries.find? fields name = some .exact) : o'.tenant name = o.tenant name := by
  rw [Object.tenant, Object.tenant, h.find?_exact name hRole]

theorem get? (h : Object.Change fields o o') (type : FieldType α) (name : String)
    (hRole : Entries.find? fields name = some (.optional .exact)) :
    o'.get? type name = o.get? type name := by
  rcases h.find? hRole with hSame | hChange
  · rw [Object.get?, Object.get?, hSame]
  · generalize hBefore : o.find? name = before at hChange
    generalize hAfter : o'.find? name = after at hChange
    cases hChange with
    | addNull role => simp only [Object.get?, hBefore, hAfter]
    | dropNull role => simp only [Object.get?, hBefore, hAfter]
    | within hWithin => cases hWithin

/-- An optional field whose absence reads as null. -/
theorem getD_null (h : Object.Change fields o o') (name : String)
    (hRole : Entries.find? fields name = some (.optional .exact)) :
    (o'.find? name).getD .null = (o.find? name).getD .null := by
  rcases h.find? hRole with hSame | hChange
  · rw [hSame]
  · generalize o.find? name = before at hChange
    generalize o'.find? name = after at hChange
    cases hChange with
    | addNull role => rfl
    | dropNull role => rfl
    | within hWithin => cases hWithin

theorem flag (h : Object.Change fields o o') (name : String)
    (hRole : Entries.find? fields name = some (.optional .flag)) :
    o'.flag name false = o.flag name false := by
  rcases h.find? hRole with hSame | hChange
  · rw [Object.flag, Object.flag, Object.get?, Object.get?, hSame]
  · generalize hBefore : o.find? name = before at hChange
    generalize hAfter : o'.find? name = after at hChange
    rw [Object.flag, Object.flag, Object.get?, Object.get?, hBefore, hAfter]
    cases hChange with
    | addNull role => rfl
    | dropNull role => rfl
    | within hWithin =>
      cases hWithin with
      | addFalse => rfl
      | dropFalse => rfl

theorem requireFirst (h : Object.Change fields o o') (name : String)
    (hRole : Entries.find? fields name = some .leading) :
    o'.requireFirst name = o.requireFirst name := by
  rcases h.find? hRole with hSame | hChange
  · rw [Object.requireFirst, Object.requireFirst, Object.require, Object.require, hSame]
  · generalize hBefore : o.find? name = before at hChange
    generalize hAfter : o'.find? name = after at hChange
    rw [Object.requireFirst, Object.requireFirst, Object.require, Object.require, hBefore, hAfter]
    cases hChange with
    | extend first rest more => rfl

/-! ## Records inside -/

theorem requireRecord (h : Object.Change fields o o') (name : String)
    (hRole : Entries.find? fields name = some (.record inner)) :
    o'.require .object name = o.require .object name ∨
      ∃ i i', Object.Change inner i i' ∧ o.require .object name = .ok i ∧
        o'.require .object name = .ok i' := by
  rcases h.find? hRole with hSame | hChange
  · left
    rw [Object.require, Object.require, hSame]
  · right
    generalize hBefore : o.find? name = before at hChange
    generalize hAfter : o'.find? name = after at hChange
    cases hChange with
    | @record _ i i' hInner =>
      exact ⟨i, i', hInner, require_of_find? hBefore, require_of_find? hAfter⟩

theorem requireRecords (h : Object.Change fields o o') (name : String)
    (hRole : Entries.find? fields name = some (.records inner)) :
    o'.require .array name = o.require .array name ∨
      ∃ i i' before after, Object.Change inner i i' ∧
        o.require .array name = .ok (before ++ i.toJson :: after) ∧
        o'.require .array name = .ok (before ++ i'.toJson :: after) := by
  rcases h.find? hRole with hSame | hChange
  · left
    rw [Object.require, Object.require, hSame]
  · right
    generalize hBefore : o.find? name = before at hChange
    generalize hAfter : o'.find? name = after at hChange
    cases hChange with
    | @element _ i i' before after hInner =>
      exact ⟨i, i', before, after, hInner, require_of_find? hBefore, require_of_find? hAfter⟩

theorem getRecords (h : Object.Change fields o o') (name : String)
    (hRole : Entries.find? fields name = some (.optional (.records inner))) :
    o'.get? .array name = o.get? .array name ∨
      ∃ i i' before after, Object.Change inner i i' ∧
        o.get? .array name = .ok (some (before ++ i.toJson :: after)) ∧
        o'.get? .array name = .ok (some (before ++ i'.toJson :: after)) := by
  rcases h.find? hRole with hSame | hChange
  · left
    rw [Object.get?, Object.get?, hSame]
  · generalize hBefore : o.find? name = before at hChange
    generalize hAfter : o'.find? name = after at hChange
    cases hChange with
    | addNull role => exact .inl (by simp only [Object.get?, hBefore, hAfter])
    | dropNull role => exact .inl (by simp only [Object.get?, hBefore, hAfter])
    | within hWithin =>
      cases hWithin with
      | @element _ i i' before after hInner =>
        refine .inr ⟨i, i', before, after, hInner, ?_, ?_⟩
        · exact get?_of_find? hBefore
        · exact get?_of_find? hAfter

end Object.Change

/-! ## Faults up to a map of the faults -/

section Faults

variable {α β ε : Type} {f : ε → ε}

theorem mapError_bind {x x' : Except ε α} {next next' : α → Except ε β}
    (hFirst : x'.mapError f = x.mapError f)
    (hNext : ∀ a, (next' a).mapError f = (next a).mapError f) :
    (x' >>= next').mapError f = (x >>= next).mapError f := by
  cases x with
  | error e =>
    cases x' with
    | error e' => exact congrArg Except.error (Except.error.inj hFirst)
    | ok a' => cases hFirst
  | ok a =>
    cases x' with
    | error e' => cases hFirst
    | ok a' =>
      cases hFirst
      exact hNext a

theorem mapError_id (x : Except ε α) : x.mapError id = x := by
  cases x <;> rfl

end Faults

section Items

variable {α : Type} {f : ConfigurationError → ConfigurationError}

/-- The list is read alike if the one item that differs is. -/
theorem mapError_readItems {read : Nat → Json → Except ConfigurationError α} {item item' : Json}
    (h : ∀ index, (read index item').mapError f = (read index item).mapError f) (start : Nat)
    (before after : List Json) :
    (readItems read start (before ++ item' :: after)).mapError f =
      (readItems read start (before ++ item :: after)).mapError f := by
  rw [readItems_append, readItems_append, readItems_cons, readItems_cons]
  refine mapError_bind rfl fun first => mapError_bind ?_ fun rest => rfl
  exact mapError_bind (h (start + before.length)) fun a => rfl

theorem mapError_readAll {format : Format α} {i i' : Object}
    (h : (format.read i').mapError f = (format.read i).mapError f) (field : String)
    (before after : List Json) :
    (format.readAll field (before ++ i'.toJson :: after)).mapError f =
      (format.readAll field (before ++ i.toJson :: after)).mapError f := by
  refine mapError_readItems (fun index => ?_) 0 before after
  exact h

theorem readAll_eq {format : Format α} {i i' : Object} (h : format.read i' = format.read i)
    (field : String) (before after : List Json) :
    format.readAll field (before ++ i'.toJson :: after) =
      format.readAll field (before ++ i.toJson :: after) := by
  have hItem : (format.read i').mapError id = (format.read i).mapError id := by rw [h]
  have hAll := mapError_readAll hItem field before after
  rwa [mapError_id, mapError_id] at hAll

end Items

end DeferredJobs
