import DeferredJobs.Proofs.Batch.Format
import DeferredJobs.Proofs.Configuration.Demand
import DeferredJobs.Proofs.Json.RoundTrip

/-!
# The kind of a modification instruction

Six names tell what an instruction does. The first of them that is present decides, with null too, and
whatever is wrong with its value, no later name is tried. Beside its own name a kind has at most one
companion, and nothing else in the object counts.

* `Kind.ofObject?_eq_some_iff`, `Kind.ofObject?_eq_none_iff`: which kind is found.
* `readKind_decided`: what is demanded of an object of a kind, in the order of reading.
* `partOf_of_readKind`: an instruction says nothing that is not in its object.
* `readByName_eq`: the names tell kinds, so a search by name never ends at an unknown one.
* `read_by_priority`: what an object is read as.
-/

namespace DeferredJobs

/-! ## Parts of objects -/

/-- Every member of one object is one of the other. -/
def Object.PartOf (part o : Object) : Prop :=
  ∀ name value, part.find? name = some value → o.find? name = some value

theorem Object.partOf_empty (o : Object) : Object.empty.PartOf o := by
  intro name value h
  cases h

namespace Object.PartOf

variable {part o : Object} {name : String}

theorem put {α : Type} {type : FieldType α} {a : α} (h : part.PartOf o)
    (hFound : o.find? name = some (type.write a)) : (part.put type name a).PartOf o := by
  intro other value hOther
  rw [find?_put] at hOther
  split at hOther
  · rename_i hName
    rw [hName, hFound, hOther]
  · exact h other value hOther

/-- A flag that was read is written only where it differs from its default, and then it is there. -/
theorem putFlag {value : Bool} (h : part.PartOf o) (hFlag : o.flag name false = .ok value) :
    (part.putFlag name false value).PartOf o := by
  cases value with
  | false => exact h
  | true => exact h.put (Demand.find?_of_flag hFlag)

end Object.PartOf

/-! ## Faults by name -/

/-- The fault lies in the field of this name. -/
def ConfigurationError.About (e : ConfigurationError) (name : String) : Prop :=
  e = .missingField name ∨ ∃ shape, e = .wrongType name shape

namespace Demand

variable {α : Type} {o : Object} {name : String} {e : ConfigurationError}

theorem about_of_field {type : FieldType α} (h : (field type name).Fault o e) : e.About name := by
  rcases h with ⟨-, rfl⟩ | ⟨value, -, -, rfl⟩
  · exact .inl rfl
  · exact .inr ⟨type.shape, rfl⟩

theorem about_of_flag (h : (flag name).Fault o e) : e.About name := by
  obtain ⟨value, -, -, -, rfl⟩ := h
  exact .inr ⟨.boolean, rfl⟩

end Demand

namespace ModificationInstruction

open Demand Object

/-! ## Kinds by name -/

namespace Kind

/-- The name is there, and none of those that are looked for before. -/
structure First (o : Object) (kind : Kind) : Prop where
  present : o.contains kind.discriminator
  leading : ∃ before after, all = before ++ kind :: after ∧
    ∀ earlier ∈ before, ¬ o.contains earlier.discriminator

variable {o : Object} {kind : Kind}

theorem ofObject?_eq_some_iff : ofObject? o = some kind ↔ First o kind := by
  rw [ofObject?, List.find?_eq_some_iff_append]
  constructor
  · rintro ⟨hPresent, before, after, hAll, hBefore⟩
    exact ⟨hPresent, before, after, hAll, by simpa using hBefore⟩
  · rintro ⟨hPresent, before, after, hAll, hBefore⟩
    exact ⟨hPresent, before, after, hAll, by simpa using hBefore⟩

theorem ofObject?_eq_none_iff :
    ofObject? o = none ↔ ∀ kind : Kind, ¬ o.contains kind.discriminator := by
  rw [ofObject?, List.find?_eq_none]
  exact ⟨fun h kind => h kind (mem_all kind), fun h kind _ => h kind⟩

/-- The other name that counts for a kind. -/
def companion? : Kind → Option String
  | startBefore | startAfter | startTransition => none
  | cancelAll => some "cancelCurrentActiveActivityInstances"
  | cancelActivityInstance | cancelTransitionInstance => some "processInstances"

/-- What is demanded of an object of a kind. An instance is named after its process instance. -/
def demand (kind : Kind) : Demand :=
  match kind with
  | startBefore | startAfter | startTransition => .all [field .string kind.discriminator]
  | cancelAll =>
    .all [field .string kind.discriminator, flag "cancelCurrentActiveActivityInstances"]
  | cancelActivityInstance | cancelTransitionInstance =>
    .all [field .string "processInstances", field .string kind.discriminator]

end Kind

open Kind (First)

variable {o o' : Object} {kind : Kind} {i : ModificationInstruction}

/-! ## What is written -/

/-- Of the six names an instruction is written with its own alone. -/
theorem contains_write_iff (i : ModificationInstruction) (kind : Kind) :
    i.write.contains kind.discriminator ↔ kind.discriminator = i.discriminator := by
  cases i <;> cases kind <;> simp [contains_eq, write, discriminator, ModificationInstruction.kind,
    Kind.discriminator]

/-! ## What is read -/

theorem readKind_decided (o : Object) (kind : Kind) : kind.demand.Decided o (readKind o kind) := by
  have hName := decided_field FieldType.exact_string o kind.discriminator
  have hInstance := decided_field FieldType.exact_string o "processInstances"
  have hActive := decided_flag o "cancelCurrentActiveActivityInstances"
  cases kind with
  | startBefore | startAfter | startTransition => exact .cons hName fun id => .nil _
  | cancelAll => exact .cons hName fun activity => .cons hActive fun onlyActive => .nil _
  | cancelActivityInstance | cancelTransitionInstance =>
    exact .cons hInstance fun processInstance => .cons hName fun id => .nil _

theorem about_of_readKind {e : ConfigurationError} (h : readKind o kind = .error e) :
    e.About kind.discriminator ∨ ∃ name ∈ kind.companion?, e.About name := by
  have hFault := ((readKind_decided o kind).error_iff e).1 h
  cases kind with
  | startBefore | startAfter | startTransition =>
    rcases fault_all_cons.1 hFault with hName | ⟨-, hRest⟩
    · exact .inl (about_of_field hName)
    · exact absurd hRest not_fault_all_nil
  | cancelAll =>
    rcases fault_all_cons.1 hFault with hName | ⟨-, hRest⟩
    · exact .inl (about_of_field hName)
    · rcases fault_all_cons.1 hRest with hActive | ⟨-, hRest⟩
      · exact .inr ⟨_, rfl, about_of_flag hActive⟩
      · exact absurd hRest not_fault_all_nil
  | cancelActivityInstance | cancelTransitionInstance =>
    rcases fault_all_cons.1 hFault with hInstance | ⟨-, hRest⟩
    · exact .inr ⟨_, rfl, about_of_field hInstance⟩
    · rcases fault_all_cons.1 hRest with hName | ⟨-, hRest⟩
      · exact .inl (about_of_field hName)
      · exact absurd hRest not_fault_all_nil

/-- An instruction is of the kind that it was read as, and what it is written with stands in its
object. -/
theorem partOf_of_readKind (h : readKind o kind = .ok i) : i.kind = kind ∧ i.write.PartOf o := by
  cases kind with
  | startBefore | startAfter | startTransition =>
    obtain ⟨id, hId, h⟩ := bind_eq_ok h
    cases h
    have hId := (require_ok_iff FieldType.exact_string).1 hId
    exact ⟨rfl, (partOf_empty o).put hId⟩
  | cancelAll =>
    obtain ⟨activity, hActivity, h⟩ := bind_eq_ok h
    obtain ⟨onlyActive, hActive, h⟩ := bind_eq_ok h
    cases h
    have hActivity := (require_ok_iff FieldType.exact_string).1 hActivity
    exact ⟨rfl, ((partOf_empty o).put hActivity).putFlag hActive⟩
  | cancelActivityInstance | cancelTransitionInstance =>
    obtain ⟨processInstance, hInstance, h⟩ := bind_eq_ok h
    obtain ⟨id, hId, h⟩ := bind_eq_ok h
    cases h
    have hInstance := (require_ok_iff FieldType.exact_string).1 hInstance
    have hId := (require_ok_iff FieldType.exact_string).1 hId
    exact ⟨rfl, ((partOf_empty o).put hId).put hInstance⟩

/-- Nothing counts but the name of the kind and its companion. -/
theorem readKind_of_agree (hName : o'.find? kind.discriminator = o.find? kind.discriminator)
    (hCompanion : ∀ name ∈ kind.companion?, o'.find? name = o.find? name) :
    readKind o' kind = readKind o kind := by
  cases kind with
  | startBefore | startAfter | startTransition =>
    simp only [readKind, Object.require, hName]
  | cancelAll =>
    have hActive := hCompanion _ rfl
    simp only [readKind, Object.require, Object.flag, Object.get?, hName, hActive]
  | cancelActivityInstance | cancelTransitionInstance =>
    have hInstance := hCompanion _ rfl
    simp only [readKind, Object.require, hName, hInstance]

/-! ## Search by name -/

/-- The kind that a name tells. -/
def Kind.ofName? (name : String) : Option Kind :=
  Kind.all.find? (·.discriminator = name)

theorem Kind.ofName?_discriminator (kind : Kind) : ofName? kind.discriminator = some kind := by
  cases kind <;> rfl

/-- Reads by the first of the six names that is present. A name that tells no kind has a result of
its own. -/
def readByName (unknown : String → Except ConfigurationError ModificationInstruction) (o : Object) :
    Except ConfigurationError ModificationInstruction :=
  match (Kind.all.map Kind.discriminator).find? (o.contains ·) with
  | none => .error (.unrecognizedInstruction o.names)
  | some name =>
    match Kind.ofName? name with
    | some kind => readKind o kind
    | none => unknown name

/-- The result for a name that tells no kind does not matter, for no search ends there. -/
theorem readByName_eq (unknown : String → Except ConfigurationError ModificationInstruction)
    (o : Object) : readByName unknown o = format.read o := by
  have hFind : (Kind.all.map Kind.discriminator).find? (o.contains ·) =
      (Kind.ofObject? o).map Kind.discriminator := List.find?_map
  rw [readByName, hFind]
  show _ = (match Kind.ofObject? o with
    | some kind => readKind o kind
    | none => .error (.unrecognizedInstruction o.names))
  cases Kind.ofObject? o with
  | none => rfl
  | some kind => simp only [Option.map_some, Kind.ofName?_discriminator]

/-! ## Priority -/

/-- What an object comes to whose first name tells the kind. -/
structure DecidedByKind (kind : Kind) (o : Object)
    (x : Except ConfigurationError ModificationInstruction) : Prop where
  ok : ∀ i, x = .ok i → i.discriminator = kind.discriminator ∧ i.write.PartOf o
  error : ∀ e, x = .error e →
    e.About kind.discriminator ∨ ∃ name ∈ kind.companion?, e.About name
  /-- The process instance comes before its instance. -/
  instanceFirst : kind.companion? = some "processInstances" →
    (∀ text, o.find? "processInstances" ≠ some (.string text)) →
    ∃ e, x = .error e ∧ e.About "processInstances"

theorem readKind_instance {e : ConfigurationError} (hKind : kind.companion? = some "processInstances")
    (h : o.require .string "processInstances" = .error e) : readKind o kind = .error e := by
  cases kind with
  | startBefore | startAfter | startTransition => cases hKind
  | cancelAll => exact absurd (Option.some.inj hKind) (by decide)
  | cancelActivityInstance | cancelTransitionInstance =>
    rw [readKind, h]
    rfl

theorem decidedByKind (o : Object) (kind : Kind) : DecidedByKind kind o (readKind o kind) where
  ok i h := by
    obtain ⟨rfl, hPart⟩ := partOf_of_readKind h
    exact ⟨rfl, hPart⟩
  error _ h := about_of_readKind h
  instanceFirst hKind hInstance := by
    cases hRequire : o.require .string "processInstances" with
    | ok text => exact absurd ((require_ok_iff FieldType.exact_string).1 hRequire) (hInstance text)
    | error e =>
      refine ⟨e, readKind_instance hKind hRequire, ?_⟩
      exact about_of_field ((require_error_iff FieldType.exact_string).1 hRequire)

theorem read_of_first (h : First o kind) : format.read o = readKind o kind :=
  read_of_ofObject? (Kind.ofObject?_eq_some_iff.2 h)

theorem read_of_none (h : ∀ kind : Kind, ¬ o.contains kind.discriminator) :
    format.read o = .error (.unrecognizedInstruction o.names) := by
  simp only [format, Kind.ofObject?_eq_none_iff.2 h]

/-- An instruction is written with one of the six names and read back. An object is read by the first
of them that is present, and refused with all its names if none is, in ascending order however the
text lists them. Only the value under that name and under its companion decides, and whatever is wrong
with them, no later name is tried. -/
theorem read_by_priority :
    (∀ i : ModificationInstruction,
      (∀ kind : Kind, i.write.contains kind.discriminator ↔
        kind.discriminator = i.discriminator) ∧
      format.read (format.write i) = .ok i) ∧
    (∀ o : Object, Entries.Ascending o.members →
      (∀ kind : Kind, ¬ o.contains kind.discriminator) →
      ∃ names, format.read o = .error (.unrecognizedInstruction names) ∧
        names.Pairwise (· < ·) ∧ (∀ name, name ∈ names ↔ o.contains name) ∧
        (ConfigurationError.unrecognizedInstruction names).message =
          "unrecognized modification instruction with keys [" ++
            String.intercalate ", " names ++ "]") ∧
    (∀ (text : String) (o : Object), parse text = .ok o →
      (∀ kind : Kind, ¬ o.contains kind.discriminator) →
      format.parse text = .error (.unrecognizedInstruction o.names) ∧
        o.names.Pairwise (· < ·)) ∧
    (∀ (o : Object) (kind : Kind), First o kind → DecidedByKind kind o (format.read o)) ∧
    (∀ (o o' : Object) (kind : Kind), First o kind → First o' kind →
      o'.find? kind.discriminator = o.find? kind.discriminator →
      (∀ name ∈ kind.companion?, o'.find? name = o.find? name) →
      format.read o' = format.read o) ∧
    ∀ unknown o, readByName unknown o = format.read o := by
  refine ⟨fun i => ⟨contains_write_iff i, read_write i⟩, ?_, ?_, ?_, ?_, readByName_eq⟩
  · intro o hAscending hNone
    refine ⟨o.names, read_of_none hNone, Entries.ascending_names hAscending, ?_, rfl⟩
    exact fun name => Entries.contains_iff_mem_names.symm
  · intro text o hParse hNone
    refine ⟨?_, Entries.ascending_names (ordered_of_parse hParse).1⟩
    rw [Format.parse, hParse, ok_bind, read_of_none hNone]
  · intro o kind hFirst
    rw [read_of_first hFirst]
    exact decidedByKind o kind
  · intro o o' kind hFirst hFirst' hName hCompanion
    rw [read_of_first hFirst, read_of_first hFirst']
    exact readKind_of_agree hName hCompanion

/-- A null under the first name is a fault, though a later name could be read. A process instance
that is missing is named before its instance, which is no string. Without any of the six names, all
names are listed. -/
theorem read_by_priority_of_faulty :
    (∃ shape, format.read
        ⟨[("cancelAllForActivity", .string "a"), ("startBeforeActivity", .null)]⟩ =
      .error (.wrongType "startBeforeActivity" shape)) ∧
    (∃ e, format.read ⟨[("cancelActivityInstances", .bool true), ("note", .null)]⟩ = .error e ∧
      e.About "processInstances") ∧
    format.read ⟨[("cancelActivityInstances", .bool true), ("note", .null)]⟩ =
      format.read ⟨[("cancelActivityInstances", .bool true)]⟩ ∧
    (∃ names, format.read ⟨[("Note", .null), ("note", .null)]⟩ =
        .error (.unrecognizedInstruction names) ∧
      names.Pairwise (· < ·)) ∧
    format.parse "\x7b\"note\":null,\"Note\":null\x7d" =
      .error (.unrecognizedInstruction ["Note", "note"]) := by
  obtain ⟨-, hNone, hText, hFirst, hAgree, -⟩ := read_by_priority
  have hStart := hFirst ⟨[("cancelAllForActivity", .string "a"), ("startBeforeActivity", .null)]⟩
    .startBefore (Kind.ofObject?_eq_some_iff.1 rfl)
  have hNoted : First ⟨[("cancelActivityInstances", .bool true), ("note", .null)]⟩
      .cancelActivityInstance := Kind.ofObject?_eq_some_iff.1 rfl
  have hBare : First ⟨[("cancelActivityInstances", .bool true)]⟩ .cancelActivityInstance :=
    Kind.ofObject?_eq_some_iff.1 rfl
  refine ⟨?_, ?_, ?_, ?_, ?_⟩
  · rcases hStart.error _ rfl with hAbout | ⟨name, hName, -⟩
    · rcases hAbout with hMissing | ⟨shape, hShape⟩
      · cases hMissing
      · exact ⟨shape, congrArg Except.error hShape⟩
    · cases hName
  · exact (hFirst _ _ hNoted).instanceFirst rfl nofun
  · refine hAgree _ _ _ hBare hNoted rfl fun name hName => ?_
    obtain rfl := Option.some.inj hName
    rfl
  · have hAscending : Entries.Ascending [("Note", Json.null), ("note", .null)] :=
      List.pairwise_pair.2 (by decide)
    obtain ⟨names, hRead, hNames, -⟩ := hNone ⟨[("Note", .null), ("note", .null)]⟩ hAscending
      (Kind.ofObject?_eq_none_iff.1 rfl)
    exact ⟨names, hRead, hNames⟩
  · exact (hText _ ⟨[("Note", .null), ("note", .null)]⟩ (by decide +kernel)
      (Kind.ofObject?_eq_none_iff.1 rfl)).1

end ModificationInstruction

end DeferredJobs
