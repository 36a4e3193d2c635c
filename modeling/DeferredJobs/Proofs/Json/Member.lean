import Mathlib.Data.List.Forall2
import DeferredJobs.Configuration.Format
import DeferredJobs.Proofs.Entries
import DeferredJobs.Proofs.Json.Tree

/-!
# Numbers as members of a text

A number stands under a name in a text. Around each token of an object there may be blanks, and they
never matter. Of several members of one name the last is the one that is found, and an integer is
only found where its literal was written.

* `parse_memberText`: the object of a text with one number.
* `HoldsLiteral`: the literal that a text holds under a name.
* `find?_of_holdsLiteral`, `exists_holdsLiteral`: what is found under the name, and back.
-/

namespace DeferredJobs

/-! ## A text with one number -/

/-- Spaces, tabs and line breaks between two tokens. -/
structure Gap where
  chars : List Char
  spaces : ∀ c ∈ chars, Scanner.isSpace c = true

/-- The places of an object with one member where blanks may stand. -/
structure Gaps where
  start : Gap
  beforeName : Gap
  afterName : Gap
  beforeValue : Gap
  afterValue : Gap
  finish : Gap

/-- No blanks at all. -/
def Gaps.none : Gaps :=
  let gap : Gap := ⟨[], List.forall_mem_nil _⟩
  ⟨gap, gap, gap, gap, gap, gap⟩

/-- The text of an object with one member, with these blanks. -/
def memberText (gaps : Gaps) (name : String) (value : List Char) : String :=
  .ofList (gaps.start.chars ++ '\x7b' :: (gaps.beforeName.chars ++ (Json.writeString name ++
    (gaps.afterName.chars ++ ':' :: (gaps.beforeValue.chars ++ (value ++
      (gaps.afterValue.chars ++ '\x7d' :: gaps.finish.chars)))))))

namespace Scanner

theorem scan_gap (gap : Gap) (tokens : List Token) (rest : List Char) :
    scan tokens (gap.chars ++ rest) = scan tokens rest :=
  scan_spaces gap.spaces tokens rest

end Scanner

variable {l : NumberLiteral} {literal : List Char}

open Scanner in
theorem Token.ofText?_memberText (gaps : Gaps) (name : String) (h : l.Spells literal) :
    Token.ofText? (memberText gaps name literal).toList =
      some [.openObject, .string (some name), .colon, .number l, .closeObject] := by
  have hOpen (tokens : List Token) (rest : List Char) :
      scan tokens ('\x7b' :: rest) = scan (.openObject :: tokens) rest := rfl
  have hColon (tokens : List Token) (rest : List Char) :
      scan tokens (':' :: rest) = scan (.colon :: tokens) rest := rfl
  have hClose (tokens : List Token) (rest : List Char) :
      scan tokens ('\x7d' :: rest) = scan (.closeObject :: tokens) rest := rfl
  have hDelimited : Delimited (gaps.afterValue.chars ++ '\x7d' :: gaps.finish.chars) :=
    delimited_spaces gaps.afterValue.spaces (delimited_cons rfl rfl _)
  have hEnd (tokens : List Token) : scan tokens gaps.finish.chars = some tokens := by
    have hScan := scan_gap gaps.finish tokens []
    rwa [List.append_nil] at hScan
  rw [Token.ofText?_eq_scan, memberText, String.toList_ofList, scan_gap, hOpen, scan_gap,
    scan_writeString, scan_gap, hColon, scan_gap, scan_spells h _ hDelimited, scan_gap, hClose, hEnd]
  rfl

theorem Tree.ofText?_memberText (gaps : Gaps) (name : String) (h : l.Spells literal) :
    Tree.ofText? (memberText gaps name literal).toList =
      some (.object [(some name, .number l)]) := by
  rw [Tree.ofText?, Token.ofText?_memberText gaps name h]
  rfl

/-- The text is read unless the number is too large. -/
theorem Object.parse_memberText (gaps : Gaps) (name : String) (h : l.Spells literal) :
    Object.parse (memberText gaps name literal) =
      match l.value? with
      | some value => .ok ⟨[(name, value)]⟩
      | none => .error .notJson := by
  have hTree := Tree.ofText?_memberText gaps name h
  have hMembers : (Tree.object [(some name, .number l)]).value? =
      l.value?.map fun value => .object [(name, value)] := by
    rw [Tree.value?, Tree.valueMembers?, Tree.valueMembers?, Tree.value?]
    cases l.value? <;> rfl
  have hText : Json.ofText? (memberText gaps name literal).toList =
      l.value?.map fun value => .object [(name, value)] := by
    rw [Json.ofText?, hTree, ← hMembers]
    rfl
  rw [parse, hText]
  cases l.value? <;> rfl

/-! ## The last member of a name -/

namespace Tree

/-- A member means an entry. -/
def Means (member : Option String × Tree) (entry : String × Json) : Prop :=
  member.1 = some entry.1 ∧ member.2.value? = some entry.2

theorem valueMembers?_eq_some_iff {members : List (Option String × Tree)}
    {entries : List (String × Json)} :
    valueMembers? members = some entries ↔ List.Forall₂ Means members entries := by
  induction members generalizing entries with
  | nil =>
    rw [List.forall₂_nil_left_iff, valueMembers?, Option.some.injEq, eq_comm]
  | cons member members ih =>
    obtain ⟨name, tree⟩ := member
    simp only [valueMembers?, bind, Option.bind_eq_some_iff, pure, Option.some.injEq,
      List.forall₂_cons_left_iff, ih, Means]
    constructor
    · rintro ⟨name, hName, value, hValue, others, hOthers, rfl⟩
      exact ⟨(name, value), others, ⟨hName, hValue⟩, hOthers, rfl⟩
    · rintro ⟨⟨name, value⟩, others, ⟨hName, hValue⟩, hOthers, rfl⟩
      exact ⟨name, hName, value, hValue, others, hOthers, rfl⟩

/-- The kind of the value that a tree means, if it means any. -/
def kind : Tree → Json.Kind
  | .null => .null
  | .bool _ => .boolean
  | .number _ => .number
  | .string _ => .string
  | .array _ => .array
  | .object _ => .object

theorem kind_of_value? {tree : Tree} {v : Json} (h : tree.value? = some v) : tree.kind = v.kind := by
  cases tree with
  | null | bool value =>
    cases h
    rfl
  | number l =>
    rw [value?, NumberLiteral.value?] at h
    split at h
    · cases h
      rfl
    · obtain ⟨m, -, rfl⟩ := Option.map_eq_some_iff.1 h
      rfl
  | string text =>
    obtain ⟨found, -, rfl⟩ := Option.map_eq_some_iff.1 h
    rfl
  | array items =>
    rw [value?] at h
    obtain ⟨values, -, rfl⟩ := Option.map_eq_some_iff.1 h
    rfl
  | object members =>
    rw [value?] at h
    obtain ⟨entries, -, rfl⟩ := Option.map_eq_some_iff.1 h
    rfl

theorem exists_of_value?_object {tree : Tree} {fields : List (String × Json)}
    (h : tree.value? = some (.object fields)) :
    ∃ members entries, tree = .object members ∧ List.Forall₂ Means members entries ∧
      fields = Entries.ofList entries := by
  have hKind := kind_of_value? h
  cases tree with
  | object members =>
    rw [value?] at h
    obtain ⟨entries, hEntries, hFields⟩ := Option.map_eq_some_iff.1 h
    exact ⟨members, entries, rfl, valueMembers?_eq_some_iff.1 hEntries, (Json.object.inj hFields).symm⟩
  | _ => cases hKind

/-- An integer is only meant by its literal. -/
theorem exists_of_value?_int {tree : Tree} {n : Integer} (h : tree.value? = some (.int n)) :
    ∃ l, tree = .number l ∧ l.integer? = some n := by
  have hKind := kind_of_value? h
  cases tree with
  | number l =>
    rw [value?, NumberLiteral.value?] at h
    split at h
    · rename_i found hInteger
      cases h
      exact ⟨l, rfl, hInteger⟩
    · obtain ⟨m, -, hDouble⟩ := Option.map_eq_some_iff.1 h
      cases hDouble
  | _ => cases hKind

end Tree

/-- Two related lists are split at the same place. -/
theorem exists_split_of_forall₂ {α β : Type} {R : α → β → Prop} {before after : List α} {a : α}
    {others : List β} (h : List.Forall₂ R (before ++ a :: after) others) :
    ∃ earlier b later, others = earlier ++ b :: later ∧ R a b ∧ List.Forall₂ R after later := by
  induction before generalizing others with
  | nil =>
    obtain ⟨b, later, hHead, hLater, rfl⟩ := List.forall₂_cons_left_iff.1 h
    exact ⟨[], b, later, rfl, hHead, hLater⟩
  | cons first before ih =>
    obtain ⟨other, others, -, hOthers, rfl⟩ := List.forall₂_cons_left_iff.1 h
    obtain ⟨earlier, b, later, rfl, hSplit⟩ := ih hOthers
    exact ⟨other :: earlier, b, later, rfl, hSplit⟩

/-- A name that no member has is that of no entry. -/
theorem Tree.forall_ne_iff {members : List (Option String × Tree)} {entries : List (String × Json)}
    (h : List.Forall₂ Means members entries) (name : String) :
    (∀ member ∈ members, member.1 ≠ some name) ↔ ∀ entry ∈ entries, entry.1 ≠ name := by
  induction h with
  | nil => exact ⟨nofun, nofun⟩
  | cons hMeans _ ih =>
    rw [List.forall_mem_cons, List.forall_mem_cons, ih, hMeans.1, Ne, Option.some.injEq]

/-- The text is an object, and the last of its members of this name is this literal. -/
def HoldsLiteral (text name : String) (l : NumberLiteral) : Prop :=
  ∃ before after,
    Tree.ofText? text.toList = some (.object (before ++ (some name, .number l) :: after)) ∧
      ∀ member ∈ after, member.1 ≠ some name

variable {text name : String} {o : Object}

theorem Object.exists_members_of_parse (h : Object.parse text = .ok o) :
    ∃ members entries, Tree.ofText? text.toList = some (.object members) ∧
      List.Forall₂ Tree.Means members entries ∧ o = ⟨Entries.ofList entries⟩ := by
  unfold parse at h
  split at h
  · cases h
  · rename_i value hValue
    simp only [Json.ofText?, Option.bind_eq_bind, Option.bind_eq_some_iff] at hValue
    obtain ⟨tree, hTree, -, -, hMeaning⟩ := hValue
    cases value with
    | object fields =>
      obtain ⟨members, entries, rfl, hMeans, rfl⟩ := Tree.exists_of_value?_object hMeaning
      exact ⟨members, entries, hTree, hMeans, (Except.ok.inj h).symm⟩
    | _ => cases h

/-- What is found is what the literal means. -/
theorem find?_of_holdsLiteral (hParse : Object.parse text = .ok o) (h : HoldsLiteral text name l) :
    ∃ value, l.value? = some value ∧ o.find? name = some value := by
  obtain ⟨members, entries, hTree, hMeans, rfl⟩ := Object.exists_members_of_parse hParse
  obtain ⟨before, after, hLiteral, hLast⟩ := h
  obtain rfl := Tree.object.inj (Option.some.inj (hTree.symm.trans hLiteral))
  obtain ⟨earlier, ⟨other, value⟩, later, rfl, ⟨hName, hValue⟩, hLater⟩ :=
    exists_split_of_forall₂ hMeans
  obtain rfl : name = other := Option.some.inj hName
  exact ⟨value, hValue, Entries.find?_ofList_eq_some_iff.2
    ⟨earlier, later, rfl, (Tree.forall_ne_iff hLater name).1 hLast⟩⟩

/-- An integer that is found was written as its literal. -/
theorem exists_holdsLiteral (hParse : Object.parse text = .ok o) {n : Integer}
    (h : o.find? name = some (.int n)) : ∃ l, HoldsLiteral text name l ∧ l.integer? = some n := by
  obtain ⟨members, entries, hTree, hMeans, rfl⟩ := Object.exists_members_of_parse hParse
  obtain ⟨before, after, rfl, hLast⟩ := Entries.find?_ofList_eq_some_iff.1 h
  obtain ⟨earlier, ⟨found, tree⟩, later, rfl, ⟨hName, hValue⟩, hLater⟩ :=
    exists_split_of_forall₂ hMeans.flip
  obtain rfl : found = some name := hName
  obtain ⟨l, rfl, hInteger⟩ := Tree.exists_of_value?_int hValue
  exact ⟨l, ⟨earlier, later, hTree, (Tree.forall_ne_iff hLater.flip name).2 hLast⟩, hInteger⟩

end DeferredJobs
