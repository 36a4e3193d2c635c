import DeferredJobs.Proofs.Configuration.Field
import DeferredJobs.Proofs.Json.RoundTrip

/-!
# Formats that lose nothing

A format is lossless on the values that reading can produce (`Proper`) if each of them is read
back from the object it is written to, and if texts can hold all these objects. Then the
canonical text of a value is read as the value in both layouts, and to rewrite a text that was
read changes nothing any more.

* `eq_of_canonical_eq`: values with one canonical text are read back as one value.
* `Lossless.parse_canonical`: the canonical text of a proper value is read as this value.
* `Lossless.parse_canonical_of_parse`: so is the canonical text of any value that was read.
* `Lossless.canonical_inj`: proper values with one canonical text are equal.
* `readAll_writeAll`, `storable_writeAll`: the lift to arrays.
-/

namespace DeferredJobs

namespace Format

variable {α : Type}

/-! ## Canonical texts -/

theorem parse_canonical_eq {format : Format α} {a : α}
    (hStorable : (format.write a).toJson.Storable Json.maxDepth) (layout : Layout) :
    format.parse (format.canonical layout a) = format.read (format.write a) := by
  rw [parse, canonical, Object.parse_text hStorable layout]
  rfl

/-- Values with one canonical text are read back as one value, in whichever layouts. -/
theorem eq_of_canonical_eq {format : Format α} {reread : α → α}
    (hRead : ∀ a, format.read (format.write a) = .ok (reread a))
    (hStorable : ∀ a, (format.write a).toJson.Storable Json.maxDepth) {layout otherLayout : Layout}
    {a b : α} (h : format.canonical layout a = format.canonical otherLayout b) :
    reread a = reread b := by
  have hParse := parse_canonical_eq (hStorable a) layout
  rw [h, parse_canonical_eq (hStorable b) otherLayout, hRead a, hRead b] at hParse
  exact (Except.ok.inj hParse).symm

/-! ## Lossless formats -/

structure Lossless (format : Format α) (Proper : α → Prop) : Prop where
  read_write : ∀ a, Proper a → format.read (format.write a) = .ok a
  proper_of_read : ∀ o a, format.read o = .ok a → Proper a
  storable : ∀ a, (format.write a).toJson.Storable Json.maxDepth

namespace Lossless

variable {format : Format α} {Proper : α → Prop}

/-- The canonical text of a proper value is read as this value. -/
theorem parse_canonical (h : format.Lossless Proper) {a : α} (ha : Proper a) (layout : Layout) :
    format.parse (format.canonical layout a) = .ok a := by
  rw [parse_canonical_eq (h.storable a) layout]
  exact h.read_write a ha

theorem proper_of_parse (h : format.Lossless Proper) {text : String} {a : α}
    (hParse : format.parse text = .ok a) : Proper a := by
  obtain ⟨o, -, hRead⟩ := bind_eq_ok hParse
  exact h.proper_of_read o a hRead

/-- A value that was read from some text is read again from its canonical text. -/
theorem parse_canonical_of_parse (h : format.Lossless Proper) {text : String} {a : α}
    (hParse : format.parse text = .ok a) (layout : Layout) :
    format.parse (format.canonical layout a) = .ok a :=
  h.parse_canonical (h.proper_of_parse hParse) layout

theorem canonical_inj (h : format.Lossless Proper) {a b : α} (ha : Proper a) (hb : Proper b)
    {layout : Layout} (hText : format.canonical layout a = format.canonical layout b) : a = b := by
  have hParse := h.parse_canonical ha layout
  rw [hText, h.parse_canonical hb layout] at hParse
  exact (Except.ok.inj hParse).symm

end Lossless

/-! ## Arrays -/

theorem readAll_writeAll {format : Format α} (h : ∀ a, format.read (format.write a) = .ok a)
    (field : String) (values : List α) :
    format.readAll field (format.writeAll values) = .ok values :=
  readItems_map (fun a => (format.write a).toJson) (fun _ a => h a) 0 values

theorem storable_writeAll {format : Format α} {bound : Nat}
    (h : ∀ a, (format.write a).toJson.Storable bound) (values : List α) :
    (Json.array (format.writeAll values)).Storable (bound + 1) := by
  refine Json.storable_array_iff.2 fun item hItem => ?_
  obtain ⟨a, -, rfl⟩ := List.mem_map.1 hItem
  exact h a

end Format

end DeferredJobs
