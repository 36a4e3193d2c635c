import DeferredJobs.Configuration.Format
import DeferredJobs.Proofs.Json.Bytes
import DeferredJobs.Proofs.Json.Tree

/-!
# Reading a written object back

Scanning, building the tree and interpreting it undo the writing of a value without doubles, in
both layouts, up to the depth at which texts are refused. The text of an object determines the
object at any depth, since only the last step counts how deep the tree nests.

* `ofText?_write`: a written value reads back exactly if it nests at most 127 deep.
* `parse_text_by_depth`: the same for objects, as text and as bytes, with the injectivity of
  writing across layouts.
* `ordered_of_parse`: every object that is read has its names in ascending order.
-/

namespace DeferredJobs

/-- Writing loses nothing; only the depth decides whether the text is read. -/
theorem Json.ofText?_write (layout : Layout) {v : Json} (hOrdered : v.Ordered)
    (hIntegral : v.Integral) :
    Json.ofText? (v.write layout 0) = if v.depth ≤ Json.maxDepth then some v else none := by
  have hTree := Tree.ofText?_write layout v hIntegral
  have hValue := Tree.value?_ofJson v hOrdered hIntegral
  rw [Json.ofText?, hTree]
  show (guard ((Tree.ofJson v).depth ≤ Json.maxDepth) >>= fun _ => (Tree.ofJson v).value?) = _
  rw [Tree.depth_ofJson]
  by_cases hDepth : v.depth ≤ Json.maxDepth
  · rw [(Option.guard_eq_some' ()).2 hDepth, if_pos hDepth]
    exact hValue
  · have hGuard : (guard (v.depth ≤ Json.maxDepth) : Option Unit) = none := if_neg hDepth
    rw [hGuard, if_neg hDepth]
    rfl

namespace Object

theorem toList_text (o : Object) (layout : Layout) :
    (o.text layout).toList = o.toJson.write layout 0 := by
  rw [text, Json.text, String.toList_ofList]

/-- A storable object is read from its text. -/
theorem parse_text {o : Object} (h : o.toJson.Storable Json.maxDepth) (layout : Layout) :
    parse (o.text layout) = .ok o := by
  rw [parse, toList_text, Json.ofText?_write layout h.ordered h.integral, if_pos h.depth_le]
  rfl

/-- An object that nests too deep is written to a text that no reader accepts. -/
theorem parse_text_of_deep {o : Object} (hOrdered : o.toJson.Ordered)
    (hIntegral : o.toJson.Integral) (hDeep : Json.maxDepth < o.toJson.depth) (layout : Layout) :
    parse (o.text layout) = .error .notJson := by
  rw [parse, toList_text, Json.ofText?_write layout hOrdered hIntegral,
    if_neg (Nat.not_le_of_lt hDeep)]

/-- The text of an object determines the object, however deep it nests and in which layout ever
it is written. -/
theorem eq_of_text_eq {o other : Object} {layout otherLayout : Layout}
    (hOrdered : o.toJson.Ordered) (hIntegral : o.toJson.Integral)
    (hOther : other.toJson.Ordered) (hOtherIntegral : other.toJson.Integral)
    (h : o.text layout = other.text otherLayout) : o = other := by
  have hWrite : o.toJson.write layout 0 = other.toJson.write otherLayout 0 :=
    String.ofList_injective h
  have hTree := Tree.ofText?_write layout o.toJson hIntegral
  rw [hWrite, Tree.ofText?_write otherLayout other.toJson hOtherIntegral] at hTree
  have hValue := Tree.value?_ofJson o.toJson hOrdered hIntegral
  rw [← Option.some.inj hTree, Tree.value?_ofJson other.toJson hOther hOtherIntegral] at hValue
  have hMembers : other.members = o.members := Json.object.inj (Option.some.inj hValue)
  cases o
  cases other
  exact congrArg Object.mk hMembers.symm

/-- Every object that is read has its names in ascending order, at all levels. -/
theorem ordered_of_parse {text : String} {o : Object} (h : parse text = .ok o) :
    o.toJson.Ordered := by
  unfold parse at h
  split at h
  · cases h
  · rename_i value hValue
    simp only [Json.ofText?, Option.bind_eq_bind, Option.bind_eq_some_iff] at hValue
    obtain ⟨tree, -, -, -, hTree⟩ := hValue
    rw [Json.asObject_ok_iff.1 h] at hTree
    exact Tree.ordered_of_value? tree hTree

/-- Texts and bytes in both layouts are read back up to 127 nested containers and refused beyond
that, and distinct objects never share a text. -/
theorem parse_text_by_depth {o : Object} (hOrdered : o.toJson.Ordered)
    (hIntegral : o.toJson.Integral) (layout : Layout) :
    (o.toJson.depth ≤ 127 →
      parse (o.text layout) = .ok o ∧ parseBytes (o.bytes layout) = .ok o) ∧
    (128 ≤ o.toJson.depth →
      parse (o.text layout) = .error .notJson ∧ parseBytes (o.bytes layout) = .error .notJson) ∧
    ∀ (other : Object) (otherLayout : Layout), other.toJson.Ordered → other.toJson.Integral →
      o ≠ other → o.text layout ≠ other.text otherLayout := by
  have hBytes : parseBytes (o.bytes layout) = parse (o.text layout) := parseBytes_toUTF8 _
  refine ⟨fun hDepth => ?_, fun hDeep => ?_, ?_⟩
  · have hParse := parse_text ⟨hOrdered, hIntegral, hDepth⟩ layout
    exact ⟨hParse, hBytes.trans hParse⟩
  · have hParse := parse_text_of_deep hOrdered hIntegral hDeep layout
    exact ⟨hParse, hBytes.trans hParse⟩
  · intro other otherLayout hOther hOtherIntegral hNe hText
    exact hNe (eq_of_text_eq hOrdered hIntegral hOther hOtherIntegral hText)

/-- A name of a control character and a quote, the largest integer, and an empty container. -/
theorem parse_text_control_name :
    (Object.mk [("\x01\"", .array [.int { value := 18446744073709551615 }, .object []])]
      ).toJson.Ordered ∧
    parse (text ⟨[("\x01\"", .array [.int { value := 18446744073709551615 }, .object []])]⟩
      .indented) =
      .ok ⟨[("\x01\"", .array [.int { value := 18446744073709551615 }, .object []])]⟩ := by
  have hOrdered : (Object.mk [("\x01\"", .array [.int { value := 18446744073709551615 },
      .object []])]).toJson.Ordered := by
    simp [toJson, Json.Ordered, Json.OrderedItems, Json.OrderedMembers, Entries.Ascending]
  refine ⟨hOrdered, ((parse_text_by_depth hOrdered ?_ .indented).1 (by decide)).1⟩
  simp [toJson, Json.Integral, Json.IntegralItems, Json.IntegralMembers]

end Object

end DeferredJobs
