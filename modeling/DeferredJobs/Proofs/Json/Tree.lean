import DeferredJobs.Json.Tree
import DeferredJobs.Proofs.Json.Token

/-!
# The tree of a written value

Reading goes from tokens to a tree and from the tree to a value. `Tree.ofJson` is the tree of a
value before anything is interpreted; the machine builds it from the tokens of the value on top
of whatever containers are open, and its meaning is the value again.

* `run?_tokens`: the tokens of a value complete its tree.
* `value?_ofJson`: the tree of a value that texts can hold means this value.
* `depth_ofJson`: it nests as deep as the value.
* `ordered_of_value?`: whatever a tree means has its names in ascending order.
-/

namespace DeferredJobs

namespace Tree

mutual

/-- The tree that the text of a value has. -/
def ofJson : Json → Tree
  | .null => .null
  | .bool value => .bool value
  | .int n => .number (.ofInteger n)
  | .double x => .number (.ofDouble x)
  | .string text => .string (some text)
  | .array items => .array (ofItems items)
  | .object members => .object (ofMembers members)

def ofItems : List Json → List Tree
  | [] => []
  | item :: rest => ofJson item :: ofItems rest

def ofMembers : List (String × Json) → List (Option String × Tree)
  | [] => []
  | (name, value) :: rest => (some name, ofJson value) :: ofMembers rest

end

/-! ## Tokens to trees -/

namespace State

theorem run?_cons {state next : State} {token : Token} (h : state.step? token = some next)
    (rest : List Token) : state.run? (token :: rest) = next.run? rest := by
  simp only [run?, h]

theorem exists_cons_tokens (v : Json) :
    ∃ token rest, v.tokens = token :: rest ∧ token ≠ .closeArray := by
  cases v <;> exact ⟨_, _, rfl, Token.noConfusion⟩

/-- Before the first item a token other than the end of the array begins the item. -/
theorem run?_firstItem {token : Token} (h : token ≠ .closeArray) (frames : List Frame)
    (rest : List Token) :
    run? (.firstItem frames) (token :: rest) =
      run? (.value (.array [] :: frames)) (token :: rest) := by
  have hStep : step? (.firstItem frames) token = step? (.value (.array [] :: frames)) token := by
    cases token with
    | closeArray => exact absurd rfl h
    | _ => rfl
  simp only [run?, hStep]

mutual

/-- The tokens of a value complete its tree, whatever containers are open. -/
theorem run?_tokens (v : Json) (frames : List Frame) (rest : List Token) :
    run? (.value frames) (v.tokens ++ rest) = run? (.complete (ofJson v) frames) rest := by
  match v with
  | .null | .bool _ | .int _ | .double _ | .string _ => rfl
  | .array [] => rfl
  | .array (item :: items) =>
    obtain ⟨token, more, hTokens, hToken⟩ := exists_cons_tokens item
    have hOpen : step? (.value frames) .openArray = some (.firstItem frames) := rfl
    have hItem := run?_tokens item (.array [] :: frames)
      (Json.tokensOfItems false items ++ .closeArray :: rest)
    rw [hTokens, List.cons_append] at hItem
    have hFirst : (Json.array (item :: items)).tokens ++ rest =
        .openArray :: token ::
          (more ++ (Json.tokensOfItems false items ++ .closeArray :: rest)) := by
      simp [Json.tokens, Json.tokensOfItems, hTokens]
    rw [hFirst, run?_cons hOpen, run?_firstItem hToken, hItem, run?_tokensOfItems]
    rfl
  | .object [] => rfl
  | .object ((name, v) :: members) =>
    have hOpen : step? (.value frames) .openObject = some (.firstName frames) := rfl
    have hName : step? (.firstName frames) (.string (some name)) =
        some (.colon frames [] (some name)) := rfl
    have hColon : step? (.colon frames [] (some name)) .colon =
        some (.value (.object [] (some name) :: frames)) := rfl
    have hFirst : (Json.object ((name, v) :: members)).tokens ++ rest =
        .openObject :: .string (some name) :: .colon ::
          (v.tokens ++ (Json.tokensOfMembers false members ++ .closeObject :: rest)) := by
      simp [Json.tokens, Json.tokensOfMembers]
    rw [hFirst, run?_cons hOpen, run?_cons hName, run?_cons hColon, run?_tokens v,
      run?_tokensOfMembers]
    rfl

theorem run?_tokensOfItems (items : List Json) (done : List Tree) (tree : Tree)
    (frames : List Frame) (rest : List Token) :
    run? (.complete tree (.array done :: frames))
        (Json.tokensOfItems false items ++ .closeArray :: rest) =
      run? (.complete (.array ((tree :: done).reverse ++ ofItems items)) frames) rest := by
  match items with
  | [] =>
    rw [ofItems, List.append_nil]
    rfl
  | item :: items =>
    have hComma : step? (.complete tree (.array done :: frames)) .comma =
        some (.value (.array (tree :: done) :: frames)) := rfl
    have hFirst : Json.tokensOfItems false (item :: items) ++ .closeArray :: rest =
        .comma :: (item.tokens ++ (Json.tokensOfItems false items ++ .closeArray :: rest)) := by
      simp [Json.tokensOfItems]
    rw [hFirst, run?_cons hComma, run?_tokens item, run?_tokensOfItems items]
    simp [ofItems]

theorem run?_tokensOfMembers (members : List (String × Json))
    (done : List (Option String × Tree)) (name : Option String) (tree : Tree)
    (frames : List Frame) (rest : List Token) :
    run? (.complete tree (.object done name :: frames))
        (Json.tokensOfMembers false members ++ .closeObject :: rest) =
      run? (.complete (.object (((name, tree) :: done).reverse ++ ofMembers members)) frames)
        rest := by
  match members with
  | [] =>
    rw [ofMembers, List.append_nil]
    rfl
  | (next, v) :: members =>
    have hComma : step? (.complete tree (.object done name :: frames)) .comma =
        some (.nextName ((name, tree) :: done) frames) := rfl
    have hName : step? (.nextName ((name, tree) :: done) frames) (.string (some next)) =
        some (.colon frames ((name, tree) :: done) (some next)) := rfl
    have hColon : step? (.colon frames ((name, tree) :: done) (some next)) .colon =
        some (.value (.object ((name, tree) :: done) (some next) :: frames)) := rfl
    have hFirst : Json.tokensOfMembers false ((next, v) :: members) ++ .closeObject :: rest =
        .comma :: .string (some next) :: .colon ::
          (v.tokens ++ (Json.tokensOfMembers false members ++ .closeObject :: rest)) := by
      simp [Json.tokensOfMembers]
    rw [hFirst, run?_cons hComma, run?_cons hName, run?_cons hColon, run?_tokens v,
      run?_tokensOfMembers members]
    simp [ofMembers]

end

end State

theorem ofTokens?_tokens (v : Json) : ofTokens? v.tokens = some (ofJson v) := by
  have hRun := State.run?_tokens v [] []
  rw [List.append_nil] at hRun
  rw [ofTokens?, hRun]
  rfl

theorem ofText?_write (layout : Layout) (v : Json) (h : v.Integral) :
    ofText? (v.write layout 0) = some (ofJson v) := by
  rw [ofText?, Token.ofText?_write layout v h, Option.bind_some, ofTokens?_tokens]

/-! ## Trees to values -/

mutual

theorem depth_ofJson (v : Json) : (ofJson v).depth = v.depth := by
  match v with
  | .null | .bool _ | .int _ | .double _ | .string _ => rfl
  | .array items => rw [ofJson, depth, Json.depth, depthItems_ofItems items]
  | .object members => rw [ofJson, depth, Json.depth, depthMembers_ofMembers members]

theorem depthItems_ofItems (items : List Json) :
    depthItems (ofItems items) = Json.depthItems items := by
  match items with
  | [] => rfl
  | item :: items =>
    rw [ofItems, depthItems, Json.depthItems, depth_ofJson item, depthItems_ofItems items]

theorem depthMembers_ofMembers (members : List (String × Json)) :
    depthMembers (ofMembers members) = Json.depthMembers members := by
  match members with
  | [] => rfl
  | (name, value) :: members =>
    rw [ofMembers, depthMembers, Json.depthMembers, depth_ofJson value,
      depthMembers_ofMembers members]

end

mutual

/-- The tree of a value means the value. -/
theorem value?_ofJson (v : Json) (hOrdered : v.Ordered) (hIntegral : v.Integral) :
    (ofJson v).value? = some v := by
  match v, hOrdered, hIntegral with
  | .null, _, _ | .bool _, _, _ | .string _, _, _ => rfl
  | .int n, _, _ => exact NumberLiteral.value?_ofInteger n
  | .array items, hOrdered, hIntegral =>
    rw [ofJson, value?, valueItems?_ofItems items hOrdered hIntegral, Option.map_some]
  | .object members, ⟨hAscending, hOrdered⟩, hIntegral =>
    rw [ofJson, value?, valueMembers?_ofMembers members hOrdered hIntegral, Option.map_some,
      Entries.ofList_of_ascending hAscending]

theorem valueItems?_ofItems (items : List Json) (hOrdered : Json.OrderedItems items)
    (hIntegral : Json.IntegralItems items) : valueItems? (ofItems items) = some items := by
  match items, hOrdered, hIntegral with
  | [], _, _ => rfl
  | item :: items, hOrdered, hIntegral =>
    rw [ofItems, valueItems?, value?_ofJson item hOrdered.1 hIntegral.1,
      valueItems?_ofItems items hOrdered.2 hIntegral.2]
    rfl

theorem valueMembers?_ofMembers (members : List (String × Json))
    (hOrdered : Json.OrderedMembers members) (hIntegral : Json.IntegralMembers members) :
    valueMembers? (ofMembers members) = some members := by
  match members, hOrdered, hIntegral with
  | [], _, _ => rfl
  | (name, value) :: members, hOrdered, hIntegral =>
    rw [ofMembers, valueMembers?, value?_ofJson value hOrdered.1 hIntegral.1,
      valueMembers?_ofMembers members hOrdered.2 hIntegral.2]
    rfl

end

mutual

/-- Whatever a tree means has its names in ascending order. -/
theorem ordered_of_value? (tree : Tree) {v : Json} (h : tree.value? = some v) : v.Ordered := by
  match tree with
  | .null | .bool _ =>
    cases h
    trivial
  | .number literal =>
    unfold value? NumberLiteral.value? at h
    split at h
    · cases h
      trivial
    · obtain ⟨m, -, rfl⟩ := Option.map_eq_some_iff.1 h
      trivial
  | .string text =>
    obtain ⟨s, -, rfl⟩ := Option.map_eq_some_iff.1 h
    trivial
  | .array items =>
    rw [value?] at h
    obtain ⟨values, hItems, rfl⟩ := Option.map_eq_some_iff.1 h
    exact Json.orderedItems_iff.2 (ordered_of_valueItems? items hItems)
  | .object members =>
    rw [value?] at h
    obtain ⟨values, hMembers, rfl⟩ := Option.map_eq_some_iff.1 h
    refine ⟨Entries.ascending_ofList values, Json.orderedMembers_iff.2 ?_⟩
    intro member hMember
    exact ordered_of_valueMembers? members hMembers member (Entries.mem_ofList hMember)

theorem ordered_of_valueItems? (items : List Tree) {values : List Json}
    (h : valueItems? items = some values) : ∀ v ∈ values, v.Ordered := by
  match items with
  | [] =>
    cases h
    exact fun _ hMem => absurd hMem List.not_mem_nil
  | item :: items =>
    simp only [valueItems?, bind, Option.bind_eq_some_iff, pure, Option.some.injEq] at h
    obtain ⟨v, hItem, values, hItems, rfl⟩ := h
    exact List.forall_mem_cons.2
      ⟨ordered_of_value? item hItem, ordered_of_valueItems? items hItems⟩

theorem ordered_of_valueMembers? (members : List (Option String × Tree))
    {values : List (String × Json)} (h : valueMembers? members = some values) :
    ∀ member ∈ values, member.2.Ordered := by
  match members with
  | [] =>
    cases h
    exact fun _ hMem => absurd hMem List.not_mem_nil
  | (name, tree) :: members =>
    simp only [valueMembers?, bind, Option.bind_eq_some_iff, pure, Option.some.injEq] at h
    obtain ⟨name, -, v, hValue, values, hMembers, rfl⟩ := h
    exact List.forall_mem_cons.2
      ⟨ordered_of_value? tree hValue, ordered_of_valueMembers? members hMembers⟩

end

end Tree

end DeferredJobs
