import DeferredJobs.Proofs.Query.OrderBy

/-!
# The older ordering text, exactly

Which texts are read, and as what, is said by relations that do not follow the reader: `IsCut` for the
clauses between the commas, `IsClause` for what a clause says, with `IsColumn` and `NameOf` inside. A
text is read exactly if all its clauses say something, and otherwise the answer is the first that says
nothing.

* `isCut_iff`: the clauses of a text.
* `columnName?_eq_some_iff`, `functionAndColumn?_eq_some_iff`, `column?_eq_some_iff`: columns.
* `ofName?_eq_some_iff`: directions.
* `clause?_eq_some_iff`: clauses.
* `parse_append`: joined texts are read one after the other.
* `parse_exact`: what becomes of any text.
-/

namespace DeferredJobs

/-! ## Lists of results -/

section Results

variable {α β ε : Type} {f : α → Except ε β}

theorem mapM_ok_iff {Says : β → α → Prop} {items : List α}
    (h : ∀ item ∈ items, ∀ value, f item = .ok value ↔ Says value item) {values : List β} :
    items.mapM f = .ok values ↔ List.Forall₂ Says values items := by
  induction items generalizing values with
  | nil =>
    constructor
    · intro hRead
      cases hRead
      exact .nil
    · intro hSays
      cases hSays
      rfl
  | cons item items ih =>
    obtain ⟨hItem, hItems⟩ := List.forall_mem_cons.1 h
    rw [List.mapM_cons]
    constructor
    · intro hRead
      obtain ⟨value, hFirst, hRead⟩ := bind_eq_ok hRead
      obtain ⟨rest, hRest, hRead⟩ := bind_eq_ok hRead
      cases hRead
      exact .cons ((hItem value).1 hFirst) ((ih hItems).1 hRest)
    · rintro (_ | ⟨hFirst, hRest⟩)
      rw [(hItem _).2 hFirst, ok_bind, (ih hItems).2 hRest]
      rfl

/-- The first item without a result decides. -/
theorem mapM_error_iff {items : List α} {e : ε} :
    items.mapM f = .error e ↔
      ∃ before item after, items = before ++ item :: after ∧
        (∀ earlier ∈ before, ∃ value, f earlier = .ok value) ∧ f item = .error e := by
  induction items with
  | nil =>
    refine ⟨nofun, fun ⟨before, item, after, hItems, _⟩ => ?_⟩
    cases before <;> cases hItems
  | cons first items ih =>
    rw [List.mapM_cons]
    constructor
    · intro h
      rcases bind_eq_error h with hFirst | ⟨value, hFirst, h⟩
      · exact ⟨[], first, items, rfl, nofun, hFirst⟩
      · rcases bind_eq_error h with hRest | ⟨values, -, h⟩
        · obtain ⟨before, item, after, rfl, hBefore, hItem⟩ := ih.1 hRest
          exact ⟨first :: before, item, after, rfl,
            List.forall_mem_cons.2 ⟨⟨value, hFirst⟩, hBefore⟩, hItem⟩
        · cases h
    · rintro ⟨before, item, after, hItems, hBefore, hItem⟩
      cases before with
      | nil =>
        obtain ⟨rfl, rfl⟩ := List.cons.inj hItems
        rw [hItem]
        rfl
      | cons earlier before =>
        rw [List.cons_append, List.cons.injEq] at hItems
        obtain ⟨rfl, rfl⟩ := hItems
        obtain ⟨⟨value, hFirst⟩, hBefore⟩ := List.forall_mem_cons.1 hBefore
        rw [hFirst, ok_bind, ih.2 ⟨before, item, after, rfl, hBefore, hItem⟩]
        rfl

end Results

namespace Query.OrderBy

open Text

/-! ## What texts say -/

/-- Pieces between commas, and what is left without padding of those that are not blank. -/
inductive Trims : List (List Char) → List (List Char) → Prop
  | nil : Trims [] []
  | blank {piece : List Char} {pieces clauses : List (List Char)} (hPiece : Blank piece)
    (hRest : Trims pieces clauses) : Trims (piece :: pieces) clauses
  | padded {before clause after : List Char} {pieces clauses : List (List Char)}
    (hBefore : Blank before) (hClause : Tight clause) (hNonempty : clause ≠ [])
    (hAfter : Blank after) (hRest : Trims pieces clauses) :
    Trims ((before ++ clause ++ after) :: pieces) (clause :: clauses)

/-- The clauses of a text that is cut at every comma. -/
def IsCut (text : List Char) (clauses : List (List Char)) : Prop :=
  ∃ pieces, pieces ≠ [] ∧ [','].intercalate pieces = text ∧ (∀ piece ∈ pieces, ',' ∉ piece) ∧
    Trims pieces clauses

/-- The name in a column, with or without the alias of a table. -/
inductive NameOf (name : List Char) : List Char → Prop
  | bare (hName : '.' ∉ name) : NameOf name name
  | aliased {table : List Char} (hTable : '.' ∉ table) (hName : '.' ∉ name) :
    NameOf name (table ++ '.' :: name)

/-- A column alone, or under a function. The function ends at the first opening parenthesis, and the
closing one ends the token. -/
inductive IsColumn : Column → List Char → Prop
  | bare {name token : List Char} (hToken : '(' ∉ token) (hName : NameOf name token)
    (hNonempty : name ≠ []) : IsColumn ⟨String.ofList name, none⟩ token
  | applied {function name column : List Char} (hFunction : '(' ∉ function)
    (hFunctionNonempty : function ≠ []) (hName : NameOf name column) (hNonempty : name ≠ []) :
    IsColumn ⟨String.ofList name, some (String.ofList function)⟩
      (function ++ '(' :: (column ++ [')']))

/-- One token, or two with blanks between them. -/
inductive IsClause : SortKey → List Char → Prop
  | undirected {column : Column} {token : List Char} (hToken : Unbroken token)
    (hColumn : IsColumn column token) : IsClause ⟨.entity, some column, none, []⟩ token
  | directed {column : Column} {direction : Direction} {token gap word : List Char}
    (hToken : Unbroken token) (hColumn : IsColumn column token) (hGap : Blank gap)
    (hGapNonempty : gap ≠ []) (hWord : Cased word direction.name.toList) :
    IsClause ⟨.entity, some column, some direction, []⟩ (token ++ gap ++ word)

/-! ## Clauses of a text -/

theorem Trims.filter_eq {pieces clauses : List (List Char)} (h : Trims pieces clauses) :
    (pieces.map trim).filter (!·.isEmpty) = clauses := by
  induction h with
  | nil => rfl
  | blank hPiece _ ih =>
    rw [List.map_cons, trim_of_blank hPiece]
    exact ih
  | padded hBefore hClause hNonempty hAfter _ ih =>
    rw [List.map_cons, trim_padded hBefore hClause hAfter,
      List.filter_cons_of_pos (by simpa using hNonempty), ih]

theorem trims_filter (pieces : List (List Char)) :
    Trims pieces ((pieces.map trim).filter (!·.isEmpty)) := by
  induction pieces with
  | nil => exact .nil
  | cons piece pieces ih =>
    obtain ⟨before, after, hBefore, hAfter, hPiece, hTight⟩ := exists_trim piece
    rw [List.map_cons]
    by_cases hEmpty : trim piece = []
    · rw [List.filter_cons_of_neg (by simp [hEmpty])]
      refine .blank ?_ ih
      rw [hPiece, hEmpty, List.append_nil]
      exact hBefore.append hAfter
    · rw [List.filter_cons_of_pos (by simpa using hEmpty)]
      generalize trim piece = clause at hPiece hTight hEmpty
      subst hPiece
      exact .padded hBefore hTight hEmpty hAfter ih

theorem isCut_iff {text : List Char} {found : List (List Char)} :
    IsCut text found ↔ found = clauses text := by
  constructor
  · rintro ⟨pieces, hNonempty, rfl, hPieces, hTrims⟩
    rw [clauses_join hPieces, hTrims.filter_eq]
  · rintro rfl
    refine ⟨split (· == ',') text, split_ne_nil _ text, join_split ',' text, ?_, trims_filter _⟩
    intro piece hPiece hComma
    simpa using of_mem_split hPiece ',' hComma

theorem tight_of_mem_clauses {text clause : List Char} (h : clause ∈ clauses text) :
    Tight clause := by
  obtain ⟨hMem, -⟩ := List.mem_filter.1 h
  obtain ⟨piece, -, rfl⟩ := List.mem_map.1 hMem
  obtain ⟨-, -, -, -, -, hTight⟩ := exists_trim piece
  exact hTight

/-! ## Columns -/

theorem columnName?_eq_some_iff {column name : List Char} :
    columnName? column = some name ↔ NameOf name column ∧ name ≠ [] := by
  constructor
  · intro h
    have hJoin := join_split '.' column
    have hPieces (piece : List Char) (hPiece : piece ∈ split (· == '.') column) : '.' ∉ piece :=
      fun hDot => by simpa using of_mem_split hPiece '.' hDot
    rw [columnName?] at h
    split at h
    · rename_i last hSplit
      rw [hSplit] at hJoin hPieces
      split at h
      · cases h
      · rename_i hNonempty
        cases h
        rw [show column = name by simpa using hJoin.symm]
        exact ⟨.bare (hPieces name (by simp)), by simpa using hNonempty⟩
    · rename_i table last hSplit
      rw [hSplit] at hJoin hPieces
      split at h
      · cases h
      · rename_i hNonempty
        cases h
        rw [show column = table ++ '.' :: name by simpa [List.intercalate] using hJoin.symm]
        exact ⟨.aliased (hPieces table (by simp)) (hPieces name (by simp)), by simpa using hNonempty⟩
    · cases h
  · rintro ⟨hName | ⟨hTable, hName⟩, hNonempty⟩
    · exact columnName?_bare hName hNonempty
    · exact columnName?_aliased hTable hName hNonempty

theorem functionAndColumn?_eq_some_iff {token column : List Char} {function : Option (List Char)} :
    functionAndColumn? token = some (function, column) ↔
      (function = none ∧ column = token ∧ '(' ∉ token) ∨
        ∃ name, function = some name ∧ '(' ∉ name ∧ token = name ++ '(' :: (column ++ [')']) := by
  by_cases hOpen : '(' ∈ token
  · obtain ⟨name, rest, rfl, hName⟩ := List.eq_append_cons_of_mem hOpen
    rw [functionAndColumn?_open hName]
    constructor
    · intro h
      obtain ⟨found, hClose, h⟩ := Option.map_eq_some_iff.1 h
      cases h
      exact .inr ⟨name, rfl, hName, by rw [beforeClose?_eq_some_iff.1 hClose]⟩
    · rintro (⟨-, -, hNone⟩ | ⟨found, rfl, hFound, hToken⟩)
      · exact absurd hOpen hNone
      · rw [← functionAndColumn?_open hName, hToken, functionAndColumn?_applied hFound]
  · rw [functionAndColumn?_bare hOpen]
    constructor
    · intro h
      cases h
      exact .inl ⟨rfl, rfl, hOpen⟩
    · rintro (⟨rfl, rfl, -⟩ | ⟨name, -, -, rfl⟩)
      · rfl
      · exact absurd (by simp) hOpen

theorem column?_eq_some_iff {token : List Char} {column : Column} :
    column? token = some column ↔ IsColumn column token := by
  constructor
  · intro h
    obtain ⟨⟨function, text⟩, hToken, h⟩ := Option.bind_eq_some_iff.1 h
    obtain ⟨name, hName, h⟩ := Option.bind_eq_some_iff.1 h
    obtain ⟨done, hGuard, h⟩ := Option.bind_eq_some_iff.1 h
    obtain ⟨hName, hNonempty⟩ := columnName?_eq_some_iff.1 hName
    cases h
    rcases functionAndColumn?_eq_some_iff.1 hToken with
      ⟨rfl, rfl, hOpen⟩ | ⟨function, rfl, hOpen, rfl⟩
    · exact .bare hOpen hName hNonempty
    · refine .applied hOpen ?_ hName hNonempty
      rintro rfl
      cases hGuard
  · rintro (⟨hOpen, hName, hNonempty⟩ | ⟨hOpen, hFunction, hName, hNonempty⟩)
    · exact column?_eq (functionAndColumn?_bare hOpen)
        (columnName?_eq_some_iff.2 ⟨hName, hNonempty⟩) rfl
    · exact column?_eq (functionAndColumn?_applied hOpen _)
        (columnName?_eq_some_iff.2 ⟨hName, hNonempty⟩) (by simpa using hFunction)

theorem IsColumn.nonempty {column : Column} {token : List Char} (h : IsColumn column token) :
    token ≠ [] := by
  rcases h with ⟨-, hName, hNonempty⟩ | ⟨-, -, -, -⟩
  · cases hName with
    | bare hName => exact hNonempty
    | aliased hTable hName => simp
  · simp

/-! ## Directions -/

theorem eq_or_eq_toUpper {c letter : Char} (h : c.toLower = letter) :
    c = letter ∨ c = letter.toUpper := by
  unfold Char.toLower at h
  split at h
  · rename_i hUpper
    right
    subst h
    have hLower : 'a'.val ≤ c.val + ('a'.val - 'A'.val) ∧
        c.val + ('a'.val - 'A'.val) ≤ 'z'.val := by
      obtain ⟨hFirst, hLast⟩ := hUpper
      have hFirst : 65 ≤ c.val.toNat := hFirst
      have hLast : c.val.toNat ≤ 90 := hLast
      have hSum : (c.val + ('a'.val - 'A'.val)).toNat = c.val.toNat + 32 := by
        rw [UInt32.toNat_add]
        have : ('a'.val - 'A'.val).toNat = 32 := rfl
        omega
      rw [UInt32.le_iff_toNat_le, UInt32.le_iff_toNat_le, hSum]
      have : 'a'.val.toNat = 97 := rfl
      have : 'z'.val.toNat = 122 := rfl
      omega
    unfold Char.toUpper
    rw [dif_pos hLower]
    refine Char.ext ?_
    show c.val = c.val + ('a'.val - 'A'.val) + ('A'.val - 'a'.val)
    rw [UInt32.add_assoc]
    exact (UInt32.add_zero _).symm
  · exact .inl h

theorem cased_of_map_toLower {word keyword : List Char} (h : word.map Char.toLower = keyword) :
    Cased word keyword := by
  subst h
  induction word with
  | nil => exact .nil
  | cons c word ih => exact .cons (eq_or_eq_toUpper rfl) ih

theorem ofName?_eq_some_iff {word : List Char} {direction : Direction} :
    Direction.ofName? word = some direction ↔ Cased word direction.name.toList := by
  refine ⟨fun h => ?_, Cased.ofName?⟩
  rw [Direction.ofName?] at h
  split at h
  · rename_i hName
    cases h
    exact cased_of_map_toLower (equalIgnoringCase_iff.1 hName)
  · split at h
    · rename_i hName
      cases h
      exact cased_of_map_toLower (equalIgnoringCase_iff.1 hName)
    · cases h

/-! ## Clauses -/

theorem clause?_eq_some_iff {clause : List Char} (hTight : Tight clause) {key : SortKey} :
    clause? clause = some key ↔ IsClause key clause := by
  constructor
  · intro h
    rw [clause?] at h
    split at h
    · rename_i token hWords
      obtain ⟨rfl, hToken⟩ := hTight.eq_of_words_eq_single hWords
      obtain ⟨column, hColumn, h⟩ := Option.bind_eq_some_iff.1 h
      cases h
      exact .undirected hToken (column?_eq_some_iff.1 hColumn)
    · rename_i token word hWords
      obtain ⟨gap, rfl, hToken, hGap, hGapNonempty⟩ := hTight.eq_of_words_eq_pair hWords
      obtain ⟨direction, hWord, h⟩ := Option.bind_eq_some_iff.1 h
      obtain ⟨column, hColumn, h⟩ := Option.bind_eq_some_iff.1 h
      cases h
      exact .directed hToken (column?_eq_some_iff.1 hColumn) hGap hGapNonempty
        (ofName?_eq_some_iff.1 hWord)
    · cases h
  · rintro (⟨hToken, hColumn⟩ | ⟨hToken, hColumn, hGap, hGapNonempty, hWord⟩)
    · exact clause?_undirected hColumn.nonempty hToken (column?_eq_some_iff.2 hColumn)
    · exact clause?_directed hColumn.nonempty hToken (column?_eq_some_iff.2 hColumn) hGapNonempty
        hGap hWord

/-! ## Texts -/

theorem parseClause_ok_iff {clause : List Char} (hTight : Tight clause) {key : SortKey} :
    parseClause clause = .ok key ↔ IsClause key clause := by
  rw [← clause?_eq_some_iff hTight, parseClause]
  split <;> simp [*]

theorem parseClause_error_iff {clause : List Char} (hTight : Tight clause)
    {e : ConfigurationError} :
    parseClause clause = .error e ↔
      (∀ key, ¬ IsClause key clause) ∧ e = .invalidValue "orderBy" (String.ofList clause) := by
  simp only [← clause?_eq_some_iff hTight, parseClause]
  split <;> simp [*, eq_comm]

theorem parse_append (a b : String) :
    parse (a ++ "," ++ b) = do
      let first ← parse a
      let second ← parse b
      return first ++ second := by
  have hClauses : clauses (a ++ "," ++ b).toList = clauses a.toList ++ clauses b.toList := by
    have hText : (a ++ "," ++ b).toList = a.toList ++ ',' :: b.toList := by simp
    rw [hText, clauses, split_append_separator (by decide), List.map_append, List.filter_append]
    rfl
  rw [parse, hClauses, List.mapM_append]
  rfl

/-- A text has clauses, and they decide. If each of them is one, the sort keys that they say are read,
in order. Otherwise the first that is none is the answer, without padding and otherwise as written.
So of two texts joined by a comma the second is read after the first. -/
theorem parse_exact :
    (∀ text : String, ∃ found, (∀ clauses, IsCut text.toList clauses ↔ clauses = found) ∧
      (∀ keys, parse text = .ok keys ↔ List.Forall₂ IsClause keys found) ∧
      ∀ e, parse text = .error e ↔
        ∃ before clause after, found = before ++ clause :: after ∧
          (∀ earlier ∈ before, ∃ key, IsClause key earlier) ∧ (∀ key, ¬ IsClause key clause) ∧
          e = .invalidValue "orderBy" (String.ofList clause)) ∧
    ∀ a b : String, parse (a ++ "," ++ b) = do
      let first ← parse a
      let second ← parse b
      return first ++ second := by
  refine ⟨fun text => ⟨clauses text.toList, fun _ => isCut_iff, fun keys => ?_, fun e => ?_⟩,
    parse_append⟩
  · exact mapM_ok_iff fun clause hMem key => parseClause_ok_iff (tight_of_mem_clauses hMem)
  · rw [parse, mapM_error_iff]
    refine exists_congr fun before => exists_congr fun clause => exists_congr fun after =>
      and_congr_right fun hFound => ?_
    have hTight (piece : List Char) (hMem : piece ∈ before ++ clause :: after) : Tight piece :=
      tight_of_mem_clauses (hFound ▸ hMem)
    rw [parseClause_error_iff (hTight clause (by simp))]
    refine and_congr (forall₂_congr fun earlier hMem => exists_congr fun key => ?_) Iff.rfl
    exact parseClause_ok_iff (hTight earlier (by simp [hMem]))

/-- The column of the second clause has two aliases. The third clause is not looked at. -/
example : parse "ID_ asc,  a.b.c  ,(x" = .error (.invalidValue "orderBy" "a.b.c") := rfl

end Query.OrderBy

end DeferredJobs
