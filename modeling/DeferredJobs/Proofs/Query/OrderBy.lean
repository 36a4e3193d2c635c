import Mathlib.Data.List.Forall2
import DeferredJobs.Proofs.Configuration.Field
import DeferredJobs.Proofs.Text.Blank
import DeferredJobs.Query.OrderBy

/-!
# Reading the older ordering text

`Spells` is the grammar of the older text: which pieces between commas stand for which clauses.
The names in a clause are free of blanks and of the four characters that structure a clause, an
alias may stand before the column, the direction may be in any case, and blank pieces may stand
anywhere.

* `parse_of_spells`: a text is read as the clauses that it spells.
* `relation_of_parse`: only columns of the queried entity can be written in this form.
-/

namespace DeferredJobs.Query.OrderBy

open Text

/-! ## The grammar -/

/-- Free of blanks and of the characters that structure a clause. -/
def Plain (text : List Char) : Prop :=
  ∀ c ∈ text, isBlank c = false ∧ c ∉ [',', '.', '(', ')']

instance (text : List Char) : Decidable (Plain text) :=
  inferInstanceAs (Decidable (∀ c ∈ text, isBlank c = false ∧ c ∉ [',', '.', '(', ')']))

structure IsName (text : String) : Prop where
  nonempty : text.toList ≠ []
  plain : Plain text.toList

instance (text : String) : Decidable (IsName text) :=
  decidable_of_iff (text.toList ≠ [] ∧ Plain text.toList)
    ⟨fun h => ⟨h.1, h.2⟩, fun h => ⟨h.nonempty, h.plain⟩⟩

/-- A column under a function or alone, and a direction or none. -/
structure Clause where
  column : String
  function : Option String := none
  direction : Option Direction := none
  isName_column : IsName column := by decide
  isName_function : ∀ name ∈ function, IsName name := by decide

def Clause.key (clause : Clause) : SortKey :=
  ⟨.entity, some ⟨clause.column, clause.function⟩, clause.direction, []⟩

/-- The column with or without the alias of its table. -/
inductive SpellsColumn (column : String) : List Char → Prop
  | bare : SpellsColumn column column.toList
  | aliased (table : List Char) (hTable : Plain table) :
    SpellsColumn column (table ++ '.' :: column.toList)

inductive SpellsProperty (column : String) : Option String → List Char → Prop
  | bare {text : List Char} (hColumn : SpellsColumn column text) : SpellsProperty column none text
  | applied (function : String) {text : List Char} (hColumn : SpellsColumn column text) :
    SpellsProperty column (some function) (function.toList ++ '(' :: (text ++ [')']))

/-- A keyword in small letters, each of which may as well be a capital. -/
def Cased (text keyword : List Char) : Prop :=
  List.Forall₂ (fun c letter => c = letter ∨ c = letter.toUpper) text keyword

instance (text keyword : List Char) : Decidable (Cased text keyword) :=
  inferInstanceAs (Decidable (List.Forall₂ _ text keyword))

/-- The direction, with the blanks that part it from the property. -/
inductive SpellsDirection : Option Direction → List Char → Prop
  | none : SpellsDirection none []
  | some (direction : Direction) {gap text : List Char} (hNonempty : gap ≠ []) (hGap : Blank gap)
    (hText : Cased text direction.name.toList) : SpellsDirection (some direction) (gap ++ text)

inductive SpellsClause (clause : Clause) : List Char → Prop
  | padded {before property direction after : List Char} (hBefore : Blank before)
    (hProperty : SpellsProperty clause.column clause.function property)
    (hDirection : SpellsDirection clause.direction direction) (hAfter : Blank after) :
    SpellsClause clause (before ++ (property ++ direction) ++ after)

/-- The pieces between the commas of a text, and the clauses they stand for. -/
inductive Spells : List Clause → List (List Char) → Prop
  | nil : Spells [] []
  | blank {clauses : List Clause} {piece : List Char} {pieces : List (List Char)}
    (hPiece : Blank piece) (hRest : Spells clauses pieces) : Spells clauses (piece :: pieces)
  | clause {clause : Clause} {clauses : List Clause} {piece : List Char}
    {pieces : List (List Char)} (hPiece : SpellsClause clause piece)
    (hRest : Spells clauses pieces) : Spells (clause :: clauses) (piece :: pieces)

/-! ## Columns -/

theorem Plain.not_mem {text : List Char} (h : Plain text) {c : Char}
    (hc : c ∈ [',', '.', '(', ')']) : c ∉ text := fun hMem => (h c hMem).2 hc

theorem split_of_not_mem {separator : Char} {text : List Char} (h : separator ∉ text) :
    split (· == separator) text = [text] := by
  refine split_of_none fun c hc => ?_
  rw [beq_eq_false_iff_ne]
  rintro rfl
  exact h hc

theorem columnName?_bare {name : List Char} (hName : '.' ∉ name) (hNonempty : name ≠ []) :
    columnName? name = some name := by
  simp only [columnName?, split_of_not_mem hName, List.isEmpty_iff, hNonempty, ite_false]

theorem columnName?_aliased {table name : List Char} (hTable : '.' ∉ table) (hName : '.' ∉ name)
    (hNonempty : name ≠ []) : columnName? (table ++ '.' :: name) = some name := by
  have hSplit : split (· == '.') (table ++ '.' :: name) = [table, name] := by
    rw [split_append_separator (by decide), split_of_not_mem hTable, split_of_not_mem hName]
    rfl
  simp only [columnName?, hSplit, List.isEmpty_iff, hNonempty, ite_false]

theorem columnName?_of_spells {column : String} {text : List Char} (hName : IsName column)
    (h : SpellsColumn column text) : columnName? text = some column.toList := by
  have hNoDot : '.' ∉ column.toList := hName.plain.not_mem (by decide)
  cases h with
  | bare => exact columnName?_bare hNoDot hName.nonempty
  | aliased table hTable =>
    exact columnName?_aliased (hTable.not_mem (by decide)) hNoDot hName.nonempty

theorem functionAndColumn?_bare {token : List Char} (h : '(' ∉ token) :
    functionAndColumn? token = some (none, token) := by
  have hRest : token.dropWhile (· != '(') = [] := by
    refine List.dropWhile_eq_nil_iff.2 fun c hc => ?_
    rw [bne_iff_ne]
    rintro rfl
    exact h hc
  rw [functionAndColumn?, hRest]

theorem functionAndColumn?_open {function : List Char} (h : '(' ∉ function) (rest : List Char) :
    functionAndColumn? (function ++ '(' :: rest) =
      (beforeClose? rest).map fun column => (some function, column) := by
  have hBefore : ∀ c ∈ function, (c != '(') = true := by
    intro c hc
    rw [bne_iff_ne]
    rintro rfl
    exact h hc
  have hDrop : (function ++ '(' :: rest).dropWhile (· != '(') = '(' :: rest := by
    rw [List.dropWhile_append_of_pos hBefore]
    rfl
  have hTake : (function ++ '(' :: rest).takeWhile (· != '(') = function := by
    rw [List.takeWhile_append_of_pos hBefore]
    simp
  simp only [functionAndColumn?, hDrop, hTake]

theorem beforeClose?_eq_some_iff {text column : List Char} :
    beforeClose? text = some column ↔ text = column ++ [')'] := by
  rw [beforeClose?]
  constructor
  · intro h
    split at h
    · rename_i hLast
      cases h
      exact (List.dropLast_append_getLast? ')' hLast).symm
    · cases h
  · rintro rfl
    simp

theorem functionAndColumn?_applied {function : List Char} (h : '(' ∉ function)
    (column : List Char) :
    functionAndColumn? (function ++ '(' :: (column ++ [')'])) = some (some function, column) := by
  rw [functionAndColumn?_open h, beforeClose?_eq_some_iff.2 rfl, Option.map_some]

theorem SpellsColumn.chars {column : String} {text : List Char} (h : SpellsColumn column text)
    (hName : IsName column) : ∀ c ∈ text, isBlank c = false ∧ c ∉ [',', '(', ')'] := by
  have hPlain {text : List Char} (hText : Plain text) (c : Char) (hc : c ∈ text) :
      isBlank c = false ∧ c ∉ [',', '(', ')'] := by
    obtain ⟨hBlank, hStructure⟩ := hText c hc
    refine ⟨hBlank, fun hMem => hStructure ?_⟩
    simp only [List.mem_cons, List.not_mem_nil, or_false] at hMem ⊢
    rcases hMem with rfl | rfl | rfl <;> decide
  intro c hc
  cases h with
  | bare => exact hPlain hName.plain c hc
  | aliased table hTable =>
    rcases List.mem_append.1 hc with hc | hc
    · exact hPlain hTable c hc
    · rcases List.mem_cons.1 hc with rfl | hc
      · decide
      · exact hPlain hName.plain c hc

theorem column?_eq {token column name : List Char} {function : Option (List Char)}
    (hToken : functionAndColumn? token = some (function, column))
    (hName : columnName? column = some name)
    (hFunction : function.all (!·.isEmpty) = true) :
    column? token = some ⟨String.ofList name, function.map String.ofList⟩ := by
  have hGuard : (guard (function.all (!·.isEmpty) = true) : Option Unit) = some () :=
    if_pos hFunction
  rw [column?, hToken]
  show (columnName? column >>= _) = _
  rw [hName]
  show ((guard (function.all (!·.isEmpty) = true) : Option Unit) >>= _) = _
  rw [hGuard]
  rfl

theorem column?_of_spells {clause : Clause} {token : List Char}
    (h : SpellsProperty clause.column clause.function token) :
    column? token = some ⟨clause.column, clause.function⟩ := by
  obtain ⟨column, function, direction, hColumnName, hFunctionName⟩ := clause
  dsimp only at h hColumnName ⊢
  cases h with
  | bare hColumn =>
    have hNoOpen : '(' ∉ token := fun hMem => (hColumn.chars hColumnName _ hMem).2 (by decide)
    rw [column?_eq (functionAndColumn?_bare hNoOpen) (columnName?_of_spells hColumnName hColumn)
      rfl, String.ofList_toList]
    rfl
  | @applied function text hColumn =>
    have hFunction : IsName function := hFunctionName function rfl
    have hNoOpen : '(' ∉ function.toList := hFunction.plain.not_mem (by decide)
    have hNonempty : (!function.toList.isEmpty) = true := by simpa using hFunction.nonempty
    rw [column?_eq (functionAndColumn?_applied hNoOpen text)
      (columnName?_of_spells hColumnName hColumn) hNonempty, Option.map_some,
      String.ofList_toList, String.ofList_toList]

/-! ## Directions -/

theorem Cased.forall {text keyword : List Char} (h : Cased text keyword) {p : Char → Prop}
    (hKeyword : ∀ letter ∈ keyword, p letter ∧ p letter.toUpper) : ∀ c ∈ text, p c := by
  induction h with
  | nil => exact fun _ hc => absurd hc List.not_mem_nil
  | @cons c letter text keyword hChar _ ih =>
    have hLetter := hKeyword letter List.mem_cons_self
    intro d hd
    rcases List.mem_cons.1 hd with rfl | hd
    · rcases hChar with rfl | rfl
      · exact hLetter.1
      · exact hLetter.2
    · exact ih (fun letter hMem => hKeyword letter (List.mem_cons_of_mem _ hMem)) d hd

theorem Cased.map_toLower {text keyword : List Char} (h : Cased text keyword)
    (hKeyword : ∀ letter ∈ keyword, letter.toUpper.toLower = letter.toLower) :
    text.map Char.toLower = keyword.map Char.toLower := by
  induction h with
  | nil => rfl
  | @cons c letter text keyword hChar _ ih =>
    have hLetter := hKeyword letter List.mem_cons_self
    have hRest := ih fun letter hMem => hKeyword letter (List.mem_cons_of_mem _ hMem)
    have hHead : c.toLower = letter.toLower := by
      rcases hChar with rfl | rfl
      · rfl
      · exact hLetter
    rw [List.map_cons, List.map_cons, hHead, hRest]

theorem Cased.ofName? {text : List Char} {direction : Direction}
    (h : Cased text direction.name.toList) : Direction.ofName? text = some direction := by
  have hLower : text.map Char.toLower = direction.name.toList.map Char.toLower :=
    h.map_toLower (by cases direction <;> decide)
  have hSame : Direction.ofName? text = Direction.ofName? direction.name.toList := by
    unfold Direction.ofName? equalIgnoringCase
    rw [hLower]
  rw [hSame]
  cases direction <;> rfl

theorem Cased.unbroken {text : List Char} {direction : Direction}
    (h : Cased text direction.name.toList) : Unbroken text :=
  h.forall (by cases direction <;> decide)

theorem Cased.no_comma {text : List Char} {direction : Direction}
    (h : Cased text direction.name.toList) : ',' ∉ text := fun hMem =>
  h.forall (p := (· ≠ ',')) (by cases direction <;> decide) ',' hMem rfl

theorem Cased.nonempty {text : List Char} {direction : Direction}
    (h : Cased text direction.name.toList) : text ≠ [] := by
  rintro rfl
  cases direction <;> cases h

/-! ## Clauses -/

namespace SpellsProperty

variable {clause : Clause} {text : List Char}

theorem chars (h : SpellsProperty clause.column clause.function text) :
    ∀ c ∈ text, isBlank c = false ∧ c ≠ ',' := by
  obtain ⟨column, function, direction, hColumnName, hFunctionName⟩ := clause
  dsimp only at h hColumnName
  have hColumnChars {text : List Char} (hColumn : SpellsColumn column text) (c : Char)
      (hc : c ∈ text) : isBlank c = false ∧ c ≠ ',' := by
    obtain ⟨hBlank, hStructure⟩ := hColumn.chars hColumnName c hc
    refine ⟨hBlank, ?_⟩
    rintro rfl
    exact hStructure (by decide)
  intro c hc
  cases h with
  | bare hColumn => exact hColumnChars hColumn c hc
  | @applied function text hColumn =>
    have hFunction : IsName function := hFunctionName function rfl
    simp only [List.mem_append, List.mem_cons, List.not_mem_nil, or_false] at hc
    rcases hc with hc | rfl | hc | rfl
    · obtain ⟨hBlank, hStructure⟩ := hFunction.plain c hc
      refine ⟨hBlank, ?_⟩
      rintro rfl
      exact hStructure (by decide)
    · decide
    · exact hColumnChars hColumn c hc
    · decide

theorem unbroken (h : SpellsProperty clause.column clause.function text) : Unbroken text :=
  fun c hc => (h.chars c hc).1

theorem nonempty (h : SpellsProperty clause.column clause.function text) : text ≠ [] := by
  obtain ⟨column, function, direction, hColumnName, hFunctionName⟩ := clause
  cases h with
  | bare hColumn =>
    cases hColumn with
    | bare => exact hColumnName.nonempty
    | aliased table _ => simp
  | applied function hColumn => simp

end SpellsProperty

theorem Blank.no_comma {text : List Char} (h : Blank text) : ',' ∉ text := fun hMem => by
  have hBlank := h ',' hMem
  revert hBlank
  decide

theorem SpellsDirection.no_comma {direction : Option Direction} {text : List Char}
    (h : SpellsDirection direction text) : ',' ∉ text := by
  cases h with
  | none => exact List.not_mem_nil
  | some direction hNonempty hGap hText =>
    rw [List.mem_append, not_or]
    exact ⟨Blank.no_comma hGap, hText.no_comma⟩

theorem SpellsClause.no_comma {clause : Clause} {piece : List Char}
    (h : SpellsClause clause piece) : ',' ∉ piece := by
  cases h with
  | padded hBefore hProperty hDirection hAfter =>
    simp only [List.mem_append, not_or]
    exact ⟨⟨Blank.no_comma hBefore, fun hMem => (hProperty.chars _ hMem).2 rfl,
      hDirection.no_comma⟩, Blank.no_comma hAfter⟩

section ReadClauses

variable {token : List Char} {column : Column}

theorem clause?_undirected (hNonempty : token ≠ []) (hToken : Unbroken token)
    (hColumn : column? token = some column) :
    clause? token = some ⟨.entity, some column, none, []⟩ := by
  simp only [clause?, words_single hNonempty hToken, hColumn, Option.bind_eq_bind,
    Option.bind_some]
  rfl

theorem clause?_directed {gap word : List Char} {direction : Direction} (hNonempty : token ≠ [])
    (hToken : Unbroken token) (hColumn : column? token = some column) (hGapNonempty : gap ≠ [])
    (hGap : Blank gap) (hWord : Cased word direction.name.toList) :
    clause? (token ++ gap ++ word) = some ⟨.entity, some column, some direction, []⟩ := by
  have hWords : words (token ++ gap ++ word) = [token, word] :=
    words_pair hNonempty hToken hWord.nonempty hWord.unbroken hGapNonempty hGap
  simp only [clause?, hWords, hWord.ofName?, hColumn, Option.bind_eq_bind, Option.bind_some]
  rfl

end ReadClauses

/-- A clause without its padding is not empty, and it is read as the clause. -/
theorem parseClause_trim {clause : Clause} {piece : List Char} (h : SpellsClause clause piece) :
    trim piece ≠ [] ∧ parseClause (trim piece) = .ok clause.key := by
  cases h with
  | @padded before property direction after hBefore hProperty hDirection hAfter =>
    have hColumn := column?_of_spells hProperty
    generalize hValue : clause.direction = value at hDirection
    cases hDirection with
    | none =>
      have hTrim : trim (before ++ (property ++ []) ++ after) = property := by
        rw [List.append_nil]
        exact trim_padded hBefore hProperty.unbroken.tight hAfter
      rw [hTrim, parseClause, clause?_undirected hProperty.nonempty hProperty.unbroken hColumn,
        Clause.key, hValue]
      exact ⟨hProperty.nonempty, rfl⟩
    | @some direction gap text hNonempty hGap hText =>
      have hTight : Tight (property ++ gap ++ text) :=
        hProperty.unbroken.tight_between hText.unbroken hProperty.nonempty hText.nonempty gap
      have hTrim : trim (before ++ (property ++ (gap ++ text)) ++ after) =
          property ++ gap ++ text := by
        rw [← List.append_assoc property]
        exact trim_padded hBefore hTight hAfter
      rw [hTrim, parseClause, clause?_directed hProperty.nonempty hProperty.unbroken hColumn
        hNonempty hGap hText, Clause.key, hValue]
      exact ⟨by simp [hProperty.nonempty], rfl⟩

/-! ## Texts -/

/-- The clauses of joined pieces are what is left of the pieces after trimming. -/
theorem clauses_join {pieces : List (List Char)} (h : ∀ piece ∈ pieces, ',' ∉ piece) :
    clauses ([','].intercalate pieces) = (pieces.map trim).filter (!·.isEmpty) := by
  cases pieces with
  | nil => rfl
  | cons piece rest => rw [clauses, split_join (List.cons_ne_nil _ _) h]

theorem Spells.no_comma {clauses : List Clause} {pieces : List (List Char)}
    (h : Spells clauses pieces) : ∀ piece ∈ pieces, ',' ∉ piece := by
  induction h with
  | nil => exact fun _ hMem => absurd hMem List.not_mem_nil
  | blank hPiece _ ih => exact List.forall_mem_cons.2 ⟨Blank.no_comma hPiece, ih⟩
  | clause hPiece _ ih => exact List.forall_mem_cons.2 ⟨hPiece.no_comma, ih⟩

/-- A text is read as the clauses that it spells. -/
theorem parse_of_spells {clauses : List Clause} {pieces : List (List Char)}
    (h : Spells clauses pieces) :
    parse (String.ofList ([','].intercalate pieces)) = .ok (clauses.map Clause.key) := by
  rw [parse, String.toList_ofList, clauses_join h.no_comma]
  induction h with
  | nil => rfl
  | @blank clauses piece pieces hPiece _ ih =>
    rw [List.map_cons, trim_of_blank hPiece]
    exact ih
  | @clause clause clauses piece pieces hPiece _ ih =>
    obtain ⟨hNonempty, hParse⟩ := parseClause_trim hPiece
    have hKept : (trim piece :: pieces.map trim).filter (!·.isEmpty) =
        trim piece :: (pieces.map trim).filter (!·.isEmpty) :=
      List.filter_cons_of_pos (by simpa using hNonempty)
    rw [List.map_cons, hKept, List.mapM_cons, hParse, ok_bind, ih]
    rfl

/-! ## Relations -/

theorem relation_of_clause? {clause : List Char} {key : SortKey} (h : clause? clause = some key) :
    key.relation = .entity := by
  unfold clause? at h
  split at h
  · obtain ⟨column, -, hKey⟩ := Option.bind_eq_some_iff.1 h
    cases hKey
    rfl
  · obtain ⟨direction, -, h⟩ := Option.bind_eq_some_iff.1 h
    obtain ⟨column, -, hKey⟩ := Option.bind_eq_some_iff.1 h
    cases hKey
    rfl
  · cases h

/-- Only columns of the queried entity can be written in this form. -/
theorem relation_of_parse {text : String} {keys : List SortKey} (h : parse text = .ok keys) :
    ∀ key ∈ keys, key.relation = .entity := by
  unfold parse at h
  generalize clauses text.toList = pieces at h
  induction pieces generalizing keys with
  | nil =>
    cases h
    exact fun _ hMem => absurd hMem List.not_mem_nil
  | cons piece pieces ih =>
    rw [List.mapM_cons] at h
    obtain ⟨key, hKey, h⟩ := bind_eq_ok h
    obtain ⟨rest, hRest, h⟩ := bind_eq_ok h
    cases h
    refine List.forall_mem_cons.2 ⟨?_, ih hRest⟩
    unfold parseClause at hKey
    split at hKey
    · cases hKey
      exact relation_of_clause? ‹_›
    · cases hKey

end DeferredJobs.Query.OrderBy
