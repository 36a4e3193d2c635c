import DeferredJobs.Proofs.Query.Clauses

/-!
# Parentheses in the older ordering text

The grammar has parentheses in one place, around the column that a function is applied to. The reader
looks at two of them: the first that opens and one that ends the token. Any other is a letter of a name
to it. So a text with other parentheses is read unless it is refused for something else, and then a
name has them or an alias had them.

* `IsColumn.documented_iff`, `IsClause.documented_iff`: a clause that is read is one of the grammar
  exactly if its parentheses are a pair, or there are none.
* `IsClause.last_parenthesis`: what is opened has to be closed at the end of the token.
* `followsGrammar_iff`: the texts on which the reader follows the grammar.
-/

namespace DeferredJobs.Query.OrderBy

open Text

/-! ## The grammar -/

def isParenthesis (c : Char) : Bool :=
  c == '(' || c == ')'

def parentheses (text : List Char) : List Char :=
  text.filter isParenthesis

/-- No parentheses, or one pair. -/
def Paired (text : List Char) : Prop :=
  parentheses text = [] ∨ parentheses text = ['(', ')']

instance (text : List Char) : Decidable (Paired text) :=
  inferInstanceAs (Decidable (_ ∨ _))

/-- A column with or without an alias, alone or under a function, whose names have no parentheses. -/
inductive DocumentedColumn : Column → List Char → Prop
  | bare {name token : List Char} (hName : NameOf name token) (hNonempty : name ≠ [])
    (hToken : parentheses token = []) : DocumentedColumn ⟨String.ofList name, none⟩ token
  | applied {function name column : List Char} (hFunctionNonempty : function ≠ [])
    (hFunction : parentheses function = []) (hName : NameOf name column) (hNonempty : name ≠ [])
    (hColumn : parentheses column = []) :
    DocumentedColumn ⟨String.ofList name, some (String.ofList function)⟩
      (function ++ '(' :: (column ++ [')']))

inductive Documented : SortKey → List Char → Prop
  | undirected {column : Column} {token : List Char} (hToken : Unbroken token)
    (hColumn : DocumentedColumn column token) : Documented ⟨.entity, some column, none, []⟩ token
  | directed {column : Column} {direction : Direction} {token gap word : List Char}
    (hToken : Unbroken token) (hColumn : DocumentedColumn column token) (hGap : Blank gap)
    (hGapNonempty : gap ≠ []) (hWord : Cased word direction.name.toList) :
    Documented ⟨.entity, some column, some direction, []⟩ (token ++ gap ++ word)

/-- No name of the column has a parenthesis. -/
structure PlainNames (column : Column) : Prop where
  name : parentheses column.name.toList = []
  function : ∀ function, column.function = some function → parentheses function.toList = []

/-- What is read from a text are its clauses by the grammar, without parentheses in their names, and
a clause with other parentheses than a pair is refused. -/
structure FollowsGrammar (text : String) : Prop where
  documented : ∀ keys, parse text = .ok keys ↔
    List.Forall₂ Documented keys (clauses text.toList)
  plain : ∀ keys, parse text = .ok keys → ∀ key ∈ keys, ∀ column, key.column = some column →
    PlainNames column
  refused : ∀ clause ∈ clauses text.toList, ¬ Paired clause →
    ∃ found, parse text = .error (.invalidValue "orderBy" found)

/-! ## Related lists -/

section Related

variable {α β : Type} {R : α → β → Prop} {items : List α} {others : List β}

theorem exists_of_mem_left (h : List.Forall₂ R items others) {a : α} (hMem : a ∈ items) :
    ∃ b ∈ others, R a b := by
  induction h with
  | nil => cases hMem
  | cons hFirst _ ih =>
    rcases List.mem_cons.1 hMem with rfl | hRest
    · exact ⟨_, List.mem_cons_self, hFirst⟩
    · obtain ⟨b, hOther, hRelated⟩ := ih hRest
      exact ⟨b, List.mem_cons_of_mem _ hOther, hRelated⟩

theorem exists_of_mem_right (h : List.Forall₂ R items others) {b : β} (hMem : b ∈ others) :
    ∃ a ∈ items, R a b :=
  exists_of_mem_left h.flip hMem

end Related

/-! ## Parentheses of the parts of a clause -/

theorem parentheses_append (first second : List Char) :
    parentheses (first ++ second) = parentheses first ++ parentheses second :=
  List.filter_append first second

theorem parentheses_applied (function column : List Char) :
    parentheses (function ++ '(' :: (column ++ [')'])) =
      parentheses function ++ '(' :: (parentheses column ++ [')']) := by
  rw [parentheses_append]
  show parentheses function ++ '(' :: parentheses (column ++ [')']) = _
  rw [parentheses_append]
  rfl

theorem parentheses_eq_nil_iff {text : List Char} :
    parentheses text = [] ↔ '(' ∉ text ∧ ')' ∉ text := by
  simp only [parentheses, List.filter_eq_nil_iff, isParenthesis, Bool.or_eq_true, beq_iff_eq]
  constructor
  · intro h
    exact ⟨fun hOpen => h _ hOpen (.inl rfl), fun hClose => h _ hClose (.inr rfl)⟩
  · rintro ⟨hOpen, hClose⟩ c hc (rfl | rfl)
    · exact hOpen hc
    · exact hClose hc

theorem open_mem_parentheses_iff {text : List Char} : '(' ∈ parentheses text ↔ '(' ∈ text := by
  simp [parentheses, isParenthesis]

theorem parentheses_of_blank {text : List Char} (h : Blank text) : parentheses text = [] := by
  have hNot {c : Char} (hc : isBlank c = false) : c ∉ text := fun hMem => by
    rw [h c hMem] at hc
    cases hc
  exact parentheses_eq_nil_iff.2 ⟨hNot (by decide), hNot (by decide)⟩

/-- A direction has no parentheses in any case. -/
theorem parentheses_of_cased {word : List Char} {direction : Direction}
    (h : Cased word direction.name.toList) : parentheses word = [] := by
  have hNot {c : Char} (hc : ∀ letter ∈ direction.name.toList, c ≠ letter ∧ c ≠ letter.toUpper) :
      c ∉ word := fun hMem => by
    obtain ⟨letter, hLetter, hCase⟩ := exists_of_mem_left h hMem
    rcases hCase with hSmall | hCapital
    · exact (hc letter hLetter).1 hSmall
    · exact (hc letter hLetter).2 hCapital
  refine parentheses_eq_nil_iff.2 ⟨hNot ?_, hNot ?_⟩ <;> cases direction <;> decide

/-- The parentheses of a clause are those of its property. -/
theorem parentheses_directed {token gap word : List Char} {direction : Direction} (hGap : Blank gap)
    (hWord : Cased word direction.name.toList) :
    parentheses (token ++ gap ++ word) = parentheses token := by
  rw [parentheses_append, parentheses_append, parentheses_of_blank hGap,
    parentheses_of_cased hWord, List.append_nil, List.append_nil]

theorem NameOf.plain {name column : List Char} (h : NameOf name column)
    (hColumn : parentheses column = []) : parentheses name = [] := by
  cases h with
  | bare => exact hColumn
  | aliased =>
    rw [← List.singleton_append, parentheses_append, parentheses_append] at hColumn
    exact (List.append_eq_nil_iff.1 (List.append_eq_nil_iff.1 hColumn).2).2

/-! ## Clauses that are read -/

theorem DocumentedColumn.isColumn {column : Column} {token : List Char}
    (h : DocumentedColumn column token) : IsColumn column token := by
  cases h with
  | bare hName hNonempty hToken =>
    exact .bare (parentheses_eq_nil_iff.1 hToken).1 hName hNonempty
  | applied hFunctionNonempty hFunction hName hNonempty =>
    exact .applied (parentheses_eq_nil_iff.1 hFunction).1 hFunctionNonempty hName hNonempty

theorem DocumentedColumn.paired {column : Column} {token : List Char}
    (h : DocumentedColumn column token) : Paired token := by
  cases h with
  | bare hName hNonempty hToken => exact .inl hToken
  | applied hFunctionNonempty hFunction hName hNonempty hColumn =>
    right
    rw [parentheses_applied, hFunction, hColumn]
    rfl

theorem DocumentedColumn.plain {column : Column} {token : List Char}
    (h : DocumentedColumn column token) : PlainNames column := by
  cases h with
  | bare hName hNonempty hToken =>
    exact ⟨by rw [String.toList_ofList]; exact hName.plain hToken, nofun⟩
  | applied hFunctionNonempty hFunction hName hNonempty hColumn =>
    refine ⟨by rw [String.toList_ofList]; exact hName.plain hColumn, ?_⟩
    rintro _ ⟨⟩
    rw [String.toList_ofList]
    exact hFunction

theorem IsColumn.documented_iff {column : Column} {token : List Char} (h : IsColumn column token) :
    DocumentedColumn column token ↔ Paired token := by
  refine ⟨DocumentedColumn.paired, fun hPaired => ?_⟩
  cases h with
  | bare hOpen hName hNonempty =>
    rcases hPaired with hNone | hPair
    · exact .bare hName hNonempty hNone
    · exact absurd (open_mem_parentheses_iff.1 (by rw [hPair]; simp)) hOpen
  | @applied function name column hOpen hFunctionNonempty hName hNonempty =>
    rw [Paired, parentheses_applied] at hPaired
    rcases hPaired with hNone | hPair
    · exact absurd hNone (by simp)
    · -- The function has no opening parenthesis, so the pair is the one around the column.
      have hFunction : parentheses function = [] := by
        cases hParentheses : parentheses function with
        | nil => rfl
        | cons c rest =>
          rw [hParentheses, List.cons_append] at hPair
          obtain ⟨rfl, -⟩ := List.cons.inj hPair
          exact absurd (open_mem_parentheses_iff.1 (by rw [hParentheses]; simp)) hOpen
      rw [hFunction, List.nil_append, List.cons.injEq] at hPair
      exact .applied hFunctionNonempty hFunction hName hNonempty
        (List.append_left_eq_self.1 hPair.2)

theorem Documented.isClause {key : SortKey} {clause : List Char} (h : Documented key clause) :
    IsClause key clause := by
  cases h with
  | undirected hToken hColumn => exact .undirected hToken hColumn.isColumn
  | directed hToken hColumn hGap hGapNonempty hWord =>
    exact .directed hToken hColumn.isColumn hGap hGapNonempty hWord

theorem Documented.plain {key : SortKey} {clause : List Char} (h : Documented key clause)
    {column : Column} (hKey : key.column = some column) : PlainNames column := by
  cases h with
  | undirected hToken hColumn =>
    cases hKey
    exact hColumn.plain
  | directed hToken hColumn =>
    cases hKey
    exact hColumn.plain

theorem IsClause.documented_iff {key : SortKey} {clause : List Char} (h : IsClause key clause) :
    Documented key clause ↔ Paired clause := by
  constructor
  · intro hDocumented
    cases hDocumented with
    | undirected hToken hColumn => exact hColumn.paired
    | directed hToken hColumn hGap hGapNonempty hWord =>
      rw [Paired, parentheses_directed hGap hWord]
      exact hColumn.paired
  · intro hPaired
    cases h with
    | undirected hToken hColumn => exact .undirected hToken (hColumn.documented_iff.2 hPaired)
    | directed hToken hColumn hGap hGapNonempty hWord =>
      rw [Paired, parentheses_directed hGap hWord] at hPaired
      exact .directed hToken (hColumn.documented_iff.2 hPaired) hGap hGapNonempty hWord

theorem IsColumn.last_parenthesis {column : Column} {token : List Char} (h : IsColumn column token)
    (hOpen : '(' ∈ token) : (parentheses token).getLast? = some ')' := by
  cases h with
  | bare hNone => exact absurd hOpen hNone
  | applied =>
    rw [parentheses_applied, List.getLast?_append, List.getLast?_cons, List.getLast?_concat]
    rfl

theorem IsClause.last_parenthesis {key : SortKey} {clause : List Char} (h : IsClause key clause)
    (hOpen : '(' ∈ clause) : (parentheses clause).getLast? = some ')' := by
  rw [← open_mem_parentheses_iff] at hOpen
  cases h with
  | undirected hToken hColumn => exact hColumn.last_parenthesis (open_mem_parentheses_iff.1 hOpen)
  | directed hToken hColumn hGap hGapNonempty hWord =>
    rw [parentheses_directed hGap hWord] at hOpen ⊢
    exact hColumn.last_parenthesis (open_mem_parentheses_iff.1 hOpen)

theorem IsClause.open_not_mem {key : SortKey} {clause : List Char} (h : IsClause key clause)
    {column : Column} (hColumn : key.column = some column) {function : String}
    (hFunction : column.function = some function) : '(' ∉ function.toList := by
  have hOpen {column : Column} {token : List Char} (hToken : IsColumn column token)
      (hName : column.function = some function) : '(' ∉ function.toList := by
    cases hToken with
    | bare => cases hName
    | applied hNone =>
      cases hName
      rw [String.toList_ofList]
      exact hNone
  cases h with
  | undirected hToken hRead =>
    cases hColumn
    exact hOpen hRead hFunction
  | directed hToken hRead =>
    cases hColumn
    exact hOpen hRead hFunction

/-! ## Texts -/

theorem parse_ok_iff {text : String} {keys : List SortKey} :
    parse text = .ok keys ↔ List.Forall₂ IsClause keys (clauses text.toList) :=
  mapM_ok_iff fun _ hMem _ => parseClause_ok_iff (tight_of_mem_clauses hMem)

theorem parse_error {text : String} {e : ConfigurationError} (h : parse text = .error e) :
    ∃ clause ∈ clauses text.toList, (∀ key, ¬ IsClause key clause) ∧
      e = .invalidValue "orderBy" (String.ofList clause) := by
  obtain ⟨before, clause, after, hClauses, -, hClause⟩ := mapM_error_iff.1 h
  have hMem : clause ∈ clauses text.toList := by
    rw [hClauses]
    simp
  exact ⟨clause, hMem, (parseClause_error_iff (tight_of_mem_clauses hMem)).1 hClause⟩

theorem parse_refused_of_mem {text : String} {clause : List Char}
    (hMem : clause ∈ clauses text.toList) (hClause : ∀ key, ¬ IsClause key clause) :
    ∃ found, parse text = .error (.invalidValue "orderBy" found) := by
  cases hParse : parse text with
  | error e =>
    obtain ⟨found, -, -, rfl⟩ := parse_error hParse
    exact ⟨_, rfl⟩
  | ok keys =>
    obtain ⟨key, -, hKey⟩ := exists_of_mem_right (parse_ok_iff.1 hParse) hMem
    exact absurd hKey (hClause key)

/-- The grammar is read, whatever else is. -/
theorem parse_of_documented {text : String} {keys : List SortKey}
    (h : List.Forall₂ Documented keys (clauses text.toList)) : parse text = .ok keys :=
  parse_ok_iff.2 (h.imp fun _ _ hClause => hClause.isClause)

theorem followsGrammar_of_paired {text : String}
    (h : ∀ clause ∈ clauses text.toList, Paired clause) : FollowsGrammar text := by
  have hDocumented (keys : List SortKey) :
      parse text = .ok keys ↔ List.Forall₂ Documented keys (clauses text.toList) := by
    refine ⟨fun hParse => ?_, parse_of_documented⟩
    have hRead := (List.forall₂_and_left _ _).2 ⟨h, (parse_ok_iff.1 hParse).flip⟩
    exact hRead.flip.imp fun key clause hClause => hClause.2.documented_iff.2 hClause.1
  refine ⟨hDocumented, fun keys hParse key hKey column hColumn => ?_, fun clause hMem hNot => ?_⟩
  · obtain ⟨clause, -, hClause⟩ := exists_of_mem_left ((hDocumented keys).1 hParse) hKey
    exact hClause.plain hColumn
  · exact absurd (h clause hMem) hNot

theorem followsGrammar_of_refused {text : String} {clause : List Char}
    (hMem : clause ∈ clauses text.toList) (hClause : ∀ key, ¬ IsClause key clause) :
    FollowsGrammar text := by
  obtain ⟨found, hParse⟩ := parse_refused_of_mem hMem hClause
  have hNone {keys : List SortKey} : parse text ≠ .ok keys := by
    rw [hParse]
    exact nofun
  exact ⟨fun _ => ⟨fun hKeys => absurd hKeys hNone, parse_of_documented⟩,
    fun _ hKeys => absurd hKeys hNone, fun _ _ _ => ⟨found, hParse⟩⟩

/-- The reader follows the grammar exactly on the texts whose clauses have no parentheses or a pair,
and on those that it refuses for some clause. Of the rest of the grammar it keeps this much: what is
opened is closed after all other parentheses of the clause, or else the text is refused; and no
function has a parenthesis that opens. -/
theorem followsGrammar_iff (text : String) :
    (FollowsGrammar text ↔ (∀ clause ∈ clauses text.toList, Paired clause) ∨
      ∃ clause ∈ clauses text.toList, ∀ key, ¬ IsClause key clause) ∧
    (∀ clause ∈ clauses text.toList, '(' ∈ clause → (parentheses clause).getLast? ≠ some ')' →
      ∃ found, parse text = .error (.invalidValue "orderBy" found)) ∧
    ∀ keys, parse text = .ok keys → ∀ key ∈ keys, ∀ column, key.column = some column →
      ∀ function, column.function = some function → '(' ∉ function.toList := by
  refine ⟨⟨fun h => ?_, ?_⟩, fun clause hMem hOpen hLast => ?_, ?_⟩
  · cases hParse : parse text with
    | error e =>
      obtain ⟨clause, hMem, hClause, -⟩ := parse_error hParse
      exact .inr ⟨clause, hMem, hClause⟩
    | ok keys =>
      left
      intro clause hMem
      by_contra hNot
      obtain ⟨found, hError⟩ := h.refused clause hMem hNot
      rw [hParse] at hError
      cases hError
  · rintro (hPaired | ⟨clause, hMem, hClause⟩)
    · exact followsGrammar_of_paired hPaired
    · exact followsGrammar_of_refused hMem hClause
  · exact parse_refused_of_mem hMem fun key hClause => hLast (hClause.last_parenthesis hOpen)
  · intro keys hParse key hKey column hColumn function hFunction
    obtain ⟨clause, -, hClause⟩ := exists_of_mem_left (parse_ok_iff.1 hParse) hKey
    exact hClause.open_not_mem hColumn hFunction

/-- A closing parenthesis alone and a nested pair are read as letters of a column, and one before the
function opens its own as a letter of the function. -/
theorem parse_other_parentheses :
    parse "a)" = .ok [⟨.entity, some ⟨"a)", none⟩, none, []⟩] ∧
    parse "f(a(b)) asc" = .ok [⟨.entity, some ⟨"a(b)", some "f"⟩, some .ascending, []⟩] ∧
    parse "f)g(x)" = .ok [⟨.entity, some ⟨"x", some "f)g"⟩, none, []⟩] ∧
    ¬ FollowsGrammar "a)" := by
  refine ⟨rfl, rfl, rfl, fun h => ?_⟩
  have hPlain := h.plain _ rfl _ (List.mem_singleton_self _) _ rfl
  exact absurd hPlain.name (by decide)

end DeferredJobs.Query.OrderBy
