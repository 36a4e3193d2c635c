import Mathlib.Data.List.Basic
import Mathlib.Data.List.TakeWhile
import DeferredJobs.Text.Blank

/-!
# Laws of trimming and cutting

Cutting a text at a character undoes joining pieces with it, if no piece holds the character.
Trimming takes exactly the blanks off a text whose ends are not blank (`Tight`), and such a text is
one word or two exactly if it is written without blanks, or with blanks in one place.

* `split_join`, `join_split`: cutting undoes joining, and joining undoes cutting.
* `trim_padded`, `exists_trim`: trimming undoes padding, and takes off nothing else.
* `words_single`, `words_pair`: the words of a text that is written as one word or two.
* `Tight.eq_of_words_eq_single`, `Tight.eq_of_words_eq_pair`: how a text of one word or two is written.
-/

namespace DeferredJobs.Text

/-- What holds of the characters of a text is decided along the text, not over all characters. -/
instance decidableForallChar (p : Char → Prop) [DecidablePred p] (text : List Char) :
    Decidable (∀ c ∈ text, p c) :=
  List.decidableBAll p text

/-- Nothing but blanks. -/
def Blank (text : List Char) : Prop := ∀ c ∈ text, isBlank c = true

/-- No blank at all. -/
def Unbroken (text : List Char) : Prop := ∀ c ∈ text, isBlank c = false

instance (text : List Char) : Decidable (Blank text) :=
  inferInstanceAs (Decidable (∀ c ∈ text, isBlank c = true))

instance (text : List Char) : Decidable (Unbroken text) :=
  inferInstanceAs (Decidable (∀ c ∈ text, isBlank c = false))

/-! ## Cutting -/

theorem split_eq_splitOnP (isSeparator : Char → Bool) (text : List Char) :
    split isSeparator text = text.splitOnP isSeparator := by
  induction text with
  | nil => rfl
  | cons c text ih => rw [split, ih, List.splitOnP_cons_eq_if_modifyHead]

theorem split_append_separator {isSeparator : Char → Bool} {c : Char} (h : isSeparator c = true)
    (before after : List Char) :
    split isSeparator (before ++ c :: after) =
      split isSeparator before ++ split isSeparator after := by
  simp only [split_eq_splitOnP]
  exact List.splitOnP_append_cons before after h

theorem split_of_none {isSeparator : Char → Bool} {text : List Char}
    (h : ∀ c ∈ text, isSeparator c = false) : split isSeparator text = [text] := by
  rw [split_eq_splitOnP]
  exact List.splitOnP_eq_singleton h

/-- Cutting undoes joining. Nothing joined is an empty text, and that is cut to one empty piece. -/
theorem split_join {separator : Char} {pieces : List (List Char)} (hNonempty : pieces ≠ [])
    (h : ∀ piece ∈ pieces, separator ∉ piece) :
    split (· == separator) ([separator].intercalate pieces) = pieces := by
  rw [split_eq_splitOnP]
  exact List.splitOn_intercalate separator h hNonempty

theorem split_ne_nil (isSeparator : Char → Bool) (text : List Char) :
    split isSeparator text ≠ [] := by
  rw [split_eq_splitOnP]
  exact List.splitOnP_ne_nil _ _

/-- Joining undoes cutting. -/
theorem join_split (separator : Char) (text : List Char) :
    [separator].intercalate (split (· == separator) text) = text := by
  rw [split_eq_splitOnP]
  exact List.intercalate_splitOn separator

theorem of_mem_split {isSeparator : Char → Bool} {text piece : List Char}
    (h : piece ∈ split isSeparator text) : ∀ c ∈ piece, isSeparator c = false := by
  induction text generalizing piece with
  | nil =>
    obtain rfl := List.mem_singleton.1 h
    exact nofun
  | cons d text ih =>
    rw [split] at h
    split at h
    · rcases List.mem_cons.1 h with rfl | h
      · exact nofun
      · exact ih h
    · rename_i hPlain
      obtain ⟨first, rest, hSplit⟩ := List.exists_cons_of_ne_nil (split_ne_nil isSeparator text)
      rw [hSplit, List.modifyHead_cons] at h
      rcases List.mem_cons.1 h with rfl | h
      · refine List.forall_mem_cons.2 ⟨by simpa using hPlain, ih ?_⟩
        rw [hSplit]
        exact List.mem_cons_self
      · refine ih ?_
        rw [hSplit]
        exact List.mem_cons_of_mem first h

/-! ## Trimming -/

/-- Neither end is blank. -/
structure Tight (text : List Char) : Prop where
  head : ∀ c ∈ text.head?, isBlank c = false
  last : ∀ c ∈ text.getLast?, isBlank c = false

theorem Unbroken.tight {text : List Char} (h : Unbroken text) : Tight text where
  head c hc := h c (List.mem_of_mem_head? hc)
  last c hc := h c (List.mem_of_mem_getLast? hc)

/-- What stands between unbroken ends does not matter. -/
theorem Unbroken.tight_between {first last : List Char} (hFirst : Unbroken first)
    (hLast : Unbroken last) (hFirstNonempty : first ≠ []) (hLastNonempty : last ≠ [])
    (middle : List Char) : Tight (first ++ middle ++ last) where
  head c hc := by
    obtain ⟨d, rest, rfl⟩ := List.exists_cons_of_ne_nil hFirstNonempty
    cases hc
    exact hFirst _ List.mem_cons_self
  last c hc := by
    rw [List.getLast?_append_of_ne_nil _ hLastNonempty] at hc
    exact hLast c (List.mem_of_mem_getLast? hc)

theorem dropWhile_blank {blanks : List Char} (hBlanks : Blank blanks) {text : List Char}
    (h : ∀ c ∈ text.head?, isBlank c = false) :
    (blanks ++ text).dropWhile isBlank = text := by
  rw [List.dropWhile_append_of_pos hBlanks]
  cases text with
  | nil => rfl
  | cons c text => rw [List.dropWhile_cons_of_neg (by simp [h c rfl])]

theorem Blank.append {first second : List Char} (hFirst : Blank first) (hSecond : Blank second) :
    Blank (first ++ second) := fun c hc =>
  (List.mem_append.1 hc).elim (hFirst c) (hSecond c)

theorem Blank.reverse {text : List Char} (h : Blank text) : Blank text.reverse :=
  fun c hc => h c (List.mem_reverse.1 hc)

theorem trim_of_blank {text : List Char} (h : Blank text) : trim text = [] := by
  have hStart : trimStart text = [] := List.dropWhile_eq_nil_iff.2 h
  rw [trim, hStart]
  rfl

/-- Trimming undoes padding. -/
theorem trim_padded {before text after : List Char} (hBefore : Blank before) (h : Tight text)
    (hAfter : Blank after) : trim (before ++ text ++ after) = text := by
  cases text with
  | nil => exact trim_of_blank ((List.append_nil before).symm ▸ hBefore.append hAfter)
  | cons c text =>
    have hStart : trimStart (before ++ (c :: text) ++ after) = (c :: text) ++ after := by
      rw [trimStart, List.append_assoc]
      exact dropWhile_blank hBefore h.head
    have hEnd : trimEnd ((c :: text) ++ after) = c :: text := by
      have hLast : ∀ d ∈ (c :: text).reverse.head?, isBlank d = false := by
        rw [List.head?_reverse]
        exact h.last
      rw [trimEnd, List.reverse_append, dropWhile_blank hAfter.reverse hLast, List.reverse_reverse]
    rw [trim, hStart, hEnd]

theorem blank_takeWhile (text : List Char) : Blank (text.takeWhile isBlank) :=
  fun _ hc => List.mem_takeWhile_imp hc

theorem head_dropWhile_blank (text : List Char) :
    ∀ c ∈ (text.dropWhile isBlank).head?, isBlank c = false := by
  intro c hc
  have hHead := List.head?_dropWhile_not isBlank text
  rw [Option.mem_def.1 hc] at hHead
  exact hHead

/-- What is taken off a text at its ends are blanks, and all of them. -/
theorem exists_trim (text : List Char) :
    ∃ before after, Blank before ∧ Blank after ∧ text = before ++ trim text ++ after ∧
      Tight (trim text) := by
  have hText : text = text.takeWhile isBlank ++ trimStart text :=
    List.takeWhile_append_dropWhile.symm
  have hStart : trimStart text =
      trim text ++ ((trimStart text).reverse.takeWhile isBlank).reverse := by
    rw [trim, trimEnd, ← List.reverse_append, List.takeWhile_append_dropWhile,
      List.reverse_reverse]
  refine ⟨_, _, blank_takeWhile text, (blank_takeWhile (trimStart text).reverse).reverse, ?_,
    ⟨?_, ?_⟩⟩
  · rw [List.append_assoc, ← hStart]
    exact hText
  · intro c hc
    refine head_dropWhile_blank text c ?_
    show c ∈ (trimStart text).head?
    rw [hStart, List.head?_append, Option.mem_def.1 hc]
    rfl
  · intro c hc
    rw [trim, trimEnd, List.getLast?_reverse] at hc
    exact head_dropWhile_blank _ c hc

/-! ## Words -/

theorem words_append_blank {c : Char} (h : isBlank c = true) (before after : List Char) :
    words (before ++ c :: after) = words before ++ words after := by
  simp only [words, split_append_separator h, List.filter_append]

theorem words_single {word : List Char} (hNonempty : word ≠ []) (h : Unbroken word) :
    words word = [word] := by
  rw [words, split_of_none h]
  simp [hNonempty]

theorem words_blank_append {blanks : List Char} (hBlanks : Blank blanks) (text : List Char) :
    words (blanks ++ text) = words text := by
  induction blanks with
  | nil => rfl
  | cons c blanks ih =>
    have hHead : words (c :: (blanks ++ text)) = words [] ++ words (blanks ++ text) :=
      words_append_blank (hBlanks c List.mem_cons_self) [] _
    rw [List.cons_append, hHead, ih fun d hd => hBlanks d (List.mem_cons_of_mem c hd)]
    rfl

theorem words_pair {first second gap : List Char} (hFirstNonempty : first ≠ [])
    (hFirst : Unbroken first) (hSecondNonempty : second ≠ []) (hSecond : Unbroken second)
    (hGapNonempty : gap ≠ []) (hGap : Blank gap) :
    words (first ++ gap ++ second) = [first, second] := by
  obtain ⟨c, rest, rfl⟩ := List.exists_cons_of_ne_nil hGapNonempty
  have hRest : Blank rest := fun d hd => hGap d (List.mem_cons_of_mem c hd)
  rw [List.append_assoc, List.cons_append, words_append_blank (hGap c List.mem_cons_self),
    words_single hFirstNonempty hFirst, words_blank_append hRest,
    words_single hSecondNonempty hSecond]
  rfl

/-- A word lasts up to the next blank. -/
theorem words_append {word after : List Char} (hNonempty : word ≠ []) (hWord : Unbroken word)
    (hAfter : ∀ c ∈ after.head?, isBlank c = true) : words (word ++ after) = word :: words after := by
  cases after with
  | nil =>
    rw [List.append_nil, words_single hNonempty hWord]
    rfl
  | cons c after =>
    have hBlank : isBlank c = true := hAfter c rfl
    have hRest : words (c :: after) = words after := by
      have hSplit : words (c :: after) = words [] ++ words after := words_append_blank hBlank [] after
      rw [hSplit]
      rfl
    rw [words_append_blank hBlank, words_single hNonempty hWord, hRest]
    rfl

theorem unbroken_takeWhile (text : List Char) : Unbroken (text.takeWhile (!isBlank ·)) := by
  intro c hc
  have hPlain := List.mem_takeWhile_imp hc
  simpa using hPlain

/-- A text is blank, or begins with a word. -/
theorem blank_or_word (text : List Char) :
    (Blank text ∧ words text = []) ∨
      ∃ before word after, text = before ++ word ++ after ∧ Blank before ∧ word ≠ [] ∧
        Unbroken word ∧ (∀ c ∈ after.head?, isBlank c = true) ∧
        words text = word :: words after := by
  have hText : text.takeWhile isBlank ++ text.dropWhile isBlank = text :=
    List.takeWhile_append_dropWhile
  have hBlank := blank_takeWhile text
  have hHead := head_dropWhile_blank text
  generalize text.takeWhile isBlank = before at hText hBlank
  generalize text.dropWhile isBlank = rest at hText hHead
  subst hText
  rw [words_blank_append hBlank]
  cases rest with
  | nil => exact .inl ⟨(List.append_nil before).symm ▸ hBlank, rfl⟩
  | cons c rest =>
    right
    have hRest : (c :: rest).takeWhile (!isBlank ·) ++ (c :: rest).dropWhile (!isBlank ·) =
        c :: rest := List.takeWhile_append_dropWhile
    have hWord : (c :: rest).takeWhile (!isBlank ·) ≠ [] := by
      rw [List.takeWhile_cons_of_pos (by simp [hHead c rfl])]
      exact List.cons_ne_nil _ _
    have hAfter : ∀ d ∈ ((c :: rest).dropWhile (!isBlank ·)).head?, isBlank d = true := by
      intro d hd
      have hNot := List.head?_dropWhile_not (!isBlank ·) (c :: rest)
      rw [Option.mem_def.1 hd] at hNot
      simpa using hNot
    have hUnbroken := unbroken_takeWhile (c :: rest)
    generalize (c :: rest).takeWhile (!isBlank ·) = word at hRest hWord hUnbroken
    generalize (c :: rest).dropWhile (!isBlank ·) = after at hRest hAfter
    rw [← hRest]
    exact ⟨before, word, after, (List.append_assoc _ _ _).symm, hBlank, hWord, hUnbroken, hAfter,
      words_append hWord hUnbroken hAfter⟩

theorem blank_of_words_eq_nil {text : List Char} (h : words text = []) : Blank text := by
  rcases blank_or_word text with ⟨hBlank, -⟩ | ⟨_, _, _, -, -, -, -, -, hWords⟩
  · exact hBlank
  · rw [hWords] at h
    cases h

theorem Tight.eq_nil_of_blank_prefix {before text : List Char} (h : Tight (before ++ text))
    (hBefore : Blank before) : before = [] := by
  cases before with
  | nil => rfl
  | cons c before =>
    have hPlain : isBlank c = false := h.head c rfl
    rw [hBefore c List.mem_cons_self] at hPlain
    cases hPlain

theorem Tight.eq_nil_of_blank_suffix {text after : List Char} (h : Tight (text ++ after))
    (hAfter : Blank after) : after = [] := by
  by_contra hNonempty
  have hLast := List.getLast?_eq_some_getLast hNonempty
  have hPlain : isBlank (after.getLast hNonempty) = false := by
    refine h.last _ ?_
    rw [List.getLast?_append_of_ne_nil _ hNonempty]
    exact hLast
  rw [hAfter _ (List.getLast_mem hNonempty)] at hPlain
  cases hPlain

/-- A text with tight ends begins with its first word. -/
theorem Tight.exists_of_words {text word : List Char} {rest : List (List Char)} (h : Tight text)
    (hWords : words text = word :: rest) :
    ∃ after, text = word ++ after ∧ Unbroken word ∧ (∀ c ∈ after.head?, isBlank c = true) ∧
      words after = rest := by
  rcases blank_or_word text with
    ⟨-, hNone⟩ | ⟨before, first, after, rfl, hBefore, -, hFirst, hAfter, hFound⟩
  · rw [hNone] at hWords
    cases hWords
  · rw [hFound] at hWords
    obtain ⟨rfl, hRest⟩ := List.cons.inj hWords
    rw [List.append_assoc] at h
    obtain rfl := h.eq_nil_of_blank_prefix hBefore
    exact ⟨after, rfl, hFirst, hAfter, hRest⟩

theorem Tight.eq_of_words_eq_single {text word : List Char} (h : Tight text)
    (hWords : words text = [word]) : text = word ∧ Unbroken word := by
  obtain ⟨after, rfl, hWord, -, hRest⟩ := h.exists_of_words hWords
  rw [h.eq_nil_of_blank_suffix (blank_of_words_eq_nil hRest), List.append_nil]
  exact ⟨rfl, hWord⟩

theorem Tight.eq_of_words_eq_pair {text first second : List Char} (h : Tight text)
    (hWords : words text = [first, second]) :
    ∃ gap, text = first ++ gap ++ second ∧ Unbroken first ∧ Blank gap ∧ gap ≠ [] := by
  obtain ⟨after, rfl, hFirst, hHead, hRest⟩ := h.exists_of_words hWords
  rcases blank_or_word after with
    ⟨-, hNone⟩ | ⟨gap, word, rest, rfl, hGap, hNonempty, hWord, -, hFound⟩
  · rw [hNone] at hRest
    cases hRest
  · rw [hFound] at hRest
    obtain ⟨rfl, hNone⟩ := List.cons.inj hRest
    rw [← List.append_assoc] at h
    obtain rfl := h.eq_nil_of_blank_suffix (blank_of_words_eq_nil hNone)
    refine ⟨gap, by simp, hFirst, hGap, ?_⟩
    rintro rfl
    -- The first word would not end where it does.
    obtain ⟨c, rest, rfl⟩ := List.exists_cons_of_ne_nil hNonempty
    have hBlank : isBlank c = true := hHead c rfl
    rw [hWord c List.mem_cons_self] at hBlank
    cases hBlank

end DeferredJobs.Text
