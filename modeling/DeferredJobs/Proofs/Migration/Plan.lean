import Mathlib.Data.List.Basic
import Mathlib.Data.List.Induction
import DeferredJobs.Migration.Plan

/-!
# Plans after any steps

A mapping step appends the pairs of activities it names, and a trigger step sets one flag and moves
nothing. So the instructions of a plan are the pairs in the order in which they were added, and a
trigger step is located by the number of pairs before it: it counts for the last of them, if there
is one.

* `pairs_apply`, `marked_apply`: what one step does to the pairs and to the flags.
* `pairs_instructions`, `marked_instructions_iff`: the pairs and the flags after any steps.
* `build_by_steps`: both for the plan that is built, and the steps that make no difference to it.
-/

namespace DeferredJobs.MigrationPlan

variable {steps : List Step} {step : Step} {instructions : List MigrationInstruction} {i : Nat}

/-! ## What the steps say -/

/-- The pairs of activities that a step maps. -/
def Step.pairs : Step → List (String × String)
  | map source target => [(source, target)]
  | mapEqual activities => activities.map fun id => (id, id)
  | updateEventTrigger => []

def pairs (steps : List Step) : List (String × String) :=
  steps.flatMap Step.pairs

/-- A trigger step comes after the pair at `i` was added, and before the next one is. -/
def Triggered (steps : List Step) (i : Nat) : Prop :=
  ∃ before after, steps = before ++ .updateEventTrigger :: after ∧
    i < (pairs before).length ∧ (pairs before).length ≤ i + 1

theorem pairs_concat (steps : List Step) (step : Step) :
    pairs (steps ++ [step]) = pairs steps ++ step.pairs := by
  rw [pairs, List.flatMap_append, List.flatMap_singleton, pairs]

theorem triggered_concat :
    Triggered (steps ++ [step]) i ↔
      Triggered steps i ∨ step = .updateEventTrigger ∧ i + 1 = (pairs steps).length := by
  constructor
  · rintro ⟨before, after, hSteps, hAfter, hBefore⟩
    rcases List.eq_nil_or_concat' after with rfl | ⟨rest, last, rfl⟩
    · obtain ⟨rfl, hStep⟩ := List.append_inj' hSteps rfl
      refine .inr ⟨List.singleton_inj.1 hStep, ?_⟩
      omega
    · rw [← List.cons_append, ← List.append_assoc] at hSteps
      obtain ⟨hEarlier, -⟩ := List.append_inj' hSteps rfl
      exact .inl ⟨before, rest, hEarlier, hAfter, hBefore⟩
  · rintro (⟨before, after, rfl, hAfter, hBefore⟩ | ⟨rfl, hLast⟩)
    · refine ⟨before, after ++ [step], ?_, hAfter, hBefore⟩
      rw [List.append_assoc, List.cons_append]
    · refine ⟨steps, [], rfl, ?_, ?_⟩
      · omega
      · omega

/-! ## The instruction added last -/

theorem markLast_concat (instructions : List MigrationInstruction) (last : MigrationInstruction) :
    markLast (instructions ++ [last]) = instructions ++ [{ last with updateEventTrigger := true }] := by
  induction instructions with
  | nil => rfl
  | cons first rest ih =>
    obtain ⟨second, others, hRest⟩ : ∃ second others, rest ++ [last] = second :: others :=
      List.exists_cons_of_ne_nil (List.append_ne_nil_of_right_ne_nil rest (List.cons_ne_nil last []))
    rw [List.cons_append, hRest, markLast, ← hRest, ih, List.cons_append]

theorem markLast_markLast (instructions : List MigrationInstruction) :
    markLast (markLast instructions) = markLast instructions := by
  rcases List.eq_nil_or_concat' instructions with rfl | ⟨earlier, last, rfl⟩
  · rfl
  · rw [markLast_concat, markLast_concat]

/-! ## Pairs and flags of instructions -/

def pairOf (instruction : MigrationInstruction) : String × String :=
  (instruction.source, instruction.target)

/-- There is an instruction at `i`, and its flag is set. -/
def Marked (instructions : List MigrationInstruction) (i : Nat) : Prop :=
  ∃ instruction ∈ instructions[i]?, instruction.updateEventTrigger = true

theorem map_pairOf_markLast (instructions : List MigrationInstruction) :
    (markLast instructions).map pairOf = instructions.map pairOf := by
  rcases List.eq_nil_or_concat' instructions with rfl | ⟨earlier, last, rfl⟩
  · rfl
  · rw [markLast_concat, List.map_append, List.map_append]
    rfl

theorem marked_markLast :
    Marked (markLast instructions) i ↔ Marked instructions i ∨ i + 1 = instructions.length := by
  rcases List.eq_nil_or_concat' instructions with rfl | ⟨earlier, last, rfl⟩
  · simp [Marked, markLast]
  · rw [markLast_concat, List.length_append, List.length_singleton]
    unfold Marked
    rcases Nat.lt_trichotomy i earlier.length with hBefore | hLast | hBeyond
    · have hOther : i ≠ earlier.length := Nat.ne_of_lt hBefore
      rw [List.getElem?_append_left hBefore, List.getElem?_append_left hBefore]
      simp [hOther]
    · subst hLast
      simp
    · have hOther : i ≠ earlier.length := Nat.ne_of_gt hBeyond
      have hNone (last : MigrationInstruction) : (earlier ++ [last])[i]? = none := by
        apply List.getElem?_eq_none
        rw [List.length_append, List.length_singleton]
        omega
      simp [hNone, hOther]

/-- Appended instructions without the flag leave the flags as they are. -/
theorem marked_append {added : List MigrationInstruction}
    (h : ∀ instruction ∈ added, instruction.updateEventTrigger = false) :
    Marked (instructions ++ added) i ↔ Marked instructions i := by
  unfold Marked
  by_cases hOld : i < instructions.length
  · rw [List.getElem?_append_left hOld]
  · have hRight : instructions.length ≤ i := Nat.not_lt.1 hOld
    rw [List.getElem?_append_right hRight, List.getElem?_eq_none hRight]
    constructor
    · rintro ⟨instruction, hMem, hMarked⟩
      have hPlain := h instruction (List.mem_of_getElem? hMem)
      rw [hPlain] at hMarked
      cases hMarked
    · rintro ⟨instruction, hMem, -⟩
      cases hMem

/-! ## One step -/

theorem pairs_apply (instructions : List MigrationInstruction) (step : Step) :
    (step.apply instructions).map pairOf = instructions.map pairOf ++ step.pairs := by
  cases step with
  | map source target => exact List.map_append
  | mapEqual activities =>
    rw [Step.apply, List.map_append, List.map_map]
    rfl
  | updateEventTrigger =>
    rw [Step.apply, map_pairOf_markLast, Step.pairs, List.append_nil]

theorem marked_apply :
    Marked (step.apply instructions) i ↔
      Marked instructions i ∨ step = .updateEventTrigger ∧ i + 1 = instructions.length := by
  cases step with
  | map source target =>
    rw [Step.apply, marked_append]
    · simp
    · intro instruction hMem
      rw [List.mem_singleton.1 hMem]
  | mapEqual activities =>
    rw [Step.apply, marked_append]
    · simp
    · intro instruction hMem
      obtain ⟨id, -, rfl⟩ := List.mem_map.1 hMem
      rfl
  | updateEventTrigger =>
    rw [Step.apply, marked_markLast]
    simp

/-! ## Any steps -/

/-- The instructions that steps leave. -/
def instructionsAfter (steps : List Step) : List MigrationInstruction :=
  steps.foldl Step.apply []

theorem instructionsAfter_concat (steps : List Step) (step : Step) :
    instructionsAfter (steps ++ [step]) = step.apply (instructionsAfter steps) := by
  rw [instructionsAfter, List.foldl_append]
  rfl

theorem pairs_instructionsAfter (steps : List Step) :
    (instructionsAfter steps).map pairOf = pairs steps := by
  induction steps using List.reverseRecOn with
  | nil => rfl
  | append_singleton steps step ih => rw [instructionsAfter_concat, pairs_apply, ih, pairs_concat]

theorem length_instructionsAfter (steps : List Step) :
    (instructionsAfter steps).length = (pairs steps).length := by
  rw [← pairs_instructionsAfter, List.length_map]

theorem marked_instructionsAfter_iff : Marked (instructionsAfter steps) i ↔ Triggered steps i := by
  -- From the end, since a trigger step looks back at the pairs before it.
  induction steps using List.reverseRecOn with
  | nil =>
    constructor
    · rintro ⟨instruction, hMem, -⟩
      cases hMem
    · rintro ⟨before, after, hSteps, -⟩
      exact absurd hSteps.symm (by simp)
  | append_singleton steps step ih =>
    rw [instructionsAfter_concat, marked_apply, ih, triggered_concat, length_instructionsAfter]

/-! ## Steps that make no difference -/

/-- Steps that map nothing leave instructions alone of which the last is marked, or none. -/
theorem foldl_apply_of_no_pairs (hNone : pairs steps = [])
    (hMarked : markLast instructions = instructions) :
    steps.foldl Step.apply instructions = instructions := by
  induction steps with
  | nil => rfl
  | cons step steps ih =>
    obtain ⟨hStep, hSteps⟩ := List.append_eq_nil_iff.1 hNone
    have hApply : step.apply instructions = instructions := by
      cases step with
      | map source target => cases hStep
      | mapEqual activities =>
        obtain rfl := List.map_eq_nil_iff.1 hStep
        exact List.append_nil instructions
      | updateEventTrigger => exact hMarked
    rw [List.foldl_cons, hApply]
    exact ih hSteps

theorem foldl_apply_map (ids : List String) (instructions : List MigrationInstruction) :
    (ids.map fun id => Step.map id id).foldl Step.apply instructions =
      (Step.mapEqual ids).apply instructions := by
  induction ids generalizing instructions with
  | nil => exact (List.append_nil instructions).symm
  | cons id ids ih =>
    rw [List.map_cons, List.foldl_cons, ih]
    simp only [Step.apply, List.map_cons, List.append_assoc, List.singleton_append]

theorem build_eq (source target : String) (steps : List Step) :
    build source target steps = ⟨source, target, instructionsAfter steps⟩ := rfl

/-- Steps that lead from the instructions before them to the same instructions can stand for each
other. -/
theorem build_congr {before middle other : List Step}
    (h : middle.foldl Step.apply (instructionsAfter before) =
      other.foldl Step.apply (instructionsAfter before)) (source target : String)
    (after : List Step) :
    build source target (before ++ middle ++ after) =
      build source target (before ++ other ++ after) := by
  unfold instructionsAfter at h
  rw [build_eq, build_eq, instructionsAfter, instructionsAfter]
  simp only [List.foldl_append, h]

/-- A plan keeps its two definitions and maps the pairs of its steps in order, and an instruction has
the flag exactly if a trigger step came after its pair and before the next one. So a trigger step
before any pair, one that repeats another, and an empty step between a pair and its trigger make no
difference, and activities mapped at once are mapped one by one. -/
theorem build_by_steps (source target : String) :
    (∀ steps : List Step,
      (build source target steps).source = source ∧
      (build source target steps).target = target ∧
      (build source target steps).instructions.map pairOf = pairs steps ∧
      ∀ i, Marked (build source target steps).instructions i ↔ Triggered steps i) ∧
    (∀ before after : List Step, pairs before = [] →
      build source target (before ++ [.updateEventTrigger] ++ after) =
        build source target (before ++ after)) ∧
    (∀ before between after : List Step, pairs between = [] →
      build source target
          (before ++ (.updateEventTrigger :: between ++ [.updateEventTrigger]) ++ after) =
        build source target (before ++ (.updateEventTrigger :: between) ++ after)) ∧
    (∀ before after : List Step,
      build source target (before ++ [.mapEqual []] ++ after) =
        build source target (before ++ after)) ∧
    ∀ (before after : List Step) (ids : List String),
      build source target (before ++ [.mapEqual ids] ++ after) =
        build source target (before ++ (ids.map fun id => .map id id) ++ after) := by
  refine ⟨fun steps => ⟨rfl, rfl, pairs_instructionsAfter steps, ?_⟩, ?_, ?_, ?_, ?_⟩
  · intro i
    exact marked_instructionsAfter_iff
  · intro before after hNone
    have hEmpty : instructionsAfter before = [] := foldl_apply_of_no_pairs hNone rfl
    have hStep : [Step.updateEventTrigger].foldl Step.apply (instructionsAfter before) =
        [].foldl Step.apply (instructionsAfter before) := by
      rw [hEmpty]
      rfl
    rw [build_congr hStep, List.append_nil]
  · intro before between after hNone
    apply build_congr
    have hMarked := markLast_markLast (instructionsAfter before)
    have hBetween := foldl_apply_of_no_pairs hNone hMarked
    rw [List.foldl_append, List.foldl_cons]
    show markLast (between.foldl Step.apply (markLast (instructionsAfter before))) =
      between.foldl Step.apply (markLast (instructionsAfter before))
    rw [hBetween, hMarked]
  · intro before after
    have hStep : [Step.mapEqual []].foldl Step.apply (instructionsAfter before) =
        [].foldl Step.apply (instructionsAfter before) := List.append_nil _
    rw [build_congr hStep, List.append_nil]
  · intro before after ids
    have hStep : [Step.mapEqual ids].foldl Step.apply (instructionsAfter before) =
        (ids.map fun id => Step.map id id).foldl Step.apply (instructionsAfter before) :=
      (foldl_apply_map ids (instructionsAfter before)).symm
    exact build_congr hStep source target after

/-- Two triggers and an empty step after one pair, and a trigger before it. -/
theorem build_by_steps_repeated :
    build "a:1" "a:2" [.mapEqual [], .updateEventTrigger, .map "timer" "clock",
        .updateEventTrigger, .mapEqual [], .updateEventTrigger, .mapEqual ["pay", "pay"]] =
      ⟨"a:1", "a:2", [⟨"timer", "clock", true⟩, ⟨"pay", "pay", false⟩, ⟨"pay", "pay", false⟩]⟩ := by
  obtain ⟨-, hLeading, hRepeated, -, -⟩ := build_by_steps "a:1" "a:2"
  have hFirst := hLeading [.mapEqual []] [.map "timer" "clock", .updateEventTrigger, .mapEqual [],
    .updateEventTrigger, .mapEqual ["pay", "pay"]] rfl
  have hSecond := hRepeated [.mapEqual [], .map "timer" "clock"] [.mapEqual []]
    [.mapEqual ["pay", "pay"]] rfl
  exact hFirst.trans (hSecond.trans rfl)

end DeferredJobs.MigrationPlan
