import Stylesheet.Proofs.Expander.Contract

/-!
Loops in two parts. A loop cuts its arguments into rows of as many as the macro has parameters and
calls the macro once for each row. Where the first part of the arguments fills its rows, a loop over
both parts is a loop over the first one and then one over the second, from the memory that the first
one leaves.
-/

namespace Stylesheet

/-! Rows -/

section Rows

variable {α : Type} {size : Nat} {items : List α}

/-- The items in rows of `size`: each item in one row, and none out of order. No row is empty, and
only the last one may be short. -/
structure InRows (size : Nat) (items : List α) (rows : List (List α)) : Prop where
  flatten : rows.flatten = items
  filled : ∀ row ∈ rows, row ≠ []
  fits : ∀ row ∈ rows, row.length ≤ size
  full : ∀ row ∈ rows.dropLast, row.length = size

theorem chunks_nil : chunks size ([] : List α) = [] := by
  rw [chunks]
  rfl

theorem chunks_of_filled (filled : items ≠ []) :
    chunks size items = items.take (max 1 size) :: chunks size (items.drop (max 1 size)) := by
  rw [chunks]
  simp [filled]

-- A row that another one follows has left items behind, so it is full.
theorem inRows_cons {taken : Nat} {rows : List (List α)} (positive : 0 < taken)
    (filled : items ≠ []) (later : InRows taken (items.drop taken) rows) :
    InRows taken items (items.take taken :: rows) where
  flatten := by rw [List.flatten_cons, later.flatten, List.take_append_drop]
  filled := by
    have first : items.take taken ≠ [] := by
      simp only [ne_eq, List.take_eq_nil_iff, filled, or_false]
      omega
    exact List.forall_mem_cons.mpr ⟨first, later.filled⟩
  fits := List.forall_mem_cons.mpr ⟨List.length_take_le taken items, later.fits⟩
  full := by
    by_cases single : rows = []
    · simp [single]
    · rw [List.dropLast_cons_of_ne_nil single]
      obtain ⟨row, member⟩ := List.exists_mem_of_ne_nil rows single
      have left : items.drop taken ≠ [] := by
        rw [← later.flatten]
        exact fun none => later.filled row member (List.flatten_eq_nil_iff.mp none row member)
      have bounded : taken < items.length := by simpa [List.drop_eq_nil_iff] using left
      refine List.forall_mem_cons.mpr ⟨?_, later.full⟩
      rw [List.length_take, Nat.min_eq_left (Nat.le_of_lt bounded)]

theorem inRows_chunks (size : Nat) (items : List α) :
    InRows (max 1 size) items (chunks size items) := by
  induction items using chunks.induct size with
  | case1 items empty =>
      obtain rfl := List.isEmpty_iff.mp empty
      rw [chunks_nil]
      exact ⟨rfl, by simp, by simp, by simp⟩
  | case2 items filled taken ih =>
      rw [List.isEmpty_iff] at filled
      rw [chunks_of_filled filled]
      exact inRows_cons (Nat.le_max_left 1 size) filled ih

theorem chunks_append {front : List α} (aligned : max 1 size ∣ front.length) (back : List α) :
    chunks size (front ++ back) = chunks size front ++ chunks size back := by
  induction front using chunks.induct size with
  | case1 front empty =>
      obtain rfl := List.isEmpty_iff.mp empty
      rw [chunks_nil]
      rfl
  | case2 front filled taken ih =>
      rw [List.isEmpty_iff] at filled
      have enough : taken ≤ front.length :=
        Nat.le_of_dvd (List.length_pos_iff.mpr filled) aligned
      have rest : taken ∣ (front.drop taken).length := by
        rw [List.length_drop]
        exact Nat.dvd_sub aligned (Nat.dvd_refl taken)
      rw [chunks_of_filled filled, chunks_of_filled (List.append_ne_nil_of_left_ne_nil filled back),
        List.take_append_of_le_length enough, List.drop_append_of_le_length enough, ih rest,
        List.cons_append]

end Rows

/-! One call for each row -/

section Calls

variable (settings : Settings) (expand : Scope → Text → Expansion Text) (definition : Definition)

def expandRows (rows : List (List Text)) : Expansion Text :=
  List.flatten <$> rows.mapM (Function.expandBody expand definition)

theorem expandRows_append (front back : List (List Text)) :
    expandRows expand definition (front ++ back) = do
      let text ← expandRows expand definition front
      let more ← expandRows expand definition back
      return text ++ more := by
  simp only [expandRows, List.mapM_append, map_eq_pure_bind, bind_assoc, pure_bind,
    List.flatten_append]

variable {definition}

theorem call_loop {name : Text} {arguments : List Text} {memory : Memory}
    (defined : memory.definitions.get? name = some definition) (filled : arguments ≠ []) :
    Function.loop.call settings expand (name :: arguments) memory =
      expandRows expand definition (chunks definition.parameters.length arguments) memory := by
  obtain ⟨first, more, rfl⟩ := List.exists_cons_of_ne_nil filled
  simp only [Function.call, Function.runLoop, get_bind, defined, expandRows, map_eq_pure_bind]

end Calls

namespace Expander

/-- Calls the loop function with the macro `name`, with `levels` levels left for its body. -/
def loopOver (expander : Expander) (levels : Nat) (name : Text) (arguments : List Text) :
    Except Error Text × Expander :=
  expander.run (Function.loop.call expander.settings
    (expandAt expander.settings expander.functions levels) (name :: arguments))

section Loops

variable {expander : Expander} {levels : Nat} {name : Text} {definition : Definition}

theorem loopOver_eq {arguments : List Text}
    (defined : expander.memory.definitions.get? name = some definition) (filled : arguments ≠ []) :
    expander.loopOver levels name arguments =
      expander.run (expandRows (expandAt expander.settings expander.functions levels) definition
        (chunks definition.parameters.length arguments)) := by
  simp only [loopOver, run, EStateM.run, call_loop _ _ defined filled]

/-- In a row that fits, every argument has a parameter to be bound to. -/
theorem bound_of_inRows {arguments row : List Text} {rows : List (List Text)}
    (cut : InRows (max 1 definition.parameters.length) arguments rows)
    (named : definition.parameters ≠ []) (member : row ∈ rows) :
    (definition.parameters.zip row).map Prod.snd = row := by
  have positive := List.length_pos_iff.mpr named
  apply List.map_snd_zip
  have fits := cut.fits row member
  omega

end Loops

/-- A loop over two lists of arguments, the first of which fills its rows, is a loop over the first
and then one over the second. Where the first fails, the whole fails alike; where it returns and
leaves the macro as it was, the second decides how the whole ends. Each argument is in one row, for
each row there is one call, and only the last row may be short. -/
theorem loopOver_append (expander : Expander) (levels : Nat) (name : Text) (definition : Definition)
    (front back : List Text)
    (defined : expander.memory.definitions.get? name = some definition)
    (filled : front ≠ []) (aligned : max 1 definition.parameters.length ∣ front.length)
    (more : back ≠ []) :
    (∀ error later, expander.loopOver levels name front = (.error error, later) →
      expander.loopOver levels name (front ++ back) = (.error error, later)) ∧
    (∀ text middle, expander.loopOver levels name front = (.ok text, middle) →
      middle.memory.definitions.get? name = some definition →
      (∀ rest last, middle.loopOver levels name back = (.ok rest, last) →
        expander.loopOver levels name (front ++ back) = (.ok (text ++ rest), last)) ∧
      ∀ error last, middle.loopOver levels name back = (.error error, last) →
        expander.loopOver levels name (front ++ back) = (.error error, last)) ∧
    ∀ arguments : List Text, arguments ≠ [] →
      ∃ rows, InRows (max 1 definition.parameters.length) arguments rows ∧
        (definition.parameters ≠ [] →
          ∀ row ∈ rows, (definition.parameters.zip row).map Prod.snd = row) ∧
        expander.loopOver levels name arguments =
          expander.run (expandRows (expandAt expander.settings expander.functions levels)
            definition rows) := by
  have whole : expander.loopOver levels name (front ++ back) = _ :=
    loopOver_eq defined (List.append_ne_nil_of_left_ne_nil filled back)
  rw [chunks_append aligned, expandRows_append] at whole
  rw [whole, loopOver_eq defined filled]
  refine ⟨?_, ?_, ?_⟩
  · intro error later stopped
    exact run_bind_of_error stopped
  · intro text middle returned kept
    obtain ⟨memory, rfl⟩ := exists_memory_of_run returned
    rw [run_bind_of_ok returned, loopOver_eq kept more]
    constructor
    · intro rest last continued
      exact run_bind_of_ok continued
    · intro error last stopped
      exact run_bind_of_error stopped
  · intro arguments listed
    have cut := inRows_chunks definition.parameters.length arguments
    exact ⟨_, cut, fun named row => bound_of_inRows cut named, loopOver_eq defined listed⟩

/-- A macro of two parameters that calls another one before it defines it. -/
def leavingTrace : Expander :=
  let definition : Definition :=
    ⟨"m".toList, ["a".toList, "b".toList], "¤k[¤a¤b]¤define(k, !)".toList⟩
  { new .plain .standard with memory := Memory.empty.define definition }

/-- The second part starts where the first one has left its trace, and its last row is short. -/
theorem loopOver_append_leavingTrace :
    (leavingTrace.loopOver 5 "m".toList
      (["1".toList, "2".toList] ++ ["3".toList, "4".toList, "5".toList])).1 =
        .ok ("[12]".toList ++ "![34]![5]".toList) := by
  have parts := loopOver_append leavingTrace 5 "m".toList _ ["1".toList, "2".toList]
    ["3".toList, "4".toList, "5".toList] rfl (by simp) (by decide) (by simp)
  have first : leavingTrace.loopOver 5 "m".toList ["1".toList, "2".toList] =
      (.ok "[12]".toList, (leavingTrace.loopOver 5 "m".toList ["1".toList, "2".toList]).2) :=
    Prod.ext (by decide +kernel) rfl
  have continued := (parts.2.1 _ _ first (by decide +kernel)).1 "![34]![5]".toList _
    (Prod.ext (by decide +kernel) rfl)
  exact congrArg Prod.fst continued

end Expander

end Stylesheet
