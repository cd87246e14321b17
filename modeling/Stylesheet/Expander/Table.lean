import Stylesheet.Text.Basic

/-!
Tables from names to values, in the order in which the names were first set.
-/

namespace Stylesheet

abbrev Table (Value : Type) := List (Text × Value)

namespace Table

variable {Value : Type}

def get? (name : Text) : Table Value → Option Value
  | [] => none
  | entry :: table => if entry.1 = name then some entry.2 else get? name table

/-- Gives `name` a value: in its old place when it has one, else at the end. -/
def put (name : Text) (value : Value) : Table Value → Table Value
  | [] => [(name, value)]
  | entry :: table =>
    if entry.1 = name then (name, value) :: table else entry :: put name value table

/-- The table of a list of entries, of which a later one overrides an earlier one. -/
def ofEntries (entries : List (Text × Value)) : Table Value :=
  entries.foldl (fun table entry => put entry.1 entry.2 table) []

def sorted (table : Table Value) : List (Text × Value) :=
  table.mergeSort fun left right => !right.1.precedes left.1

theorem get?_put_self (table : Table Value) (name : Text) (value : Value) :
    get? name (put name value table) = some value := by
  induction table with
  | nil => simp [put, get?]
  | cons entry table ih =>
    by_cases same : entry.1 = name
    · simp [put, get?, same]
    · simp [put, get?, same, ih]

theorem get?_put_other (table : Table Value) {name other : Text} (value : Value)
    (different : other ≠ name) : get? other (put name value table) = get? other table := by
  induction table with
  | nil => simp [put, get?, Ne.symm different]
  | cons entry table ih =>
    by_cases same : entry.1 = name
    · simp [put, get?, same, Ne.symm different]
    · by_cases hit : entry.1 = other
      · simp [put, get?, hit, different]
      · simp [put, get?, same, hit, ih]

theorem mem_of_get? {table : Table Value} {name : Text} {value : Value}
    (found : get? name table = some value) : (name, value) ∈ table := by
  induction table with
  | nil => simp [get?] at found
  | cons entry table ih =>
    by_cases same : entry.1 = name
    · simp only [get?, same, if_true, Option.some.injEq] at found
      simp [← same, ← found]
    · simp only [get?, same, if_false] at found
      exact List.mem_cons_of_mem entry (ih found)

theorem mem_put {table : Table Value} {name : Text} {value : Value} {entry : Text × Value}
    (member : entry ∈ put name value table) : entry = (name, value) ∨ entry ∈ table := by
  induction table with
  | nil => simpa [put] using member
  | cons first table ih =>
    by_cases same : first.1 = name
    · simp only [put, same, if_true, List.mem_cons] at member
      exact member.imp_right (List.mem_cons_of_mem first)
    · simp only [put, same, if_false, List.mem_cons] at member ⊢
      exact member.elim (fun equal => .inr (.inl equal)) fun later => (ih later).imp_right .inr

/-- What a table is made from is all that it holds. -/
theorem mem_of_mem_ofEntries {entries : List (Text × Value)} {entry : Text × Value}
    (member : entry ∈ ofEntries entries) : entry ∈ entries := by
  have generalized : ∀ table, entry ∈ entries.foldl (fun t e => put e.1 e.2 t) table →
      entry ∈ table ∨ entry ∈ entries := by
    clear member
    induction entries with
    | nil => exact fun table member => .inl member
    | cons first entries ih =>
      intro table member
      rcases ih (put first.1 first.2 table) member with placed | later
      · rcases mem_put placed with same | old
        · exact .inr (same ▸ List.mem_cons_self)
        · exact .inl old
      · exact .inr (List.mem_cons_of_mem first later)
  exact (generalized [] member).resolve_left List.not_mem_nil

end Table

end Stylesheet
