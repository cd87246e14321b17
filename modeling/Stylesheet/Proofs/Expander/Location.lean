import Mathlib.Order.Bounds.Basic
import Stylesheet.Expander.Substitute
import Stylesheet.Proofs.Invocation.Grammar
import Stylesheet.Proofs.Invocation.Search
import Stylesheet.Proofs.Text.Run

/-!
Two ways to locate the invocations of a name: searching for the marker with the name behind it, and
reading wherever the marker stands. They agree, since a name that is found ends where the reader
ends it. So a pass for one name stops at all invocations of the name that it comes to, and at
nothing else.
-/

namespace Stylesheet

namespace Invocation

/-- Reading where a marker stands comes upon an invocation of `name`: it gives one, or the name is
all that it has read when it fails at a bracket behind it. -/
inductive InvokedAt (source marker name : Text) (start : Nat) : Prop where
  | read {located : Located} (occurs : marker <+: source.drop start)
      (found : readAt marker start source = .ok (some located))
      (named : located.invocation.name = name)
  | unclosed {tail : Text} {error : OpenError}
      (failed : readAt marker start source = .error error)
      (whole : source.drop start = marker ++ name ++ tail)
      (ends : ∀ c ∈ tail.head?, isNameChar c = false)
      (later : start + marker.length + name.length ≤ error.position)

/-- The positions from `start` on at which reading comes upon an invocation of `name`. -/
def invokedFrom (source marker name : Text) (start : Nat) : Set Nat :=
  {i | start ≤ i ∧ InvokedAt source marker name i}

section Reading

variable {source marker name : Text} {start : Nat}

theorem drop_of_heads (heads : Heads marker name (source.drop start)) :
    marker <+: source.drop start ∧ ∃ tail, source.drop (start + marker.length) = name ++ tail ∧
      ∀ c ∈ tail.head?, isNameChar c = false := by
  obtain ⟨tail, whole, ends⟩ := heads
  rw [List.append_assoc] at whole
  refine ⟨⟨name ++ tail, whole.symm⟩, tail, ?_, ends⟩
  rw [← List.drop_drop, whole, List.drop_left]

/-- What the reader takes for the name is the name that stands there. -/
theorem takeWhile_of_heads (named : ∀ c ∈ name, isNameChar c = true)
    (heads : Heads marker name (source.drop start)) :
    (source.drop (start + marker.length)).takeWhile isNameChar = name := by
  obtain ⟨_, tail, behind, ends⟩ := drop_of_heads heads
  rw [behind, takeWhile_run named ends]

theorem front_le_position {front tail : Text} {error : OpenError}
    (unclosed : Unclosed front tail error) : front.length ≤ error.position := by
  cases unclosed with
  | list => simp [OpenError.position]
  | block => simp [OpenError.position]

theorem heads_of_invokedAt (invoked : InvokedAt source marker name start) :
    Heads marker name (source.drop start) := by
  cases invoked with
  | read occurs found named =>
      obtain ⟨_, spans⟩ := (readAt_eq_some_iff occurs).mp found
      obtain ⟨parts, _, ends⟩ := exists_run isNameChar (source.drop (start + marker.length))
      rw [← spans.name_eq, named] at parts
      refine ⟨_, ?_, ends⟩
      rw [List.append_assoc, ← parts]
      exact drop_marker occurs
  | unclosed failed whole ends later => exact ⟨_, whole, ends⟩

theorem invokedAt_of_heads (filled : name ≠ []) (named : ∀ c ∈ name, isNameChar c = true)
    (heads : Heads marker name (source.drop start)) : InvokedAt source marker name start := by
  obtain ⟨occurs, _⟩ := drop_of_heads heads
  have taken := takeWhile_of_heads named heads
  cases outcome : readAt marker start source with
  | error error =>
      obtain ⟨tail, whole, ends⟩ := heads
      obtain ⟨long, unclosed⟩ := readAt_eq_error_iff.mp outcome
      have bounded := front_le_position unclosed
      rw [length_front long, taken] at bounded
      exact .unclosed outcome whole ends bounded
  | ok reading =>
      cases reading with
      | none => exact absurd (taken.symm.trans (readAt_eq_none_iff.mp outcome)) filled
      | some located =>
          obtain ⟨_, spans⟩ := (readAt_eq_some_iff occurs).mp outcome
          exact .read occurs outcome (spans.name_eq.trans taken)

end Reading

/-! Searching -/

section Searching

variable {source marker name : Text} {start : Nat} (filled : name ≠ [])
  (named : ∀ c ∈ name, isNameChar c = true)

include filled named

theorem position?_eq_none_iff :
    position? marker (some name) start source = none ↔
      ∀ i, start ≤ i → ¬InvokedAt source marker name i := by
  rw [position?, Option.map_eq_none_iff, find?_name_eq_none_iff]
  constructor
  · intro absent i reached invoked
    apply absent (i - start)
    rw [List.drop_drop, Nat.add_sub_cancel' reached]
    exact heads_of_invokedAt invoked
  · intro absent i heads
    rw [List.drop_drop] at heads
    exact absent (start + i) (Nat.le_add_right start i) (invokedAt_of_heads filled named heads)

theorem isLeast_of_position? {i : Nat}
    (found : position? marker (some name) start source = some i) :
    IsLeast (invokedFrom source marker name start) i := by
  obtain ⟨⟨before, behind⟩, searched, rfl⟩ := Option.map_eq_some_iff.mp found
  obtain ⟨stops, passes⟩ := behind?_of_find? searched
  constructor
  · refine ⟨Nat.le_add_right start _, invokedAt_of_heads filled named ?_⟩
    by_contra absent
    rw [← List.drop_drop, ← behind?_eq_none_iff, stops] at absent
    cases absent
  · rintro j ⟨reached, invoked⟩
    by_contra earlier
    have bounded : j - start < before.length := by
      change ¬start + before.length ≤ j at earlier
      omega
    have missed := passes (j - start) bounded
    rw [List.drop_drop, Nat.add_sub_cancel' reached, behind?_eq_none_iff] at missed
    exact missed (heads_of_invokedAt invoked)

theorem position?_eq_some_iff {i : Nat} :
    position? marker (some name) start source = some i ↔
      IsLeast (invokedFrom source marker name start) i := by
  constructor
  · exact isLeast_of_position? filled named
  · intro least
    cases found : position? marker (some name) start source with
    | none =>
        obtain ⟨reached, invoked⟩ := least.1
        exact absurd invoked ((position?_eq_none_iff filled named).mp found i reached)
    | some j => rw [(isLeast_of_position? filled named found).unique least]

end Searching

end Invocation

/-! A pass for one name -/

open Invocation

/-- What a pass makes of a document when it has come to a position: all before it stays. -/
def rewriteFrom (marker : Marker) (name : Option Text) (value : Invocation → Expansion Text)
    (start : Nat) (source : Text) : Expansion Text := do
  let rest ← substitute marker name value start (source.drop start)
  return source.take start ++ rest

/-- How a pass for one name goes on from a position of a document. It is done when there is no
invocation of the name left. Else it comes to the first one there is, puts the value in its place
and goes on behind that, or ends with the error that reading there gives. -/
inductive Advances (marker : Marker) (name : Text) (value : Invocation → Expansion Text)
    (start : Nat) (source : Text) : Prop where
  | done (absent : ∀ i, start ≤ i → ¬InvokedAt source marker.text name i)
      (same : rewriteFrom marker (some name) value start source = pure source)
  | replaced {i : Nat} {located : Located}
      (first : IsLeast (invokedFrom source marker.text name start) i)
      (found : readAt marker.text i source = .ok (some located))
      (named : located.invocation.name = name)
      (goesOn : rewriteFrom marker (some name) value start source =
        value located.invocation >>= fun replacement =>
          rewriteFrom marker (some name) value (i + replacement.length)
            (source.take i ++ replacement ++ source.drop located.stop))
  | failed {i : Nat} {error : OpenError}
      (first : IsLeast (invokedFrom source marker.text name start) i)
      (unclosed : readAt marker.text i source = .error error)
      (stops : rewriteFrom marker (some name) value start source = throw (.openInvocation error))

section Pass

variable {marker : Marker} {name : Text} (value : Invocation → Expansion Text) {start : Nat}
  {source before behind : Text}

/-- At the head of a document nothing is rewritten yet. -/
theorem substitute_eq_rewriteFrom (source : Text) :
    substitute marker (some name) value 0 source =
      rewriteFrom marker (some name) value 0 source := by
  simp only [rewriteFrom, List.drop_zero, List.take_zero, List.nil_append, bind_pure]

theorem rewriteFrom_of_absent
    (absent : find? marker.text (some name) (source.drop start) = none) :
    rewriteFrom marker (some name) value start source = pure source := by
  rw [rewriteFrom, substitute_of_absent _ _ absent, pure_bind, List.take_append_drop]

-- Where the search stops, told by the position in the document.
theorem drop_of_find?
    (found : find? marker.text (some name) (source.drop start) = some (before, behind)) :
    source.drop (start + before.length + marker.text.length) = behind ∧
      source.take start ++ before = source.take (start + before.length) := by
  have whole := eq_of_find? found
  rw [List.append_assoc] at whole
  constructor
  · rw [Nat.add_assoc, ← List.drop_drop, whole, ← List.drop_drop, List.drop_left, List.drop_left]
  · rw [List.take_add, whole, List.take_left]

theorem rewriteFrom_of_error {error : OpenError}
    (found : find? marker.text (some name) (source.drop start) = some (before, behind))
    (failed : read (start + before.length + marker.text.length) behind = .error error) :
    rewriteFrom marker (some name) value start source = throw (.openInvocation error) := by
  rw [rewriteFrom, substitute_of_found _ _ found, failed]
  rfl

theorem rewriteFrom_of_read {invocation : Invocation} {rest : Text}
    (found : find? marker.text (some name) (source.drop start) = some (before, behind))
    (read : read (start + before.length + marker.text.length) behind =
      .ok (some (invocation, rest))) :
    rewriteFrom marker (some name) value start source =
      value invocation >>= fun replacement =>
        rewriteFrom marker (some name) value (start + before.length + replacement.length)
          (source.take (start + before.length) ++ replacement ++ rest) := by
  obtain ⟨_, front⟩ := drop_of_find? found
  have reached : (source.take (start + before.length)).length = start + before.length := by
    have whole := congrArg List.length (eq_of_find? found)
    have filled := List.length_pos_iff.mpr marker.filled
    simp only [List.length_append, List.length_drop] at whole
    rw [List.length_take]
    omega
  rw [rewriteFrom, substitute_of_found _ _ found, read]
  simp only [bind_assoc, pure_bind]
  congr 1
  funext replacement
  have passed : (source.take (start + before.length) ++ replacement).length =
      start + before.length + replacement.length := by rw [List.length_append, reached]
  rw [rewriteFrom, ← passed, List.drop_left, List.take_left, ← front]
  simp only [List.append_assoc]

/-- A pass for one name goes on in one of the three ways: reading where it stops never misses. -/
theorem advances (filled : name ≠ []) (named : ∀ c ∈ name, isNameChar c = true) :
    Advances marker name value start source := by
  cases found : find? marker.text (some name) (source.drop start) with
  | none =>
      have absent : position? marker.text (some name) start source = none := by
        rw [position?, found, Option.map_none]
      exact .done ((position?_eq_none_iff filled named).mp absent)
        (rewriteFrom_of_absent value found)
  | some parts =>
      obtain ⟨before, behind⟩ := parts
      have located : position? marker.text (some name) start source =
          some (start + before.length) := by rw [position?, found, Option.map_some]
      have first := isLeast_of_position? filled named located
      have heads := heads_of_invokedAt first.1.2
      obtain ⟨stands, _⟩ := drop_of_find? found
      cases outcome : read (start + before.length + marker.text.length) behind with
      | error error =>
          refine .failed first (readAt_of_error ?_) (rewriteFrom_of_error value found outcome)
          rw [stands, outcome]
      | ok reading =>
          cases reading with
          | none =>
              have unnamed := read_eq_none_iff.mp outcome
              rw [← stands, takeWhile_of_heads named heads] at unnamed
              exact absurd unnamed filled
          | some parts =>
              obtain ⟨invocation, rest⟩ := parts
              have ends : rest <:+ source :=
                (suffix_read outcome).trans (stands ▸ List.drop_suffix _ source)
              rw [← stands] at outcome
              have read := readAt_of_some outcome
              have spans := ((readAt_eq_some_iff (drop_of_heads heads).1).mp read).2
              rw [takeWhile_of_heads named heads] at spans
              refine .replaced first read spans.name_eq ?_
              rw [← List.suffix_iff_eq_drop.mp ends]
              exact rewriteFrom_of_read value found (stands ▸ outcome)

end Pass

/-- Searching for a name finds the first position from `start` on where reading comes upon an
invocation of exactly this name, and nothing if there is none. So a pass for the name, which starts
at the head of a document, reads an invocation of this name or fails at one wherever it stops, and
passes over none. -/
theorem position?_least_invoked (source : Text) (marker : Marker) (start : Nat) {name : Text}
    (filled : name ≠ []) (named : ∀ c ∈ name, isNameChar c = true) :
    (∀ i, position? marker.text (some name) start source = some i ↔
        IsLeast (invokedFrom source marker.text name start) i) ∧
      (position? marker.text (some name) start source = none ↔
        ∀ i, start ≤ i → ¬InvokedAt source marker.text name i) ∧
      ∀ value,
        substitute marker (some name) value 0 source =
            rewriteFrom marker (some name) value 0 source ∧
          Advances marker name value start source :=
  ⟨fun _ => position?_eq_some_iff filled named, position?_eq_none_iff filled named,
    fun value => ⟨substitute_eq_rewriteFrom value source, advances value filled named⟩⟩

def doubledMarker : Marker := ⟨['$', '$'], by decide⟩

/-- Markers that overlap, a longer name, and an invocation that is not closed at the end. -/
def crowdedMarkers : Text := "$$settings $$$set(a) $$ $$set (b".toList

theorem position?_least_invoked_crowdedMarkers :
    IsLeast (invokedFrom crowdedMarkers doubledMarker.text "set".toList 0) 12 ∧
      IsLeast (invokedFrom crowdedMarkers doubledMarker.text "set".toList 13) 24 ∧
      (∀ i, 25 ≤ i → ¬InvokedAt crowdedMarkers doubledMarker.text "set".toList i) ∧
      ∀ value, Advances doubledMarker "set".toList value 0 crowdedMarkers := by
  have agrees := fun start => position?_least_invoked crowdedMarkers doubledMarker start
    (by decide : "set".toList ≠ []) (List.all_eq_true.mp rfl)
  exact ⟨((agrees 0).1 12).mp (by decide), ((agrees 13).1 24).mp (by decide),
    (agrees 25).2.1.mp (by decide), fun value => ((agrees 0).2.2 value).2⟩

end Stylesheet
