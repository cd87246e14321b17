import Stylesheet.Proofs.Expander.Contract
import Stylesheet.Proofs.Invocation.Search

/-!
Texts without invocations. A marker calls nothing unless a name stands right behind it, so a text in
which none does expands to itself, however many markers it holds and however they overlap.
-/

namespace Stylesheet

namespace Text

/-- No occurrence of the marker has a character of a name right behind it. -/
def Uninvoked (text marker : Text) : Prop :=
  ∀ before c behind, text = before ++ marker ++ c :: behind → isNameChar c = false

section Occurrences

variable {text marker before behind : Text}

theorem Uninvoked.nameless (plain : text.Uninvoked marker)
    (whole : text = before ++ marker ++ behind) : ∀ c ∈ behind.head?, isNameChar c = false := by
  intro c first
  obtain ⟨rest, rfl⟩ := List.head?_eq_some_iff.mp first
  exact plain before c rest whole

theorem Uninvoked.rest (plain : text.Uninvoked marker)
    (whole : text = before ++ marker ++ behind) : behind.Uninvoked marker := by
  intro earlier c later same
  apply plain (before ++ marker ++ earlier) c later
  rw [whole, same]
  simp only [List.append_assoc]

theorem uninvoked_cons_iff {d : Char} :
    Uninvoked (d :: text) marker ↔
      (∀ behind, after? marker (d :: text) = some behind →
        ∀ c, behind.head? = some c → isNameChar c = false) ∧ text.Uninvoked marker := by
  constructor
  · intro plain
    constructor
    · intro behind found
      have whole : d :: text = [] ++ marker ++ behind := eq_of_after? found
      exact plain.nameless whole
    · intro before c behind same
      exact plain (d :: before) c behind (congrArg (d :: ·) same)
  · rintro ⟨head, later⟩ before c behind same
    cases before with
    | nil => exact head (c :: behind) (after?_eq_some_iff.mpr same) c rfl
    | cons e before => exact later before c behind (List.cons.inj same).2

end Occurrences

def isUninvoked (marker : Text) : Text → Bool
  | [] => true
  | d :: text =>
    (after? marker (d :: text)).all (fun behind => behind.head?.all (!isNameChar ·)) &&
      isUninvoked marker text

theorem isUninvoked_iff {marker text : Text} :
    isUninvoked marker text = true ↔ text.Uninvoked marker := by
  induction text with
  | nil =>
      simp only [isUninvoked, true_iff]
      intro before c behind same
      simp at same
  | cons d text ih =>
      simp only [isUninvoked, uninvoked_cons_iff, ih, Bool.and_eq_true, Option.all_eq_true,
        Bool.not_eq_true']

instance (text marker : Text) : Decidable (text.Uninvoked marker) :=
  decidable_of_iff _ isUninvoked_iff

end Text

/-- Where no character of a name comes first, there is no invocation to read. -/
theorem Invocation.read_of_nameless {text : Text} (nameless : ∀ c ∈ text.head?, isNameChar c = false)
    (position : Nat) : read position text = .ok none := by
  have unnamed : text.takeWhile isNameChar = [] := by
    cases text with
    | nil => rfl
    | cons c text => exact List.takeWhile_cons_of_neg (by simp [nameless c rfl])
  simp only [read, unnamed, List.isEmpty_nil, if_true]

/-- A pass returns a text without invocations as it is, whatever name it looks for. It stops at a
marker only to step over it, and there are no invocations behind that marker either. -/
theorem substitute_of_uninvoked {marker : Marker} (name : Option Text)
    (value : Invocation → Expansion Text) (written : Nat) (text : Text)
    (plain : text.Uninvoked marker.text) :
    substitute marker name value written text = pure text := by
  induction written, text using substitute.induct marker name with
  | case1 written text absent => exact substitute_of_absent value written absent
  | case2 written text before behind found start position error read =>
      have nameless := plain.nameless (Invocation.eq_of_find? found)
      cases read.symm.trans (Invocation.read_of_nameless nameless position)
  | case3 written text before behind found start position read ih =>
      have whole := Invocation.eq_of_find? found
      rw [substitute_of_found value written found, read, ih (plain.rest whole), whole]
      rfl
  | case4 written text before behind found start position invocation rest read ih =>
      have nameless := plain.nameless (Invocation.eq_of_find? found)
      cases read.symm.trans (Invocation.read_of_nameless nameless position)

theorem expandAt_of_uninvoked {settings : Settings} (functions : Table Function) (levels : Nat)
    (scope : Scope) {text : Text} (plain : text.Uninvoked settings.marker.text) :
    expandAt settings functions (levels + 1) scope text = pure text := by
  simp only [expandAt, expandPasses, substitute_of_uninvoked _ _ _ text plain, pure_bind]

namespace Expander

/-- A document without invocations expands to itself and leaves the expander as it was. -/
theorem expand_uninvoked (expander : Expander) (source : Text)
    (room : 1 ≤ expander.settings.depthLimit)
    (plain : source.Uninvoked expander.settings.marker.text) :
    expander.perform (.expand source) = (.ok (.text source), expander) := by
  apply perform_expand_of_fixed room
  intro levels
  exact expandAt_of_uninvoked expander.functions levels [] plain

/-- A marker that overlaps itself, one level, and a variable that has the name of a function. -/
def overlapping : Expander :=
  let marker : Marker := ⟨"$-$".toList, by decide⟩
  (new .script { Settings.standard with marker, depthLimit := 1 }).setVariable "set".toList
    "1".toList

/-- Markers that overlap and follow each other, with brackets and quotes left open around them. -/
theorem expand_uninvoked_overlapping :
    overlapping.perform (.expand "$-$-$-$(\"$-$ set,\x7b$-$$-$".toList) =
      (.ok (.text "$-$-$-$(\"$-$ set,\x7b$-$$-$".toList), overlapping) :=
  expand_uninvoked overlapping _ (by decide) (by decide)

end Expander

end Stylesheet
