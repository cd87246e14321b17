import Stylesheet.Proofs.Expander.ReferenceChain
import Stylesheet.Proofs.Expander.Unwrapping
import Stylesheet.Proofs.Invocation.Grammar
import Stylesheet.Proofs.Invocation.Joining

/-!
Declarations behind vendors' prefixes. The commas of a declaration cut it into arguments, which are
put together again with a comma and a space between them. On the way each part is trimmed, and a
part with the same quote at both ends loses both. So the declaration comes out as it was, apart from
the blanks around its commas, just when no part has such quotes.
-/

namespace Stylesheet

/-- A declaration behind each prefix, with a semicolon behind it each time. -/
def prefixedBy (vendors : List Text) (declaration : Text) : Text :=
  vendors.flatMap fun vendor => vendor ++ declaration ++ [';']

/-- Parts with a comma and a space between them. -/
def spaced (parts : List Text) : Text := List.intercalate [',', ' '] parts

/-! The text tells the declaration, and the declaration tells its parts -/

section Telling

variable {vendors texts : List Text} {first second : Text}

theorem length_prefixedBy (vendors : List Text) (declaration : Text) :
    (prefixedBy vendors declaration).length =
      vendors.flatten.length + vendors.length * (declaration.length + 1) := by
  induction vendors with
  | nil => simp [prefixedBy]
  | cons vendor vendors ih =>
      simp only [prefixedBy] at ih
      simp only [prefixedBy, List.flatMap_cons, List.length_append, ih, List.flatten_cons,
        List.length_cons, List.length_nil, Nat.add_mul]
      omega

theorem prefixedBy_inj : prefixedBy vendors first = prefixedBy vendors second ↔
    vendors = [] ∨ first = second := by
  constructor
  · intro same
    cases vendors with
    | nil => exact .inl rfl
    | cons vendor vendors =>
        right
        have lengths := congrArg List.length same
        rw [length_prefixedBy, length_prefixedBy] at lengths
        have equal : first.length + 1 = second.length + 1 :=
          Nat.eq_of_mul_eq_mul_left (Nat.zero_lt_succ _) (Nat.add_left_cancel lengths)
        simp only [prefixedBy, List.flatMap_cons, List.append_assoc] at same
        exact (List.append_inj (List.append_cancel_left same) (by omega)).1
  · rintro (rfl | rfl) <;> rfl

section Joined

variable {f g : Text → Text} (shorter : ∀ text ∈ texts, (f text).length ≤ (g text).length)

include shorter

theorem length_spaced_le : (spaced (texts.map f)).length ≤ (spaced (texts.map g)).length := by
  induction texts with
  | nil => exact Nat.le_refl _
  | cons text texts ih =>
      have here := shorter text List.mem_cons_self
      have later := ih fun other member => shorter other (List.mem_cons_of_mem text member)
      cases texts with
      | nil => simpa [spaced] using here
      | cons next texts =>
          simp only [spaced, List.map_cons, List.intercalate_cons_cons,
            List.length_append] at later ⊢
          omega

-- No part can make up for another that is shorter.
theorem eq_of_spaced (same : spaced (texts.map f) = spaced (texts.map g)) :
    ∀ text ∈ texts, f text = g text := by
  induction texts with
  | nil => exact fun _ member => nomatch member
  | cons text texts ih =>
      have here := shorter text List.mem_cons_self
      have below : ∀ other ∈ texts, (f other).length ≤ (g other).length := fun other member =>
        shorter other (List.mem_cons_of_mem text member)
      have later := length_spaced_le below
      cases texts with
      | nil =>
          intro other member
          obtain rfl := List.mem_singleton.mp member
          simpa [spaced] using same
      | cons next texts =>
          have lengths := congrArg List.length same
          simp only [spaced, List.map_cons, List.intercalate_cons_cons, List.length_append,
            List.append_assoc] at same lengths later
          obtain ⟨head, tail⟩ := List.append_inj same (by omega)
          have rest := ih below (List.append_cancel_left tail)
          intro other member
          rcases List.mem_cons.mp member with rfl | member
          · exact head
          · exact rest other member

end Joined

end Telling

/-! Trimming and unwrapping take characters away -/

section Taking

variable {argument : Text}

theorem trim_sublist (text : Text) : text.trim.Sublist text := by
  obtain ⟨behind, ends, _⟩ := Text.exists_trimEnd_append text.trimStart
  have front : text.trim.Sublist text.trimStart := ends ▸ List.sublist_append_left _ _
  exact front.trans (List.dropWhile_sublist isBlank)

theorem bareArgument_sublist (argument : Text) : (bareArgument argument).Sublist argument.trim := by
  by_cases wrapped : argument.trim.IsWrapped
  · obtain ⟨quote, inner, isQuote, whole⟩ := wrapped
    rw [bareArgument_of_wrapped isQuote whole, whole]
    exact (List.sublist_append_left inner [quote]).cons quote
  · rw [bareArgument_of_unwrapped wrapped]

/-- Unwrapping the parts changes the declaration if it changes any of them. -/
theorem spaced_bareArgument_eq_iff {parts : List Text} :
    spaced (parts.map bareArgument) = spaced (parts.map Text.trim) ↔
      ∀ part ∈ parts, ¬part.trim.IsWrapped := by
  simp only [← bareArgument_eq_trim_iff]
  constructor
  · exact eq_of_spaced fun part _ => (bareArgument_sublist part).length_le
  · intro each
    rw [List.map_congr_left each]

theorem unmarked_bareArgument (unmarked : '¤' ∉ argument) : '¤' ∉ bareArgument argument :=
  fun member => unmarked
    ((trim_sublist argument).subset ((bareArgument_sublist argument).subset member))

theorem unmarked_bareArguments {arguments : List Text}
    (unmarked : ∀ argument ∈ arguments, '¤' ∉ argument) :
    ∀ bare ∈ arguments.map bareArgument, '¤' ∉ bare := by
  intro bare member
  obtain ⟨argument, given, rfl⟩ := List.mem_map.mp member
  exact unmarked_bareArgument (unmarked argument given)

end Taking

/-! The invocation -/

section Invoking

variable {settings : Settings} {functions : Table Function} {parts : List Text}

theorem unmarked_prefixedBy {vendors : List Text} {declaration : Text}
    (plain : ∀ vendor ∈ vendors, '¤' ∉ vendor) (unmarked : '¤' ∉ declaration) :
    '¤' ∉ prefixedBy vendors declaration := by
  intro member
  obtain ⟨vendor, listed, within⟩ := List.mem_flatMap.mp member
  simp only [List.mem_append, List.mem_singleton] at within
  rcases within with (early | middle) | last
  · exact plain vendor listed early
  · exact unmarked middle
  · cases last

theorem unmarked_spaced (unmarked : ∀ part ∈ parts, '¤' ∉ part) : '¤' ∉ spaced parts :=
  Text.intercalate_closed (P := fun text => '¤' ∉ text) List.not_mem_nil
    (fun _ _ left right member => (List.mem_append.mp member).elim left right) (by decide) unmarked

theorem mapM_expandAt_of_unmarked (standard : settings.marker = .standard) (levels : Nat)
    (scope : Scope) {texts : List Text} (unmarked : ∀ text ∈ texts, '¤' ∉ text) :
    texts.mapM (expandAt settings functions (levels + 1) scope) = pure texts := by
  induction texts with
  | nil => rfl
  | cons text texts ih =>
      have later := ih fun other member => unmarked other (List.mem_cons_of_mem text member)
      rw [List.mapM_cons, later,
        expandAt_of_unmarked standard functions levels scope (unmarked text List.mem_cons_self)]
      simp only [pure_bind]

/-- Arguments without a marker are only unwrapped. -/
theorem prepare_of_unmarked (standard : settings.marker = .standard) (levels : Nat) (scope : Scope)
    {invocation : Invocation} (unmarked : ∀ argument ∈ invocation.arguments, '¤' ∉ argument) :
    prepare settings (expandAt settings functions (levels + 1)) scope invocation =
      pure (invocation.arguments.map bareArgument) := by
  have bare := unmarked_bareArguments unmarked
  simp only [prepare, mapM_expandAt_of_unmarked standard levels scope bare, ite_self]

theorem runPrefixed_of_filled (filled : parts ≠ []) :
    Function.runPrefixed settings parts =
      pure (prefixedBy settings.vendorPrefixes (spaced parts)) := by
  cases parts with
  | nil => exact absurd rfl filled
  | cons part parts => rfl

theorem invoke_prefixed (standard : settings.marker = .standard)
    (known : functions.get? "prefixed".toList = some .prefixed)
    (plain : ∀ vendor ∈ settings.vendorPrefixes, '¤' ∉ vendor) (filled : parts ≠ [])
    (unmarked : ∀ part ∈ parts, '¤' ∉ part) (levels : Nat) :
    invoke settings functions (expandAt settings functions (levels + 1)) []
        ⟨"prefixed".toList, parts, false⟩ =
      pure (prefixedBy settings.vendorPrefixes (spaced (parts.map bareArgument))) := by
  have called : Function.call settings (expandAt settings functions (levels + 1)) .prefixed
      (parts.map bareArgument) =
      pure (prefixedBy settings.vendorPrefixes (spaced (parts.map bareArgument))) :=
    runPrefixed_of_filled (by simpa using filled)
  have settled := settle_of_unmarked standard (expandAt settings functions (levels + 1)) []
    (unmarked_prefixedBy plain (unmarked_spaced (unmarked_bareArguments unmarked)))
  have prepared : prepare settings (expandAt settings functions (levels + 1)) []
      ⟨"prefixed".toList, parts, false⟩ = pure (parts.map bareArgument) :=
    prepare_of_unmarked standard levels [] unmarked
  simp only [invoke, prepared, pure_bind, resolve, Table.get?, known, called, settled]
  rfl

theorem subset_intercalate {separator part : Text} (member : part ∈ parts) :
    part ⊆ List.intercalate separator parts := by
  induction parts with
  | nil => cases member
  | cons first parts ih =>
      cases parts with
      | nil =>
          obtain rfl := List.mem_singleton.mp member
          simp
      | cons next parts =>
          rw [List.intercalate_cons_cons]
          rcases List.mem_cons.mp member with rfl | later
          · simp
          · exact fun c within => List.mem_append_right _ (ih later within)

theorem unmarked_of_splitsInto {text : Text} (splits : text.SplitsInto parts)
    (unmarked : '¤' ∉ text) : ∀ part ∈ parts, '¤' ∉ part := by
  intro part member within
  rw [splits.joined] at unmarked
  exact unmarked (subset_intercalate member within)

-- A list ends the name before it.
theorem noName_list (text : Text) : ∀ c ∈ ('(' :: text ++ [')']).head?, isNameChar c = false := by
  intro c first
  obtain rfl : '(' = c := Option.some.inj first
  rfl

section AtEnd

variable {name text : Text} (isName : name.IsName) (splits : text.SplitsInto parts)
  (visible : ∀ part ∈ parts, ∃ c ∈ part, isBlank c = false)

include isName splits visible

/-- An invocation with a list and nothing behind it has the parts of the list as arguments. -/
theorem read_list_at_end (position : Nat) :
    Invocation.read position (name ++ ('(' :: text ++ [')'])) =
      .ok (some (⟨name, parts, false⟩, [])) := by
  have taken := takeWhile_run isName.named (noName_list text)
  have kept : parts = Invocation.dropBlank parts :=
    Invocation.gives_iff.mp (.parts fun part same => visible part (by simp [same]))
  have gap : Invocation.IsGap [] := fun _ member => nomatch member
  have listed : Invocation.ListPart ('(' :: text ++ [')']) parts ([] ++ [] ++ []) := by
    rw [kept, splits.joined]
    exact .list gap splits.filled splits.fits
  have spelled := Invocation.Spelled.intro listed (.gap gap) (.none nofun)
  rw [List.append_nil, List.append_nil, List.append_nil] at spelled
  apply (Invocation.read_eq_some_iff (taken.symm ▸ isName.filled)).mpr
  refine ⟨taken.symm, '(' :: text ++ [')'], ?_, spelled⟩
  rw [dropWhile_run isName.named (noName_list text), List.append_nil]

/-- A document that is one such invocation, other than an assignment, expands to its value. -/
theorem expandAt_list_at_end (standard : settings.marker = .standard) (other : name ≠ "set".toList)
    (unmarked : '¤' ∉ text) (levels : Nat) :
    expandAt settings functions (levels + 1) [] ('¤' :: (name ++ ('(' :: text ++ [')']))) =
      invoke settings functions (expandAt settings functions levels) [] ⟨name, parts, false⟩ := by
  have headed : Invocation.behind? Marker.standard.text none
      ('¤' :: (name ++ ('(' :: text ++ [')']))) = some (name ++ ('(' :: text ++ [')'])) :=
    (Invocation.behind?_standard '¤' _).trans (if_pos rfl)
  have later : '¤' ∉ name ++ ('(' :: text ++ [')']) := by
    simp [isName.unmarked, unmarked]
  have absent := isName.find?_set_of_other other (noName_list text)
    (Invocation.find?_none_of_unmarked later _)
  have done : Invocation.find? Marker.standard.text none [] = none :=
    Invocation.find?_none_of_unmarked List.not_mem_nil none
  simp only [expandAt, expandPasses, standard]
  rw [substitute_of_absent _ _ absent, pure_bind,
    substitute_of_headed _ _ headed (read_list_at_end isName splits visible)]
  simp only [substitute_of_absent _ _ done, pure_bind, List.append_nil, bind_pure]

end AtEnd

end Invoking

/-- The invocation as it is written. -/
def prefixedCall (declaration : Text) : Text :=
  '¤' :: ("prefixed".toList ++ ('(' :: declaration ++ [')']))

namespace Expander

/-- A declaration is put together again behind every prefix, with its parts trimmed and unwrapped.
It is the declaration that was given, but for the blanks around its commas, unless there is a prefix
and some part has the same quote at both ends. -/
theorem expand_prefixed (expander : Expander) (declaration : Text)
    (standard : expander.settings.marker = .standard) (room : 2 ≤ expander.settings.depthLimit)
    (known : expander.functions.get? "prefixed".toList = some .prefixed)
    (plain : ∀ vendor ∈ expander.settings.vendorPrefixes, '¤' ∉ vendor)
    (unmarked : '¤' ∉ declaration) (closes : declaration.ClosesList) :
    ∃ parts, declaration.SplitsInto parts ∧
      ((∀ part ∈ parts, ∃ c ∈ part, isBlank c = false) →
        expander.perform (.expand (prefixedCall declaration)) =
            (.ok (.text (prefixedBy expander.settings.vendorPrefixes
              (spaced (parts.map bareArgument)))), expander) ∧
          (expander.perform (.expand (prefixedCall declaration)) =
              (.ok (.text (prefixedBy expander.settings.vendorPrefixes
                (spaced (parts.map Text.trim)))), expander) ↔
            expander.settings.vendorPrefixes = [] ∨ ∀ part ∈ parts, ¬part.trim.IsWrapped)) := by
  obtain ⟨parts, splits⟩ := Invocation.exists_splitsInto_iff.mpr closes
  refine ⟨parts, splits, fun visible => ?_⟩
  obtain ⟨levels, enough⟩ : ∃ levels, expander.settings.depthLimit.toNat = levels + 1 + 1 :=
    ⟨expander.settings.depthLimit.toNat - 2, by omega⟩
  have isName : Text.IsName "prefixed".toList := by decide
  have other : "prefixed".toList ≠ "set".toList := by decide
  -- One level goes to the document and one to its arguments.
  have expanded : expander.expansion (prefixedCall declaration) =
      pure (prefixedBy expander.settings.vendorPrefixes (spaced (parts.map bareArgument))) := by
    unfold expansion expandIn prefixedCall
    rw [enough, expandAt_list_at_end isName splits visible standard other unmarked (levels + 1)]
    exact invoke_prefixed standard known plain splits.filled
      (unmarked_of_splitsInto splits unmarked) levels
  have performed : expander.perform (.expand (prefixedCall declaration)) =
      (.ok (.text (prefixedBy expander.settings.vendorPrefixes
        (spaced (parts.map bareArgument)))), expander) :=
    perform_expand_of_ok (by rw [expanded]; rfl)
  refine ⟨performed, ?_⟩
  rw [performed]
  simp only [Prod.mk.injEq, Except.ok.injEq, Answer.text.injEq, and_true]
  rw [prefixedBy_inj, spaced_bareArgument_eq_iff]

def twoVendors : Expander :=
  new .css { Settings.standard with vendorPrefixes := ["-o-".toList, []] }

/-- Commas in parentheses and in quotes, and a part that starts with one string and ends with
another in other quotes. -/
def background : Text := "x: f(a, b)  ,'c,' \" d\",e".toList

theorem expand_prefixed_background :
    twoVendors.perform (.expand (prefixedCall background)) =
      (.ok (.text (prefixedBy twoVendors.settings.vendorPrefixes
        "x: f(a, b), 'c,' \" d\", e".toList)), twoVendors) := by
  have plain : ∀ vendor ∈ twoVendors.settings.vendorPrefixes, '¤' ∉ vendor := by decide
  have closes : background.ClosesList := ⟨by decide, by decide, by decide⟩
  obtain ⟨parts, splits, expands⟩ :=
    expand_prefixed twoVendors background rfl (by decide) rfl plain (by decide) closes
  obtain rfl : ["x: f(a, b)  ".toList, "'c,' \" d\"".toList, "e".toList] = parts :=
    Invocation.pieces_of_splitsInto splits
  have shown : ∀ part ∈ ["x: f(a, b)  ".toList, "'c,' \" d\"".toList, "e".toList],
      Text.isBlankText part = false := by decide
  refine (expands fun part member => ?_).2.mpr (.inr ?_)
  · simpa using List.all_eq_false.mp (shown part member)
  · simp only [← bareArgument_eq_trim_iff]
    decide

/-- A string behind a comma, as in a list of fonts. -/
def namedFont : Text := "font-family: Arial, \"B C\"".toList

/-- A part that is a string loses its quotes, though the declaration does not start with one. -/
theorem expand_prefixed_namedFont :
    namedFont.SplitsInto ["font-family: Arial".toList, " \"B C\"".toList] ∧
      (twoVendors.perform (.expand (prefixedCall namedFont))).1 =
        .ok (.text "-o-font-family: Arial, B C;font-family: Arial, B C;".toList) ∧
      prefixedBy twoVendors.settings.vendorPrefixes
          (spaced ["font-family: Arial".toList, "\"B C\"".toList]) =
        "-o-font-family: Arial, \"B C\";font-family: Arial, \"B C\";".toList :=
  ⟨⟨by decide, by decide, rfl⟩, by decide +kernel, rfl⟩

end Expander

end Stylesheet
