import Stylesheet.Proofs.Expander.ReferenceChain

/-!
Applying a macro is substitution. A body is a template: plain text with references to parameters in
it. Expanding it with arguments puts each argument in the place of the references to its parameter
and leaves the text between them alone, apart from a semicolon right behind a reference, which is
not written twice and not written behind nothing. What else the names of the parameters stand for
does not matter where they are bound, and the memory stays as it was.
-/

namespace Stylesheet

/-- A reference to a parameter and the plain text behind it. -/
structure Slot where
  name : Text
  text : Text

/-- The body of a macro: plain text, then the references with the text behind each. -/
structure Template where
  lead : Text
  slots : List Slot

namespace Slot

def written (slot : Slot) : Text := '¤' :: (slot.name ++ slot.text)

/-- The value in the place of the reference. A semicolon right behind it is dropped if there is no
value or one that has a semicolon at its end. -/
def filled (slot : Slot) (value : Text) : Text :=
  match slot.text with
  | ';' :: rest =>
    if value = [] ∨ value.getLast? = some ';' then value ++ rest else value ++ ';' :: rest
  | text => value ++ text

/-- The reference is to a parameter, and nothing behind it belongs to it but a semicolon. -/
@[mk_iff]
structure Fits (slot : Slot) (parameters : List Text) : Prop where
  known : slot.name ∈ parameters
  unmarked : '¤' ∉ slot.text
  noName : ∀ c ∈ slot.text.head?, isNameChar c = false
  noList : (slot.text.dropWhile isGapChar).head? ≠ some '('
  noBlock : (slot.text.dropWhile isGapChar).head? ≠ some '{'

instance (slot : Slot) (parameters : List Text) : Decidable (slot.Fits parameters) :=
  have : Decidable (∀ c ∈ slot.text.head?, isNameChar c = false) :=
    Option.decidableForallMem slot.text.head?
  decidable_of_iff _ (fits_iff slot parameters).symm

end Slot

namespace Template

def body (template : Template) : Text :=
  template.lead ++ template.slots.flatMap Slot.written

def filled (template : Template) (value : Text → Text) : Text :=
  template.lead ++ template.slots.flatMap fun slot => slot.filled (value slot.name)

structure Fits (template : Template) (parameters : List Text) : Prop where
  lead : '¤' ∉ template.lead
  slots : ∀ slot ∈ template.slots, slot.Fits parameters
  last : ∀ slot ∈ template.slots.getLast?, slot.text = [] ∨ slot.text.dropWhile isGapChar ≠ []

end Template

/-- The argument for a parameter, and nothing if there are too few arguments. -/
def Definition.argument (definition : Definition) (arguments : List Text) (name : Text) : Text :=
  (arguments[definition.parameters.idxOf name]?).getD []

/-! Reading the references -/

section Reading

variable {slot : Slot} {slots : List Slot} {parameters : List Text}

theorem head?_before_marker {text more : Text} {c : Char}
    (first : (text ++ '¤' :: more).head? = some c) : text.head? = some c ∨ c = '¤' := by
  cases text with
  | nil => exact .inr (Option.some.inj first).symm
  | cons d text => exact .inl first

/-- Whatever the next slot is, the reference in this one ends where its name does. -/
theorem stopsReference_of_fits (fits : slot.Fits parameters)
    (last : slots = [] → slot.text = [] ∨ slot.text.dropWhile isGapChar ≠ []) :
    (slot.text ++ slots.flatMap Slot.written).StopsReference := by
  cases slots with
  | nil =>
      rw [List.flatMap_nil, List.append_nil]
      exact ⟨fits.noName, fits.noList, fits.noBlock, last rfl⟩
  | cons next slots =>
      -- The next marker is neither a part of a name nor a blank nor a bracket.
      obtain ⟨more, marked⟩ : ∃ more, (next :: slots).flatMap Slot.written = '¤' :: more := ⟨_, rfl⟩
      have visible : ∀ c ∈ ('¤' :: more).head?, isGapChar c = false := by
        intro c same
        obtain rfl : '¤' = c := Option.some.inj same
        rfl
      have dropped := dropWhile_append_of_stop visible slot.text
      have bracket : ∀ c, (slot.text.dropWhile isGapChar).head? ≠ some c → c ≠ '¤' →
          ((slot.text ++ '¤' :: more).dropWhile isGapChar).head? ≠ some c := by
        intro c absent other first
        rw [dropped] at first
        exact (head?_before_marker first).elim absent other
      rw [marked]
      refine ⟨?_, bracket '(' fits.noList (by decide), bracket '{' fits.noBlock (by decide), .inr ?_⟩
      · intro c first
        rcases head?_before_marker first with inside | rfl
        · exact fits.noName c inside
        · rfl
      · rw [dropped]
        exact List.append_ne_nil_of_right_ne_nil _ (List.cons_ne_nil _ _)

/-- The semicolon is the only part of a slot's text that goes with the reference. -/
theorem exists_ended (slot : Slot) (unmarked : '¤' ∉ slot.text) (slots : List Slot) :
    ∃ terminated tail,
      Invocation.ended slot.name [] (slot.text ++ slots.flatMap Slot.written) =
        (⟨slot.name, [], terminated⟩, tail ++ slots.flatMap Slot.written) ∧
      '¤' ∉ tail ∧ ∀ value, slot.filled value = terminate terminated value ++ tail := by
  obtain ⟨name, text⟩ := slot
  by_cases semicolon : text.head? = some ';'
  · obtain ⟨rest, rfl⟩ := List.head?_eq_some_iff.mp semicolon
    refine ⟨true, rest, rfl, fun member => unmarked (List.mem_cons_of_mem _ member), ?_⟩
    intro value
    have spelled : Slot.filled ⟨name, ';' :: rest⟩ value =
        if value = [] ∨ value.getLast? = some ';' then value ++ rest
        else value ++ ';' :: rest := rfl
    by_cases ends : value = [] ∨ value.getLast? = some ';'
    · have kept : terminate true value = value := by
        rcases ends with rfl | last
        · rfl
        · simp [terminate, Text.endsWith, last]
      rw [spelled, if_pos ends, kept]
    · have ended : terminate true value = value ++ [';'] := by
        rw [not_or] at ends
        simp [terminate, Text.endsWith, ends.1, ends.2]
      rw [spelled, if_neg ends, ended, List.append_assoc, List.singleton_append]
  · have noSemicolon : (text ++ slots.flatMap Slot.written).head? ≠ some ';' := by
      intro first
      cases slots with
      | nil => exact semicolon (by simpa using first)
      | cons next slots => exact (head?_before_marker first).elim semicolon (by decide)
    refine ⟨false, text, ?_, unmarked, ?_⟩
    · unfold Invocation.ended
      split
      · next rest shape => exact absurd (congrArg List.head? shape) noSemicolon
      · rfl
    · intro value
      unfold Slot.filled
      split
      · next rest shape => exact absurd (congrArg List.head? shape) semicolon
      · simp [terminate]

end Reading

/-! Filling the slots -/

section Filling

variable {slots : List Slot} {parameters : List Text}

-- What holds of the last slot still holds when the first one is gone.
theorem last_of_cons {slot : Slot} {holds : Slot → Prop}
    (last : ∀ last ∈ (slot :: slots).getLast?, holds last) :
    (slots = [] → holds slot) ∧ ∀ last ∈ slots.getLast?, holds last := by
  cases slots with
  | nil => exact ⟨fun _ => last slot rfl, fun _ none => nomatch none⟩
  | cons next slots =>
      rw [List.getLast?_cons_cons] at last
      exact ⟨fun empty => (nomatch empty), last⟩

/-- A pass over a template puts the value of each parameter into its slots. -/
theorem substitute_slots {evaluate : Invocation → Expansion Text} {value : Text → Text}
    {memory : Memory} (isName : ∀ name ∈ parameters, name.IsName)
    (evaluates : ∀ name ∈ parameters, ∀ terminated,
      evaluate ⟨name, [], terminated⟩ memory = .ok (terminate terminated (value name)) memory)
    (fits : ∀ slot ∈ slots, slot.Fits parameters)
    (last : ∀ slot ∈ slots.getLast?, slot.text = [] ∨ slot.text.dropWhile isGapChar ≠ [])
    {front : Text} (unmarked : '¤' ∉ front) (written : Nat) :
    substitute .standard none evaluate written (front ++ slots.flatMap Slot.written) memory =
      .ok (front ++ slots.flatMap fun slot => slot.filled (value slot.name)) memory := by
  induction slots generalizing front written with
  | nil =>
      rw [List.flatMap_nil, List.append_nil, List.flatMap_nil, List.append_nil,
        substitute_of_absent _ _ (Invocation.find?_none_of_unmarked unmarked none)]
      rfl
  | cons slot slots ih =>
      have fitting := fits slot List.mem_cons_self
      have named := isName slot.name fitting.known
      obtain ⟨stops, lastLater⟩ := last_of_cons last
      obtain ⟨terminated, tail, ended, unmarkedTail, filled⟩ :=
        exists_ended slot fitting.unmarked slots
      have read : ∀ position, Invocation.read position
          (slot.name ++ (slot.text ++ slots.flatMap Slot.written)) =
          .ok (some (⟨slot.name, [], terminated⟩, tail ++ slots.flatMap Slot.written)) := by
        intro position
        rw [Invocation.read_reference named.filled named.named
          (stopsReference_of_fits fitting stops), ended]
      have headed : Invocation.behind? Marker.standard.text none
          ((slot :: slots).flatMap Slot.written) =
          some (slot.name ++ (slot.text ++ slots.flatMap Slot.written)) := by
        rw [List.flatMap_cons, Slot.written, List.cons_append, List.append_assoc]
        exact (Invocation.behind?_standard '¤' _).trans (if_pos rfl)
      have later := fun position => ih (fun other member => fits other (List.mem_cons_of_mem _ member))
        lastLater unmarkedTail position
      rw [substitute_append_of_absent _ _ (Invocation.behind?_of_unmarked unmarked _),
        substitute_of_headed _ _ headed read, map_eq_pure_bind, bind_assoc,
        bind_of_ok (evaluates slot.name fitting.known terminated), bind_assoc, bind_of_ok (later _)]
      simp only [List.flatMap_cons, filled, List.append_assoc]
      rfl

theorem find?_set_slots (isName : ∀ name ∈ parameters, name.IsName)
    (notSet : "set".toList ∉ parameters) (fits : ∀ slot ∈ slots, slot.Fits parameters)
    (last : ∀ slot ∈ slots.getLast?, slot.text = [] ∨ slot.text.dropWhile isGapChar ≠ [])
    {front : Text} (unmarked : '¤' ∉ front) :
    Invocation.find? Marker.standard.text (some "set".toList)
      (front ++ slots.flatMap Slot.written) = none := by
  induction slots generalizing front with
  | nil =>
      rw [List.flatMap_nil, List.append_nil]
      exact Invocation.find?_none_of_unmarked unmarked _
  | cons slot slots ih =>
      have fitting := fits slot List.mem_cons_self
      have named := isName slot.name fitting.known
      obtain ⟨stops, lastLater⟩ := last_of_cons last
      have other : slot.name ≠ "set".toList := fun same => notSet (same ▸ fitting.known)
      have inside : '¤' ∉ slot.name ++ slot.text := by
        rw [List.mem_append, not_or]
        exact ⟨named.unmarked, fitting.unmarked⟩
      have later := ih (fun other member => fits other (List.mem_cons_of_mem _ member)) lastLater
        inside
      rw [List.append_assoc] at later
      rw [List.flatMap_cons, Slot.written, List.cons_append, List.append_assoc,
        Invocation.find?_append (Invocation.behind?_of_unmarked unmarked _),
        named.find?_set_of_other other (stopsReference_of_fits fitting stops).noName later,
        Option.map_none]

end Filling

/-! Binding the parameters -/

section Binding

variable {parameters arguments : List Text} {name : Text}

theorem get?_zip (known : name ∈ parameters) (arguments : List Text) :
    Table.get? name (parameters.zip arguments) = arguments[parameters.idxOf name]? := by
  induction parameters generalizing arguments with
  | nil => cases known
  | cons parameter parameters ih =>
      cases arguments with
      | nil => rfl
      | cons argument arguments =>
          by_cases same : parameter = name
          · simp [Table.get?, same]
          · have later := ih ((List.mem_cons.mp known).resolve_left (Ne.symm same)) arguments
            simp [Table.get?, same, List.idxOf_cons_ne _ same, later]

-- No entry is overridden by a later one.
theorem get?_foldl_zip (distinct : parameters.Nodup) (name : Text) (arguments : List Text)
    (table : Scope) :
    Table.get? name ((parameters.zip arguments).foldl (fun t e => Table.put e.1 e.2 t) table) =
      (Table.get? name (parameters.zip arguments)).or (table.get? name) := by
  induction parameters generalizing arguments table with
  | nil => rfl
  | cons parameter parameters ih =>
      cases arguments with
      | nil => rfl
      | cons argument arguments =>
          obtain ⟨absent, later⟩ := List.nodup_cons.mp distinct
          rw [List.zip_cons_cons, List.foldl_cons, ih later]
          by_cases same : parameter = name
          · have none : Table.get? name (parameters.zip arguments) = none := by
              rw [Option.eq_none_iff_forall_ne_some]
              intro value found
              exact absent (same ▸ (List.of_mem_zip (Table.mem_of_get? found)).1)
            rw [none, Option.none_or, ← same, Table.get?_put_self]
            simp [Table.get?]
          · rw [Table.get?_put_other _ _ (Ne.symm same)]
            simp [Table.get?, same]

theorem get?_parameters (distinct : parameters.Nodup) (known : name ∈ parameters)
    (arguments : List Text) :
    Table.get? name (Table.ofEntries (parameters.zip arguments)) =
      arguments[parameters.idxOf name]? := by
  rw [Table.ofEntries, get?_foldl_zip distinct, get?_zip known]
  exact Option.or_none

theorem mem_drop_of_unbound (known : name ∈ parameters)
    (unbound : arguments[parameters.idxOf name]? = none) :
    name ∈ parameters.drop arguments.length := by
  have short := List.getElem?_eq_none_iff.mp unbound
  have inside := List.idxOf_lt_length_of_mem known
  have place : arguments.length + (parameters.idxOf name - arguments.length) =
      parameters.idxOf name := by
    omega
  rw [List.mem_drop_iff_getElem]
  refine ⟨parameters.idxOf name - arguments.length, by omega, ?_⟩
  simp only [place, List.getElem_idxOf]

end Binding

/-! One reference -/

section Reference

variable {settings : Settings} {functions : Table Function} {scope : Scope} {name : Text}
  (expand : Scope → Text → Expansion Text) (terminated : Bool)

/-- A bound parameter stands for its argument, whatever else it is the name of. -/
theorem invoke_bound {value : Text} (standard : settings.marker = .standard)
    (bound : scope.get? name = some value) (unmarked : '¤' ∉ value) :
    invoke settings functions expand scope ⟨name, [], terminated⟩ =
      pure (terminate terminated value) := by
  have resolved : resolve settings functions expand scope name [] = pure ⟨value, false⟩ := by
    simp only [resolve, bound]
  rw [invoke, prepare_reference, pure_bind, resolved, pure_bind,
    settle_of_unmarked standard expand scope unmarked, pure_bind]

theorem invoke_unknown {memory : Memory} (standard : settings.marker = .standard)
    (unbound : scope.get? name = none) (noFunction : functions.get? name = none)
    (noVariable : memory.globals.get? name = none)
    (noMacro : memory.definitions.get? name = none) :
    invoke settings functions expand scope ⟨name, [], terminated⟩ memory =
      .ok (terminate terminated []) memory := by
  have resolved : resolve settings functions expand scope name [] memory =
      .ok ⟨[], settings.isRaw name⟩ memory := by
    simp only [resolve, unbound, noFunction, get_bind, noVariable, noMacro]
    rfl
  rw [invoke, prepare_reference, pure_bind, bind_of_ok resolved,
    settle_of_unmarked standard expand scope List.not_mem_nil, pure_bind]
  rfl

end Reference

namespace Expander

variable {expander : Expander} {definition : Definition} {arguments : List Text}

theorem invoke_parameter {name : Text} (standard : expander.settings.marker = .standard)
    (distinct : definition.parameters.Nodup) (unmarked : ∀ argument ∈ arguments, '¤' ∉ argument)
    (free : ∀ name ∈ definition.parameters.drop arguments.length,
      expander.functions.get? name = none ∧ expander.memory.globals.get? name = none ∧
        expander.memory.definitions.get? name = none)
    (known : name ∈ definition.parameters) (expand : Scope → Text → Expansion Text)
    (terminated : Bool) :
    invoke expander.settings expander.functions expand
        (Table.ofEntries (definition.parameters.zip arguments)) ⟨name, [], terminated⟩
        expander.memory =
      .ok (terminate terminated (definition.argument arguments name)) expander.memory := by
  have bound := get?_parameters distinct known arguments
  rw [Definition.argument]
  cases given : arguments[definition.parameters.idxOf name]? with
  | some argument =>
      rw [invoke_bound expand terminated standard (bound.trans given)
        (unmarked argument (List.mem_of_getElem? given))]
      rfl
  | none =>
      obtain ⟨noFunction, noVariable, noMacro⟩ := free name (mem_drop_of_unbound known given)
      exact invoke_unknown expand terminated standard (bound.trans given) noFunction noVariable noMacro

/-- Applying a macro to arguments without a marker fills the slots of its body and does nothing
else, with any number of levels left. -/
theorem expandBody_filled (expander : Expander) (definition : Definition) (arguments : List Text)
    (template : Template) (standard : expander.settings.marker = .standard)
    (distinct : definition.parameters.Nodup) (isName : ∀ name ∈ definition.parameters, name.IsName)
    (notSet : "set".toList ∉ definition.parameters) (body : definition.body = template.body)
    (fits : template.Fits definition.parameters)
    (unmarked : ∀ argument ∈ arguments, '¤' ∉ argument)
    (free : ∀ name ∈ definition.parameters.drop arguments.length,
      expander.functions.get? name = none ∧ expander.memory.globals.get? name = none ∧
        expander.memory.definitions.get? name = none) :
    (∀ levels, Function.expandBody
        (expandAt expander.settings expander.functions (levels + 1)) definition arguments
        expander.memory =
          .ok (template.filled (definition.argument arguments)) expander.memory) ∧
      (0 < expander.settings.depthLimit →
        expander.perform (.expandBody definition arguments) =
          (.ok (.text (template.filled (definition.argument arguments))), expander)) := by
  have filled : ∀ levels, Function.expandBody
      (expandAt expander.settings expander.functions (levels + 1)) definition arguments
      expander.memory = .ok (template.filled (definition.argument arguments)) expander.memory := by
    intro levels
    have absent := find?_set_slots isName notSet fits.slots fits.last fits.lead
    simp only [Function.expandBody, expandAt, expandPasses, standard, body, Template.body]
    rw [substitute_of_absent _ _ absent, pure_bind]
    exact substitute_slots isName
      (fun name known => invoke_parameter standard distinct unmarked free known _)
      fits.slots fits.last fits.lead 0
  refine ⟨filled, fun room => ?_⟩
  obtain ⟨levels, enough⟩ : ∃ levels, expander.settings.depthLimit.toNat = levels + 1 :=
    ⟨expander.settings.depthLimit.toNat - 1, by omega⟩
  have returned : Function.expandBody expander.expandIn definition arguments expander.memory =
      .ok (template.filled (definition.argument arguments)) expander.memory := by
    rw [expandIn, enough]
    exact filled levels
  have performed : expander.perform (.expandBody definition arguments) =
      expander.run (.text <$> Function.expandBody expander.expandIn definition arguments) := rfl
  simp only [performed, run, EStateM.run, Functor.map, EStateM.map, returned]

/-- Three parameters, of which one is the name of a function and one that of a variable. -/
def shadowingDefinition : Definition where
  name := "pair".toList
  parameters := ["echo".toList, "v".toList, "rest".toList]
  body := "[¤echo; ¤v\t;¤v;]¤rest; end".toList

def shadowingTemplate : Template where
  lead := "[".toList
  slots := [⟨"echo".toList, "; ".toList⟩, ⟨"v".toList, "\t;".toList⟩, ⟨"v".toList, ";]".toList⟩,
    ⟨"rest".toList, "; end".toList⟩]

def shadowed : Expander := (new .css .standard).setVariable "v".toList "¤loop".toList

theorem expandBody_filled_shadowed :
    shadowed.perform (.expandBody shadowingDefinition ["a(".toList, "b;".toList]) =
      (.ok (.text "[a(; b;\t;b;] end".toList), shadowed) := by
  have isName : ∀ name ∈ shadowingDefinition.parameters, name.IsName := by decide
  have fits : shadowingTemplate.Fits shadowingDefinition.parameters := by
    refine ⟨by decide, by decide, ?_⟩
    intro slot last
    obtain rfl : ⟨"rest".toList, "; end".toList⟩ = slot := Option.some.inj last
    exact .inr (by decide)
  have filled : shadowingTemplate.filled
      (shadowingDefinition.argument ["a(".toList, "b;".toList]) = "[a(; b;\t;b;] end".toList := by
    decide
  rw [← filled]
  refine (expandBody_filled shadowed shadowingDefinition ["a(".toList, "b;".toList]
    shadowingTemplate rfl (by decide) isName (by decide) (by decide) fits (by decide) ?_).2
      (by decide)
  intro name member
  obtain rfl := List.mem_singleton.mp member
  exact ⟨rfl, rfl, rfl⟩

end Expander

end Stylesheet
