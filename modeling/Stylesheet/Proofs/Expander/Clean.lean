import Stylesheet.Proofs.Expander.Contract
import Stylesheet.Proofs.Invocation.Clean

/-!
Clean documents expand to texts without a marker. Clean variables and macro bodies stay clean
whether expansion returns or fails, every text that expansion takes apart or stores is clean, and
what it puts into the document holds no marker any more. The one way round this is a variable named
`quote`, whose text goes into the document as it is.
-/

namespace Stylesheet

/-- Every text that waits in the memory to be expanded is clean. -/
structure Memory.Clean (memory : Memory) : Prop where
  globals : ∀ entry ∈ memory.globals, entry.2.Clean
  bodies : ∀ entry ∈ memory.definitions, entry.2.body.Clean

def Memory.LacksQuote (memory : Memory) : Prop := memory.globals.get? "quote".toList = none

/-- Clean memories stay clean, and a variable named `quote` does not go away. -/
def tidying : Change where
  allows first second := (first.Clean → second.Clean) ∧ (second.LacksQuote → first.LacksQuote)
  refl _ := ⟨id, id⟩
  trans early late := ⟨late.1 ∘ early.1, early.2 ∘ late.2⟩

/-- A text that is done: it is clean, and without a variable named `quote` it holds no marker. -/
def Spent (text : Text) (memory : Memory) : Prop :=
  text.Clean ∧ (memory.LacksQuote → '¤' ∉ text)

/-- From clean memories the computation leaves clean ones, and what it returns is as stated. -/
def Tidy {α : Type} (after : α → Memory → Prop) (action : Expansion α) : Prop :=
  Meets tidying Memory.Clean (fun value memory => memory.Clean ∧ after value memory) action

def Scope.Clean (scope : Scope) : Prop := ∀ entry ∈ scope, entry.2.Clean

theorem keeps_clean : tidying.Keeps Memory.Clean := fun allowed clean => allowed.1 clean

theorem keeps_spent (text : Text) : tidying.Keeps (Spent text) :=
  fun allowed spent => ⟨spent.1, spent.2 ∘ allowed.2⟩

theorem spent_of_unmarked {text : Text} (unmarked : '¤' ∉ text) (memory : Memory) :
    Spent text memory :=
  ⟨Text.clean_of_unmarked unmarked, fun _ => unmarked⟩

theorem spent_append {left right : Text} {memory : Memory} (first : Spent left memory)
    (second : Spent right memory) : Spent (left ++ right) memory := by
  refine ⟨Text.clean_append first.1 second.1, fun lacks member => ?_⟩
  rcases List.mem_append.mp member with early | late
  · exact first.2 lacks early
  · exact second.2 lacks late

theorem spent_terminate {terminated : Bool} {text : Text} {memory : Memory}
    (spent : Spent text memory) : Spent (terminate terminated text) memory := by
  unfold terminate
  split
  · exact spent_append spent (spent_of_unmarked (by decide) memory)
  · exact spent

theorem holds_standard_iff {text : Text} :
    Text.holds Marker.standard.text text = true ↔ '¤' ∈ text := by
  induction text with
  | nil => simp [Text.holds, Marker.standard, Text.after?]
  | cons c text ih =>
      simp only [Marker.standard] at ih
      simp [Text.holds, Marker.standard, Text.after?, ih]

section Rules

variable {α : Type}

theorem tidy_pure {after : α → Memory → Prop} (value : α)
    (holds : ∀ memory : Memory, memory.Clean → after value memory) : Tidy after (pure value) :=
  meets_pure value fun memory clean => ⟨clean, holds memory clean⟩

theorem tidy_throw {after : α → Memory → Prop} (error : Error) : Tidy after (throw error) :=
  meets_throw error

theorem tidy_weaken {stronger after : α → Memory → Prop} {action : Expansion α}
    (tidy : Tidy stronger action)
    (implies : ∀ value memory, stronger value memory → after value memory) : Tidy after action :=
  meets_weaken tidy (fun _ clean => clean) fun value memory ends =>
    ⟨ends.1, implies value memory ends.2⟩

theorem tidy_bind {β : Type} {fact : α → Prop} {after : β → Memory → Prop} {first : Expansion α}
    {next : α → Expansion β} (head : Tidy (fun value _ => fact value) first)
    (tail : ∀ value, fact value → Tidy after (next value)) : Tidy after (first >>= next) :=
  meets_bind head fun value => meets_given (tail value)

theorem tidy_get_bind {after : α → Memory → Prop} {next : Memory → Expansion α}
    (tail : ∀ memory : Memory, memory.Clean → Tidy after (next memory)) :
    Tidy after (EStateM.get >>= next) :=
  meets_get_bind fun memory clean =>
    meets_weaken (tail memory clean) (fun _ same => same ▸ clean) fun _ _ ends => ends

theorem tidy_modify (write : Memory → Memory)
    (kept : ∀ memory : Memory, memory.Clean → (write memory).Clean)
    (lacks : ∀ memory, (write memory).LacksQuote → memory.LacksQuote) :
    Tidy (fun _ _ => True) (modify write) :=
  meets_modify write (fun memory _ => ⟨kept memory, lacks memory⟩) fun memory clean =>
    ⟨kept memory clean, trivial⟩

/-- What holds of each value of a row, and is never taken back, holds of all of them. -/
theorem tidy_mapM {β : Type} {after : β → Memory → Prop} {action : α → Expansion β}
    (items : List α) (kept : ∀ value, tidying.Keeps (after value))
    (each : ∀ item ∈ items, Tidy after (action item)) :
    Tidy (fun values memory => ∀ value ∈ values, after value memory) (items.mapM action) := by
  have row := meets_mapM items keeps_clean kept fun item member =>
    meets_weaken (each item member) (fun _ clean => clean) fun _ _ ends => ends.2
  exact meets_weaken (meets_frame keeps_clean row) (fun _ clean => ⟨clean, clean⟩)
    fun _ _ ends => ⟨ends.2, ends.1⟩

end Rules

/-! What the functions write is clean. -/

theorem clean_setVariable {memory : Memory} (name : Text) {value : Text} (clean : memory.Clean)
    (written : value.Clean) : (memory.setVariable name value).Clean := by
  refine ⟨fun entry member => ?_, clean.bodies⟩
  rcases Table.mem_put member with rfl | old
  · exact written
  · exact clean.globals entry old

theorem lacksQuote_of_setVariable {memory : Memory} {name value : Text}
    (lacks : (memory.setVariable name value).LacksQuote) : memory.LacksQuote := by
  unfold Memory.LacksQuote Memory.setVariable at *
  by_cases same : "quote".toList = name
  · rw [← same, Table.get?_put_self] at lacks
    cases lacks
  · rwa [Table.get?_put_other _ _ same] at lacks

theorem clean_define {memory : Memory} {definition : Definition} (clean : memory.Clean)
    (written : definition.body.Clean) : (memory.define definition).Clean := by
  refine ⟨clean.globals, fun entry member => ?_⟩
  rcases Table.mem_put member with rfl | old
  · exact written
  · exact clean.bodies entry old

theorem unmarked_toDigits {base : Nat} (least : 1 < base) (most : base ≤ 16) (n : Nat) :
    '¤' ∉ Nat.toDigits base n := by
  have digit : ∀ m < 16, Nat.digitChar m ≠ '¤' := by decide
  induction n using Nat.strongRecOn with
  | ind n ih =>
      rw [Nat.toDigits_eq_if least]
      split
      · next small =>
        have apart := digit n (by omega)
        simp [Ne.symm apart]
      · next large =>
        have shorter : n / base < n := Nat.div_lt_self (by omega) least
        have below : n % base < 16 := by
          have := Nat.mod_lt n (by omega : base > 0)
          omega
        simp [ih (n / base) shorter, Ne.symm (digit (n % base) below)]

theorem unmarked_print (color : Color) : '¤' ∉ color.print := by
  have channel : ∀ width n, '¤' ∉ Text.hexDigits width n := by
    intro width n
    simp [Text.hexDigits, unmarked_toDigits (by decide : 1 < 16) (by decide) n]
  unfold Color.print
  by_cases solid : color.alpha = 255
  · simp [solid, channel]
  · simp [solid, channel]

theorem clean_foreachLoop {temporary counter item array code : Text} (first : temporary.Clean)
    (second : counter.Clean) (third : item.Clean) (fourth : array.Clean) (fifth : code.Clean) :
    (foreachLoop temporary counter item array code).Clean := by
  unfold foreachLoop
  repeat' apply Text.clean_append
  all_goals first | assumption | exact Text.clean_of_unmarked (by decide)

/-! The functions. Those that write are the raw ones, and they return nothing. -/

theorem tidy_runGet (arguments : List Text) :
    Tidy (fun text _ => text.Clean) (Function.runGet arguments) := by
  rcases arguments with _ | ⟨name, _ | ⟨second, more⟩⟩
  · exact tidy_throw _
  · apply tidy_get_bind
    intro memory clean
    apply tidy_pure
    intro _ _
    cases found : memory.globals.get? name with
    | none => exact Text.clean_nil
    | some value => exact clean.globals _ (Table.mem_of_get? found)
  · exact tidy_throw _

theorem tidy_runSet {arguments : List Text} (clean : ∀ argument ∈ arguments, argument.Clean) :
    Tidy (fun text _ => text = []) (Function.runSet arguments) := by
  rcases arguments with _ | ⟨name, _ | ⟨value, _ | ⟨third, more⟩⟩⟩
  · exact tidy_throw _
  · exact tidy_throw _
  · have written : value.Clean := clean value (by simp)
    apply tidy_bind (tidy_modify (Memory.setVariable name value)
      (fun _ valid => clean_setVariable name valid written) fun _ => lacksQuote_of_setVariable)
    intro _ _
    exact tidy_pure [] fun _ _ => rfl
  · exact tidy_throw _

theorem tidy_runDefine {arguments : List Text} (clean : ∀ argument ∈ arguments, argument.Clean) :
    Tidy (fun text _ => text = []) (Function.runDefine arguments) := by
  rcases arguments with _ | ⟨name, _ | ⟨second, more⟩⟩
  · exact tidy_throw _
  · exact tidy_throw _
  · have written : ((second :: more).getLast (by simp)).Clean :=
      clean _ (List.mem_cons_of_mem name (List.getLast_mem _))
    apply tidy_bind (tidy_modify (Memory.define _)
      (fun _ valid => clean_define valid written) fun _ lacks => lacks)
    intro _ _
    exact tidy_pure [] fun _ _ => rfl

theorem tidy_runPrefixed {settings : Settings} {arguments : List Text}
    (prefixes : ∀ vendor ∈ settings.vendorPrefixes, vendor.Clean)
    (clean : ∀ argument ∈ arguments, argument.Clean) :
    Tidy (fun text _ => text.Clean) (Function.runPrefixed settings arguments) := by
  cases arguments with
  | nil => exact tidy_throw _
  | cons first more =>
      apply tidy_pure
      intro _ _
      rw [List.flatMap_def]
      apply Text.clean_flatten
      intro piece member
      obtain ⟨vendor, listed, rfl⟩ := List.mem_map.mp member
      apply Text.clean_append
      · apply Text.clean_append (prefixes vendor listed)
        exact Text.clean_intercalate (Text.clean_of_unmarked (by decide)) clean
      · exact Text.clean_of_unmarked (by decide)

theorem tidy_runAdjust (adjustment : Adjustment) (arguments : List Text) :
    Tidy (fun text _ => text.Clean) (Function.runAdjust adjustment arguments) := by
  have literal : ∀ {α : Type} (read : Except LiteralError α),
      Tidy (fun _ _ => True) (Function.readLiteral read) := by
    intro α read
    cases read with
    | ok value => exact tidy_pure value fun _ _ => trivial
    | error error => exact tidy_throw _
  rcases arguments with _ | ⟨color, _ | ⟨amount, _ | ⟨third, more⟩⟩⟩
  · exact tidy_throw _
  · exact tidy_throw _
  · apply tidy_bind (literal _)
    intro base _
    apply tidy_bind (literal _)
    intro distance _
    exact tidy_pure _ fun _ _ => Text.clean_of_unmarked (unmarked_print _)
  · exact tidy_throw _

theorem tidy_freshName {stem : Text} (unmarked : '¤' ∉ stem) :
    Tidy (fun text _ => text.Clean) (Function.freshName stem) := by
  apply tidy_bind (tidy_modify Memory.countName
    (fun _ valid => ⟨valid.globals, valid.bodies⟩) fun _ lacks => lacks)
  intro _ _
  apply tidy_get_bind
  intro memory _
  apply tidy_pure
  intro _ _
  have digits := unmarked_toDigits (by decide : 1 < 10) (by decide) memory.generated
  exact Text.clean_of_unmarked (by simp [Text.ofNat, unmarked, digits])

theorem clean_takeWhile_semicolon {text : Text} (clean : text.Clean) :
    Text.Clean (text.takeWhile (· != ';')) := by
  have whole := List.takeWhile_append_dropWhile (p := (· != ';')) (l := text)
  cases shape : text.dropWhile (· != ';') with
  | nil =>
      rw [shape, List.append_nil] at whole
      rwa [whole]
  | cons c rest =>
      have stops : c = ';' := by
        have := List.head?_dropWhile_not (· != ';') text
        simpa [shape] using this
      rw [shape, stops] at whole
      rw [← whole] at clean
      exact Text.clean_before clean (by decide)

theorem tidy_runForeach {arguments : List Text} (clean : ∀ argument ∈ arguments, argument.Clean) :
    Tidy (fun text _ => text.Clean) (Function.runForeach arguments) := by
  rcases arguments with _ | ⟨first, _ | ⟨second, more⟩⟩
  · exact tidy_throw _
  · exact tidy_throw _
  · have code : ((first :: second :: more).getLast (by simp)).Clean :=
      clean _ (List.getLast_mem _)
    have head : Text.Clean (List.intercalate [',', ' '] (first :: second :: more).dropLast) :=
      Text.clean_intercalate (Text.clean_of_unmarked (by decide)) fun argument member =>
        clean argument (List.dropLast_subset _ member)
    simp only [Function.runForeach]
    split
    · exact tidy_throw _
    · next separator array shape =>
      have behind : Text.Clean (separator :: array) := by
        rw [← shape]
        exact Text.clean_of_suffix (List.dropWhile_suffix _) head
      apply tidy_bind (tidy_freshName (by decide))
      intro counter counted
      apply tidy_bind (tidy_freshName (by decide))
      intro temporary stored
      apply tidy_bind (tidy_modify (Memory.record _)
        (fun _ valid => ⟨valid.globals, valid.bodies⟩) fun _ lacks => lacks)
      intro _ _
      apply tidy_pure
      intro _ _
      apply clean_foreachLoop stored counted _ _ code
      · exact Text.clean_trim (clean_takeWhile_semicolon head)
      · exact Text.clean_trim ((Text.clean_cons_iff separator array).mp behind).2

/-! The evaluator. `expand` expands the texts one level down. -/

/-- The standard settings with another depth limit. -/
def Settings.limited (limit : Int) : Settings := { Settings.standard with depthLimit := limit }

theorem isRaw_limited_iff (limit : Int) (name : Text) :
    (Settings.limited limit).isRaw name = true ↔
      name = "define".toList ∨ name = "quote".toList ∨ name = "set".toList := by
  simp [Settings.isRaw, Settings.limited, Settings.standard]

/-- The functions of a dialect that take raw arguments are the two that write. -/
theorem function_of_raw {dialect : Dialect} {limit : Int} {name : Text} {function : Function}
    (raw : (Settings.limited limit).isRaw name = true)
    (found : dialect.functions.get? name = some function) :
    function = .define ∨ function = .set := by
  rcases (isRaw_limited_iff limit name).mp raw with rfl | rfl | rfl
  · cases dialect <;> exact .inl (Option.some.inj found).symm
  · cases dialect <;> cases found
  · cases dialect <;> exact .inr (Option.some.inj found).symm

theorem builtin_of_dialect {dialect : Dialect} {name : Text} {function : Function}
    (found : dialect.functions.get? name = some function)
    (run : List Text → Except Error Text) : function ≠ .host run := by
  have member := Table.mem_of_get? found
  rintro rfl
  cases dialect <;> simp [Dialect.functions, Dialect.common, Adjustment.all] at member

/-- A raw name that is a variable and no function is `quote`. -/
theorem not_lacksQuote_of_raw {dialect : Dialect} {limit : Int} {name value : Text}
    {memory : Memory} (raw : (Settings.limited limit).isRaw name = true)
    (noFunction : dialect.functions.get? name = none)
    (found : memory.globals.get? name = some value) : ¬memory.LacksQuote := by
  intro lacks
  rcases (isRaw_limited_iff limit name).mp raw with rfl | rfl | rfl
  · cases dialect <;> cases noFunction
  · cases lacks.symm.trans found
  · cases dialect <;> cases noFunction

section Evaluator

variable {limit : Int} {dialect : Dialect} {expand : Scope → Text → Expansion Text}
  (inner : ∀ scope text, Scope.Clean scope → text.Clean → Tidy Spent (expand scope text))

include inner

theorem tidy_expandBody {definition : Definition} {arguments : List Text}
    (body : definition.body.Clean) (clean : ∀ argument ∈ arguments, argument.Clean) :
    Tidy Spent (Function.expandBody expand definition arguments) := by
  apply inner _ _ _ body
  intro entry member
  exact clean _ (List.of_mem_zip (Table.mem_of_mem_ofEntries member)).2

theorem tidy_runLoop {arguments : List Text} (clean : ∀ argument ∈ arguments, argument.Clean) :
    Tidy (fun text _ => text.Clean) (Function.runLoop expand arguments) := by
  rcases arguments with _ | ⟨name, _ | ⟨second, more⟩⟩
  · exact tidy_throw _
  · exact tidy_throw _
  · apply tidy_get_bind
    intro memory valid
    cases found : memory.definitions.get? name with
    | none => exact tidy_throw _
    | some definition =>
        have body := valid.bodies _ (Table.mem_of_get? found)
        have rows : ∀ row ∈ chunks definition.parameters.length (second :: more),
            Tidy Spent (Function.expandBody expand definition row) := by
          intro row listed
          apply tidy_expandBody inner body
          intro argument member
          have among := List.mem_flatten_of_mem listed member
          rw [flatten_chunks] at among
          exact clean argument (List.mem_cons_of_mem name among)
        apply meets_bind (tidy_mapM _ keeps_spent rows)
        intro texts memory ends
        refine ⟨tidying.refl memory, ends.1, ?_⟩
        exact Text.clean_flatten fun text member => (ends.2 text member).1

theorem tidy_call {function : Function} {arguments : List Text}
    (builtin : ∀ run, function ≠ .host run) (clean : ∀ argument ∈ arguments, argument.Clean) :
    Tidy (fun text _ => text.Clean)
      (function.call (Settings.limited limit) expand arguments) := by
  have nothing : ∀ {action : Expansion Text}, Tidy (fun text _ => text = []) action →
      Tidy (fun text _ => text.Clean) action := fun tidy =>
    tidy_weaken tidy fun text _ empty => by subst empty; exact Text.clean_nil
  cases function with
  | get => exact tidy_runGet arguments
  | set => exact nothing (tidy_runSet clean)
  | define => exact nothing (tidy_runDefine clean)
  | loop => exact tidy_runLoop inner clean
  | echo =>
      apply tidy_pure
      intro _ _
      exact Text.clean_intercalate (Text.clean_of_unmarked (by decide)) clean
  | prefixed =>
      apply tidy_runPrefixed _ clean
      intro vendor member
      apply Text.clean_of_unmarked
      simp only [Settings.limited, Settings.standard, List.mem_cons, List.not_mem_nil,
        or_false] at member
      rcases member with rfl | rfl | rfl | rfl | rfl | rfl <;> decide
  | adjust adjustment => exact tidy_runAdjust adjustment arguments
  | foreach => exact tidy_runForeach clean
  | host run => exact absurd rfl (builtin run)

/-- A name stands for a clean text, and for one that is done where it is not expanded again. -/
theorem tidy_resolve {scope : Scope} {name : Text} {arguments : List Text} (bound : scope.Clean)
    (clean : ∀ argument ∈ arguments, argument.Clean) :
    Tidy (fun resolved memory => resolved.text.Clean ∧
        (resolved.settled = true → Spent resolved.text memory))
      (resolve (Settings.limited limit) dialect.functions expand scope name arguments) := by
  unfold resolve
  cases parameter : scope.get? name with
  | some value =>
      exact tidy_pure _ fun _ _ => ⟨bound _ (Table.mem_of_get? parameter), nofun⟩
  | none =>
      cases known : dialect.functions.get? name with
      | some function =>
          cases raw : (Settings.limited limit).isRaw name with
          | false =>
              apply tidy_bind (tidy_call inner (builtin_of_dialect known) clean)
              intro text written
              exact tidy_pure _ fun _ _ => ⟨written, nofun⟩
          | true =>
              have empty : Tidy (fun text _ => text = [])
                  (function.call (Settings.limited limit) expand arguments) := by
                rcases function_of_raw raw known with rfl | rfl
                · exact tidy_runDefine clean
                · exact tidy_runSet clean
              apply tidy_bind empty
              rintro _ rfl
              apply tidy_pure
              intro memory _
              exact ⟨Text.clean_nil, fun _ => spent_of_unmarked List.not_mem_nil memory⟩
      | none =>
          apply meets_get_bind
          intro memory valid
          cases stored : memory.globals.get? name with
          | some value =>
              have waits := valid.globals _ (Table.mem_of_get? stored)
              apply meets_pure
              rintro _ rfl
              refine ⟨valid, waits, fun raw => ⟨waits, fun lacks => ?_⟩⟩
              have isRaw : (Settings.limited limit).isRaw name = true := raw
              exact absurd lacks (not_lacksQuote_of_raw isRaw known stored)
          | none =>
              apply meets_weaken _ (fun _ same => same ▸ valid) fun _ _ ends => ends
              cases called : memory.definitions.get? name with
              | some definition =>
                  have body := valid.bodies _ (Table.mem_of_get? called)
                  apply meets_bind (tidy_expandBody inner body clean)
                  exact fun text => meets_pure _ fun _ ends => ⟨ends.1, ends.2.1, fun _ => ends.2⟩
              | none =>
                  apply tidy_pure
                  intro now _
                  exact ⟨Text.clean_nil, fun _ => spent_of_unmarked List.not_mem_nil now⟩

theorem tidy_prepare {scope : Scope} {invocation : Invocation} (bound : scope.Clean)
    (clean : ∀ argument ∈ invocation.arguments, argument.Clean) :
    Tidy (fun arguments _ => ∀ argument ∈ arguments, argument.Clean)
      (prepare (Settings.limited limit) expand scope invocation) := by
  have bare : ∀ argument ∈ invocation.arguments.map bareArgument, argument.Clean := by
    intro argument member
    obtain ⟨source, listed, rfl⟩ := List.mem_map.mp member
    exact clean_bareArgument (clean source listed)
  unfold prepare
  cases (Settings.limited limit).isRaw invocation.name with
  | true => exact tidy_pure _ fun _ _ => bare
  | false =>
      apply tidy_weaken (tidy_mapM _ keeps_spent fun argument member =>
        inner scope argument bound (bare argument member))
      exact fun arguments memory spent argument member => (spent argument member).1

/-- Text that is not done is expanded as long as it holds a marker. -/
theorem tidy_settle {scope : Scope} {resolved : Resolved} (bound : scope.Clean) :
    Meets tidying
      (fun memory => memory.Clean ∧ resolved.text.Clean ∧
        (resolved.settled = true → Spent resolved.text memory))
      (fun value memory => memory.Clean ∧ Spent value memory)
      (settle (Settings.limited limit) expand scope resolved) := by
  unfold settle
  cases settled : resolved.settled with
  | true => exact meets_pure _ fun memory valid => ⟨valid.1, valid.2.2 rfl⟩
  | false =>
      cases marked : Text.holds (Settings.limited limit).marker.text resolved.text with
      | false =>
          have unmarked : '¤' ∉ resolved.text := by
            intro member
            cases marked.symm.trans (holds_standard_iff.mpr member)
          exact meets_pure _ fun memory valid => ⟨valid.1, spent_of_unmarked unmarked memory⟩
      | true =>
          intro memory valid
          exact inner scope resolved.text bound valid.2.1 memory valid.1

theorem tidy_invoke {scope : Scope} {invocation : Invocation} (bound : scope.Clean)
    (clean : ∀ argument ∈ invocation.arguments, argument.Clean) :
    Tidy Spent (invoke (Settings.limited limit) dialect.functions expand scope invocation) := by
  apply tidy_bind (tidy_prepare inner bound clean)
  intro arguments prepared
  apply meets_bind (tidy_resolve inner bound prepared)
  intro resolved
  apply meets_bind (tidy_settle inner bound)
  intro value
  apply meets_pure
  exact fun memory ends => ⟨ends.1, spent_terminate ends.2⟩

end Evaluator

/-- One pass: clean texts stay clean, and a pass over all invocations leaves no marker. -/
theorem tidy_substitute (name : Option Text) {value : Invocation → Expansion Text}
    (values : ∀ invocation : Invocation, (∀ argument ∈ invocation.arguments, argument.Clean) →
      Tidy Spent (value invocation))
    (written : Nat) (text : Text) (clean : text.Clean) :
    Tidy (fun result memory => result.Clean ∧ (name = none → Spent result memory))
      (substitute Marker.standard name value written text) := by
  induction written, text using substitute.induct Marker.standard name with
  | case1 written text absent =>
      rw [substitute_of_absent _ _ absent]
      apply tidy_pure
      intro memory _
      refine ⟨clean, ?_⟩
      rintro rfl
      exact spent_of_unmarked (Invocation.unmarked_of_find?_none absent) memory
  | case2 written text before behind found start position error read =>
      rw [substitute_of_found _ _ found, read]
      exact tidy_throw _
  | case3 written text before behind found start position read ih =>
      -- Behind a marker of a clean text there is a name, so there is something to read.
      obtain ⟨c, rest, rfl, isName⟩ := clean before behind (Invocation.eq_of_find? found)
      exact absurd read (Invocation.read_ne_none isName)
  | case4 written text before behind found start position invocation rest read ih =>
      have whole := Invocation.eq_of_find? found
      rw [whole, List.append_assoc] at clean
      have front : before.Clean := Text.clean_before clean (by decide)
      have parts := Invocation.parts_read (Text.clean_of_append (Text.clean_of_append clean)) read
      rw [substitute_of_found _ _ found, read]
      apply meets_bind (values invocation parts.arguments)
      intro replacement
      apply meets_bind (meets_frame (keeps_spent replacement) (ih replacement parts.rest))
      intro later
      apply meets_pure
      rintro memory ⟨⟨valid, tail, rest⟩, put⟩
      refine ⟨valid, Text.clean_append (Text.clean_append front put.1) tail, ?_⟩
      rintro rfl
      have start := spent_of_unmarked (Invocation.unmarked_before_find? found) memory
      exact spent_append (spent_append start put) (rest rfl)

theorem tidy_expandAt (limit : Int) (dialect : Dialect) (levels : Nat) (scope : Scope)
    (text : Text) (bound : scope.Clean) (clean : text.Clean) :
    Tidy Spent (expandAt (Settings.limited limit) dialect.functions levels scope text) := by
  induction levels generalizing scope text with
  | zero => exact tidy_throw _
  | succ levels ih =>
      have values : ∀ invocation : Invocation,
          (∀ argument ∈ invocation.arguments, argument.Clean) →
          Tidy Spent (invoke (Settings.limited limit) dialect.functions
            (expandAt (Settings.limited limit) dialect.functions levels) scope invocation) :=
        fun invocation arguments => tidy_invoke ih bound arguments
      simp only [expandAt]
      apply tidy_bind (tidy_weaken (tidy_substitute (some "set".toList) values 0 text clean)
        fun _ _ ends => ends.1)
      intro assigned rewritten
      exact tidy_weaken (tidy_substitute none values 0 assigned rewritten) fun _ _ ends => ends.2 rfl

/-- A text without a marker is final, settled or not. -/
theorem settle_of_unmarked {settings : Settings} (standard : settings.marker = .standard)
    (expand : Scope → Text → Expansion Text) (scope : Scope) {text : Text} (unmarked : '¤' ∉ text)
    (settled : Bool) : settle settings expand scope ⟨text, settled⟩ = pure text := by
  have lacks : Text.holds settings.marker.text text = false := by
    rw [standard, Bool.eq_false_iff]
    exact fun holds => unmarked (holds_standard_iff.mp holds)
  simp only [settle, lacks, Bool.and_false, Bool.false_eq_true, if_false]

theorem expandAt_of_unmarked {settings : Settings} (standard : settings.marker = .standard)
    (functions : Table Function) (levels : Nat) (scope : Scope) {text : Text}
    (unmarked : '¤' ∉ text) : expandAt settings functions (levels + 1) scope text = pure text := by
  have absent : ∀ name, Invocation.find? settings.marker.text name text = none := by
    intro name
    rw [standard]
    exact Invocation.find?_none_of_unmarked unmarked name
  simp only [expandAt, expandPasses, substitute_of_absent _ _ (absent _), pure_bind]

-- A document without a marker expands to itself as soon as the limit leaves room for one level.
theorem perform_expand_of_unmarked (expander : Expander) {text : Text}
    (standard : expander.settings.marker = .standard) (room : 0 < expander.settings.depthLimit)
    (unmarked : '¤' ∉ text) : expander.perform (.expand text) = (.ok (.text text), expander) :=
  perform_expand_of_fixed room fun levels =>
    expandAt_of_unmarked standard expander.functions levels [] unmarked

/-- Whatever the outcome, a clean document leaves a clean memory. The text it expands to holds no
marker and is expanded to itself, unless there is a variable named `quote` in the end. -/
theorem expand_clean (dialect : Dialect) (limit : Int) (memory : Memory) (source : Text)
    (valid : memory.Clean) (clean : source.Clean) :
    let expander := { Expander.new dialect (Settings.limited limit) with memory }
    let performed := expander.perform (.expand source)
    performed.2.memory.Clean ∧
      ∀ out, performed.1 = .ok (.text out) → performed.2.memory.LacksQuote →
        '¤' ∉ out ∧ performed.2.perform (.expand out) = (.ok (.text out), performed.2) := by
  intro expander performed
  have tidy := tidy_expandAt limit dialect limit.toNat [] source
    (fun _ member => absurd member List.not_mem_nil) clean memory valid
  cases ended : expandAt (Settings.limited limit) dialect.functions limit.toNat [] source memory with
  | error error later =>
      have stopped : performed = (.error error, { expander with memory := later }) :=
        perform_expand_of_error ended
      rw [ended] at tidy
      rw [stopped]
      refine ⟨tidy.1 valid, ?_⟩
      intro out returned
      cases returned
  | ok text later =>
      have returns : performed = (.ok (.text text), { expander with memory := later }) :=
        perform_expand_of_ok ended
      rw [ended] at tidy
      rw [returns]
      refine ⟨tidy.2.1, ?_⟩
      intro out returned lacks
      obtain rfl : text = out := by simpa using returned
      have unmarked := tidy.2.2.2 lacks
      refine ⟨unmarked, ?_⟩
      -- The first run has returned, so the limit leaves room for one level.
      have room : 0 < limit := by
        rcases Int.lt_or_le 0 limit with positive | exhausted
        · exact positive
        · rw [Int.toNat_of_nonpos exhausted] at ended
          cases ended
      exact perform_expand_of_unmarked { expander with memory := later } rfl room unmarked

/-- A variable refers to one that only the document sets. -/
def forwardReference : Expander :=
  { Expander.new .plain (Settings.limited 3) with
    memory := ⟨[("v".toList, "1 ¤w".toList)], [], 0, []⟩ }

theorem expand_clean_forwardReference :
    (forwardReference.perform (.expand "¤set(w, 2)¤v;".toList)).1 = .ok (.text "1 2;".toList) ∧
    (forwardReference.perform (.expand "¤set(w, 2)¤v;".toList)).2.perform (.expand "1 2;".toList) =
      (.ok (.text "1 2;".toList),
        (forwardReference.perform (.expand "¤set(w, 2)¤v;".toList)).2) := by
  have valid : forwardReference.memory.Clean := ⟨by decide, by decide⟩
  have settled := expand_clean .plain 3 forwardReference.memory "¤set(w, 2)¤v;".toList valid
    (by decide)
  have returned : (forwardReference.perform (.expand "¤set(w, 2)¤v;".toList)).1 =
      .ok (.text "1 2;".toList) := by
    decide +kernel
  have lacks :
      (forwardReference.perform (.expand "¤set(w, 2)¤v;".toList)).2.memory.globals.get?
        "quote".toList = none := by
    decide +kernel
  exact ⟨returned, (settled.2 _ returned lacks).2⟩

end Stylesheet
