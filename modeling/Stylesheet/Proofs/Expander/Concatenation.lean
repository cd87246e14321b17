import Stylesheet.Proofs.Expander.Contract
import Stylesheet.Proofs.Expander.Pass
import Stylesheet.Proofs.Invocation.Clean
import Stylesheet.Proofs.Invocation.Seam

/-!
Expanding a document in two parts. A pass never looks back at what it has put in, and before a seam
it never looks ahead of it, so the parts expand one after the other from the memory that the first
one leaves. What the first part comes to is only a distance to the second: it moves the positions of
the errors that scanning the second part raises, and no others.
-/

namespace Stylesheet

/-- What ends an expansion early: an invocation in the text at hand that cannot be read, or an error
from elsewhere, such as the value of an invocation. -/
inductive Fault where
  | scanning (error : OpenError)
  | elsewhere (error : Error)

namespace Fault

def error : Fault → Error
  | scanning error => .openInvocation error
  | elsewhere error => error

/-- The same fault when the text at hand stands `offset` further on. -/
def moved (offset : Nat) : Fault → Fault
  | scanning error => scanning (error.moved offset)
  | elsewhere error => elsewhere error

end Fault

/-- What an ending comes to when faults are only told apart by their errors. -/
def outcome (later : Memory) : Except Fault Text → EStateM.Result Error Memory Text
  | .ok text => .ok text later
  | .error fault => .error fault.error later

/-- How a pass over a text ends, and what memory it leaves. -/
inductive PassEnds (marker : Marker) (name : Option Text) (value : Invocation → Expansion Text) :
    (written : Nat) → (text : Text) → Memory → Except Fault Text → (later : Memory) → Prop where
  | absent {written : Nat} {text : Text} {memory : Memory}
      (absent : Invocation.find? marker.text name text = none) :
      PassEnds marker name value written text memory (.ok text) memory
  | scanning {written : Nat} {text before behind : Text} {memory : Memory} {error : OpenError}
      (found : Invocation.find? marker.text name text = some (before, behind))
      (unread : Invocation.read (written + before.length + marker.text.length) behind =
        .error error) :
      PassEnds marker name value written text memory (.error (.scanning error)) memory
  | evaluating {written : Nat} {text before behind rest : Text} {memory later : Memory}
      {invocation : Invocation} {error : Error}
      (found : Invocation.find? marker.text name text = some (before, behind))
      (read : Invocation.read (written + before.length + marker.text.length) behind =
        .ok (some (invocation, rest)))
      (failed : value invocation memory = .error error later) :
      PassEnds marker name value written text memory (.error (.elsewhere error)) later
  | behindMarker {written : Nat} {text before behind : Text} {memory later : Memory}
      {ending : Except Fault Text}
      (found : Invocation.find? marker.text name text = some (before, behind))
      (plain : Invocation.read (written + before.length + marker.text.length) behind = .ok none) :
      PassEnds marker name value (written + before.length + marker.text.length) behind memory
        ending later →
      PassEnds marker name value written text memory
        (ending.map (before ++ marker.text ++ ·)) later
  | behindInvocation {written : Nat} {text before behind rest replacement : Text}
      {memory between later : Memory} {invocation : Invocation} {ending : Except Fault Text}
      (found : Invocation.find? marker.text name text = some (before, behind))
      (read : Invocation.read (written + before.length + marker.text.length) behind =
        .ok (some (invocation, rest)))
      (returned : value invocation memory = .ok replacement between) :
      PassEnds marker name value (written + before.length + replacement.length) rest between
        ending later →
      PassEnds marker name value written text memory
        (ending.map (before ++ replacement ++ ·)) later

section Pass

variable {marker : Marker} {name : Option Text} {value : Invocation → Expansion Text}
  {written : Nat} {text : Text} {memory later : Memory} {ending : Except Fault Text}

theorem bind_of_outcome {first : Expansion Text} (ended : first memory = outcome later ending)
    (write : Text → Text) :
    (first >>= fun text => pure (write text)) memory = outcome later (ending.map write) := by
  cases ending with
  | ok text => exact bind_of_ok ended
  | error fault => exact bind_of_error ended

theorem PassEnds.substitute_eq (ends : PassEnds marker name value written text memory ending later) :
    substitute marker name value written text memory = outcome later ending := by
  induction ends with
  | absent absent =>
      rw [substitute_of_absent _ _ absent]
      rfl
  | scanning found unread =>
      rw [substitute_of_found _ _ found, unread]
      rfl
  | evaluating found read failed =>
      rw [substitute_of_found _ _ found, read]
      exact bind_of_error failed
  | behindMarker found plain _ ih =>
      rw [substitute_of_found _ _ found, plain]
      exact bind_of_outcome ih _
  | behindInvocation found read returned _ ih =>
      rw [substitute_of_found _ _ found, read]
      exact (bind_of_ok returned).trans (bind_of_outcome ih _)

/-- Every pass ends in one of these ways. -/
theorem exists_passEnds (marker : Marker) (name : Option Text)
    (value : Invocation → Expansion Text) (written : Nat) (text : Text) (memory : Memory) :
    ∃ ending later, PassEnds marker name value written text memory ending later := by
  induction written, text using substitute.induct marker name generalizing memory with
  | case1 written text absent => exact ⟨_, _, .absent absent⟩
  | case2 written text before behind found start position unread read =>
      exact ⟨_, _, .scanning found read⟩
  | case3 written text before behind found start position plain ih =>
      obtain ⟨ending, later, ends⟩ := ih memory
      exact ⟨_, _, .behindMarker found plain ends⟩
  | case4 written text before behind found start position invocation rest read ih =>
      cases evaluated : value invocation memory with
      | error error later => exact ⟨_, _, .evaluating found read evaluated⟩
      | ok replacement between =>
          obtain ⟨ending, later, ends⟩ := ih replacement between
          exact ⟨_, _, .behindInvocation found read evaluated ends⟩

section Further

variable {before behind : Text} (offset : Nat)

theorem read_further :
    Invocation.read (written + offset + before.length + marker.text.length) behind =
      (Invocation.read (written + before.length + marker.text.length) behind).mapError
        (OpenError.moved offset) := by
  rw [← Invocation.read_moved]
  congr 1
  omega

theorem read_further_of_ok {reading : Option (Invocation × Text)}
    (read : Invocation.read (written + before.length + marker.text.length) behind = .ok reading) :
    Invocation.read (written + offset + before.length + marker.text.length) behind =
      .ok reading := by
  rw [read_further, read]
  rfl

theorem mapError_map_comm (ending : Except Fault Text) (move : Fault → Fault)
    (write : Text → Text) :
    (ending.map write).mapError move = (ending.mapError move).map write := by
  cases ending with
  | ok text => rfl
  | error fault => rfl

/-- A pass over a text that stands further on ends in the same way, and the positions it reports
are further on. -/
theorem PassEnds.further (ends : PassEnds marker name value written text memory ending later) :
    PassEnds marker name value (written + offset) text memory
      (ending.mapError (Fault.moved offset)) later := by
  induction ends with
  | absent absent => exact .absent absent
  | scanning found unread =>
      apply PassEnds.scanning found
      rw [read_further, unread]
      rfl
  | evaluating found read failed => exact .evaluating found (read_further_of_ok offset read) failed
  | behindMarker found plain _ ih =>
      rw [mapError_map_comm]
      refine .behindMarker found (read_further_of_ok offset plain) ?_
      convert ih using 1
      omega
  | behindInvocation found read returned _ ih =>
      rw [mapError_map_comm]
      refine .behindInvocation found (read_further_of_ok offset read) returned ?_
      convert ih using 1
      omega

end Further

end Pass

section Standard

variable {value : Invocation → Expansion Text} {written : Nat} {front back out : Text}
  {memory later : Memory}

theorem suffix_of_find? {marker : Marker} {name : Option Text} {text before behind : Text}
    (found : Invocation.find? marker.text name text = some (before, behind)) : behind <:+ text := by
  rw [Invocation.eq_of_find? found]
  exact List.suffix_append _ _

theorem find?_append_of_found {before behind : Text}
    (found : Invocation.find? Marker.standard.text none front = some (before, behind))
    (back : Text) :
    Invocation.find? Marker.standard.text none (front ++ back) =
      some (before, behind ++ back) := by
  have unmarked := Invocation.unmarked_before_find? found
  have headed : Invocation.behind? Marker.standard.text none
      (Marker.standard.text ++ (behind ++ back)) = some (behind ++ back) :=
    (Invocation.behind?_standard '¤' (behind ++ back)).trans (if_pos rfl)
  rw [Invocation.eq_of_find? found, List.append_assoc, List.append_assoc,
    Invocation.find?_append (Invocation.behind?_of_unmarked unmarked _), Invocation.find?_eq_head headed]
  simp

theorem bind_of_append {first tail : Expansion Text}
    (continued : first memory = ((out ++ ·) <$> tail) later) (lead : Text) :
    (first >>= fun text => pure (lead ++ text)) memory = ((lead ++ out ++ ·) <$> tail) later := by
  simp only [bind, EStateM.bind, continued, Functor.map, EStateM.map]
  cases tail later with
  | ok text last => exact congrArg (EStateM.Result.ok · last) (List.append_assoc ..).symm
  | error error last => rfl

/-- Behind a front that ends before a seam a pass goes on from what the front has come to. -/
theorem PassEnds.substitute_append {ending : Except Fault Text}
    (ends : PassEnds .standard none value written front memory ending later)
    (returns : ending = .ok out) (seam : Seam front back) :
    substitute .standard none value written (front ++ back) memory =
      ((out ++ ·) <$> substitute .standard none value (written + out.length) back) later := by
  induction ends generalizing out with
  | absent absent =>
      obtain rfl := Except.ok.inj returns
      have unmarked := Invocation.unmarked_of_find?_none absent
      rw [substitute_append_of_absent value _ (Invocation.behind?_of_unmarked unmarked back)]
  | scanning found unread => cases returns
  | evaluating found read failed => cases returns
  | @behindMarker written text before behind memory later ending found plain ends ih =>
      cases ending with
      | error fault => cases returns
      | ok rest =>
          obtain rfl := Except.ok.inj returns
          have behindSeam : Seam behind back := seam.suffix (suffix_of_find? found)
          have further := Invocation.read_append_of_none behindSeam plain
          have continued := ih rfl behindSeam
          rw [substitute_of_found _ _ (find?_append_of_found found back), further,
            List.length_append, List.length_append, ← Nat.add_assoc, ← Nat.add_assoc]
          exact bind_of_append continued _
  | @behindInvocation written text before behind rest replacement memory between later invocation
      ending found read returned ends ih =>
      cases ending with
      | error fault => cases returns
      | ok passed =>
          obtain rfl := Except.ok.inj returns
          have behindSeam : Seam behind back := seam.suffix (suffix_of_find? found)
          have further := Invocation.read_append behindSeam read
          have continued := ih rfl (behindSeam.suffix (Invocation.suffix_read read))
          rw [substitute_of_found _ _ (find?_append_of_found found back), further,
            List.length_append, List.length_append, ← Nat.add_assoc, ← Nat.add_assoc]
          exact (bind_of_ok returned).trans (bind_of_append continued _)

end Standard

/-- How the expansion of a text ends: it has no levels left, or one of its passes stops, or both
return. -/
inductive ExpansionEnds (settings : Settings) (functions : Table Function) :
    (levels : Nat) → Scope → Text → Memory → Except Fault Text → (later : Memory) → Prop where
  | tooDeep {scope : Scope} {text : Text} {memory : Memory} :
      ExpansionEnds settings functions 0 scope text memory
        (.error (.elsewhere (.tooDeep settings.depthLimit))) memory
  | assigning {levels : Nat} {scope : Scope} {text : Text} {memory later : Memory} {fault : Fault}
      (stops : PassEnds settings.marker (some "set".toList)
        (invoke settings functions (expandAt settings functions levels) scope) 0 text memory
        (.error fault) later) :
      ExpansionEnds settings functions (levels + 1) scope text memory (.error fault) later
  | expanding {levels : Nat} {scope : Scope} {text assigned : Text}
      {memory between later : Memory} {ending : Except Fault Text}
      (returns : PassEnds settings.marker (some "set".toList)
        (invoke settings functions (expandAt settings functions levels) scope) 0 text memory
        (.ok assigned) between)
      (ends : PassEnds settings.marker none
        (invoke settings functions (expandAt settings functions levels) scope) 0 assigned between
        ending later) :
      ExpansionEnds settings functions (levels + 1) scope text memory ending later

section Expansion

variable {settings : Settings} {functions : Table Function} {levels : Nat} {scope : Scope}
  {text : Text} {memory later : Memory} {ending : Except Fault Text}

theorem ExpansionEnds.expandAt_eq
    (ends : ExpansionEnds settings functions levels scope text memory ending later) :
    expandAt settings functions levels scope text memory = outcome later ending := by
  cases ends with
  | tooDeep => rfl
  | assigning stops => exact bind_of_error stops.substitute_eq
  | expanding returns ends => exact (bind_of_ok returns.substitute_eq).trans ends.substitute_eq

theorem exists_expansionEnds (settings : Settings) (functions : Table Function) (levels : Nat)
    (scope : Scope) (text : Text) (memory : Memory) :
    ∃ ending later, ExpansionEnds settings functions levels scope text memory ending later := by
  cases levels with
  | zero => exact ⟨_, _, .tooDeep⟩
  | succ levels =>
      obtain ⟨first, between, returns⟩ := exists_passEnds settings.marker (some "set".toList)
        (invoke settings functions (expandAt settings functions levels) scope) 0 text memory
      cases first with
      | error fault => exact ⟨_, _, .assigning returns⟩
      | ok assigned =>
          obtain ⟨ending, later, ends⟩ := exists_passEnds settings.marker none
            (invoke settings functions (expandAt settings functions levels) scope) 0 assigned between
          exact ⟨_, _, .expanding returns ends⟩

end Expansion

/-! The pass that runs assignments has nothing to do in a document without them -/

theorem PassEnds.of_absent {marker : Marker} {name : Option Text}
    {value : Invocation → Expansion Text} {written : Nat} {text : Text} {memory later : Memory}
    {ending : Except Fault Text}
    (ends : PassEnds marker name value written text memory ending later)
    (absent : Invocation.find? marker.text name text = none) :
    ending = .ok text ∧ later = memory := by
  cases ends with
  | absent _ => exact ⟨rfl, rfl⟩
  | scanning found _ => cases absent.symm.trans found
  | evaluating found _ _ => cases absent.symm.trans found
  | behindMarker found _ _ => cases absent.symm.trans found
  | behindInvocation found _ _ _ => cases absent.symm.trans found

section Documents

variable {settings : Settings} {functions : Table Function} {levels : Nat} {scope : Scope}
  {front back out : Text} {memory middle last : Memory} {ending : Except Fault Text}

-- An assignment in the front alone is one in the whole, since no name goes on across a seam.
theorem find?_front_of_seam (seam : Seam front back)
    (unassigned : ∀ i, ¬Invocation.Heads Marker.standard.text "set".toList
      ((front ++ back).drop i)) :
    Invocation.find? Marker.standard.text (some "set".toList) front = none := by
  apply Invocation.find?_name_eq_none_iff.mpr
  rintro i ⟨rest, starts, apart⟩
  apply unassigned i
  have filled : front.drop i ≠ [] := by
    simp [starts, Marker.standard]
  have inside : i ≤ front.length := by
    by_contra outside
    exact filled (List.drop_eq_nil_of_le (Nat.le_of_not_le outside))
  refine ⟨rest ++ back, ?_, ?_⟩
  · rw [List.drop_append_of_le_length inside, starts, List.append_assoc]
  · cases rest with
    | nil => exact seam.notName
    | cons c rest => exact apart

theorem find?_back
    (unassigned : ∀ i, ¬Invocation.Heads Marker.standard.text "set".toList
      ((front ++ back).drop i)) :
    Invocation.find? Marker.standard.text (some "set".toList) back = none := by
  apply Invocation.find?_name_eq_none_iff.mpr
  intro i
  rw [← List.drop_length_add_append]
  exact unassigned (front.length + i)

theorem ExpansionEnds.expandAt_append (standard : settings.marker = .standard)
    (unassigned : ∀ i, ¬Invocation.Heads Marker.standard.text "set".toList
      ((front ++ back).drop i))
    (seam : Seam front back)
    (first : ExpansionEnds settings functions levels scope front memory (.ok out) middle)
    (second : ExpansionEnds settings functions levels scope back middle ending last) :
    expandAt settings functions levels scope (front ++ back) memory =
      outcome last ((ending.mapError (Fault.moved out.length)).map (out ++ ·)) := by
  have whole := Invocation.find?_name_eq_none_iff.mpr unassigned
  cases first with
  | @expanding levels _ _ assigned _ between _ _ returns ends =>
      rw [standard] at returns ends
      obtain ⟨same, rfl⟩ := returns.of_absent (find?_front_of_seam seam unassigned)
      obtain rfl := Except.ok.inj same
      cases second with
      | assigning stops =>
          rw [standard] at stops
          cases (stops.of_absent (find?_back unassigned)).1
      | expanding returnsBack endsBack =>
          rw [standard] at returnsBack endsBack
          obtain ⟨same, rfl⟩ := returnsBack.of_absent (find?_back unassigned)
          obtain rfl := Except.ok.inj same
          have moved := (endsBack.further out.length).substitute_eq
          simp only [expandAt, expandPasses, standard]
          rw [substitute_of_absent _ _ whole, pure_bind, ends.substitute_append rfl seam,
            map_eq_pure_bind]
          exact bind_of_outcome moved _

end Documents

namespace Expander

/-- How the expansion of a document ends, and what memory it leaves. -/
def Ends (expander : Expander) (source : Text) (ending : Except Fault Text) (later : Memory) :
    Prop :=
  ExpansionEnds expander.settings expander.functions expander.settings.depthLimit.toNat [] source
    expander.memory ending later

theorem perform_of_outcome (expander : Expander) {source : Text} {ending : Except Fault Text}
    {later : Memory}
    (ended : expander.expansion source expander.memory = outcome later ending) :
    expander.perform (.expand source) =
      ((ending.mapError Fault.error).map .text, { expander with memory := later }) := by
  cases ending with
  | ok text => exact perform_expand_of_ok ended
  | error fault => exact perform_expand_of_error ended

theorem exists_ends (expander : Expander) (source : Text) :
    ∃ ending later, expander.Ends source ending later ∧ expander.perform (.expand source) =
      ((ending.mapError Fault.error).map .text, { expander with memory := later }) := by
  obtain ⟨ending, later, ends⟩ := exists_expansionEnds expander.settings expander.functions
    expander.settings.depthLimit.toNat [] source expander.memory
  exact ⟨ending, later, ends, perform_of_outcome expander ends.expandAt_eq⟩

/-- A document without assignments expands in two parts, cut at a seam: what the parts come to is
put together, and the second part starts from the memory that the first one leaves. Where the second
part fails the document fails alike, and an error in scanning that part stands as much further on as
the first part has become long. -/
theorem expand_append (expander : Expander) (front back out : Text) (middle : Expander)
    (standard : expander.settings.marker = .standard)
    (unassigned : ∀ i, ¬Invocation.Heads Marker.standard.text "set".toList
      ((front ++ back).drop i))
    (seam : Seam front back)
    (returns : expander.perform (.expand front) = (.ok (.text out), middle)) :
    (∀ more last, middle.perform (.expand back) = (.ok (.text more), last) →
      expander.perform (.expand (front ++ back)) = (.ok (.text (out ++ more)), last)) ∧
    ∀ error last, middle.perform (.expand back) = (.error error, last) →
      (∃ fault, middle.Ends back (.error fault) last.memory ∧ fault.error = error) ∧
      ∀ fault, middle.Ends back (.error fault) last.memory →
        expander.perform (.expand (front ++ back)) =
          (.error (fault.moved out.length).error, last) := by
  obtain ⟨ending, later, first, performed⟩ := exists_ends expander front
  obtain ⟨answered, rfl⟩ := Prod.mk.inj (performed.symm.trans returns)
  cases ending with
  | error fault => cases answered
  | ok text =>
      obtain rfl := Answer.text.inj (Except.ok.inj answered)
      -- However the second part ends, it decides how the whole ends.
      have whole : ∀ {ending last}, Ends { expander with memory := later } back ending last →
          expander.perform (.expand (front ++ back)) =
            ((((ending.mapError (Fault.moved text.length)).map (text ++ ·)).mapError
              Fault.error).map .text, { expander with memory := last }) :=
        fun second => perform_of_outcome expander
          (ExpansionEnds.expandAt_append standard unassigned seam first second)
      obtain ⟨ending, last, second, continued⟩ := exists_ends { expander with memory := later } back
      rw [continued]
      cases ending with
      | ok more =>
          constructor
          · intro given final same
            obtain ⟨answered, rfl⟩ := Prod.mk.inj same
            obtain rfl := Answer.text.inj (Except.ok.inj answered)
            exact whole second
          · intro error final same
            cases (Prod.mk.inj same).1
      | error fault =>
          constructor
          · intro given final same
            cases (Prod.mk.inj same).1
          · intro error final same
            obtain ⟨answered, rfl⟩ := Prod.mk.inj same
            exact ⟨⟨fault, second, Except.error.inj answered⟩, fun fault stops => whole stops⟩

/-- A macro that is defined and used before the seam and used again behind it, and the same with an
invocation behind the seam that is never closed. -/
theorem expand_append_definition :
    ((new .plain .standard).perform
      (.expand ("¤define(m, a, <¤a>)¤m(1)-".toList ++ "[¤m(2)]".toList))).1 =
        .ok (.text "<1>-[<2>]".toList) ∧
    ∃ fault : Fault, fault.error = .openInvocation (.list 6) ∧
      ((new .plain .standard).perform
        (.expand ("¤define(m, a, <¤a>)¤m(1)-".toList ++ "[¤m(2)¤m(".toList))).1 =
          .error (fault.moved "<1>-".toList.length).error := by
  have first : (new .plain .standard).perform (.expand "¤define(m, a, <¤a>)¤m(1)-".toList) =
      (.ok (.text "<1>-".toList),
        ((new .plain .standard).perform (.expand "¤define(m, a, <¤a>)¤m(1)-".toList)).2) :=
    Prod.ext (by decide +kernel) rfl
  have noGap : ∀ c ∈ "¤define(m, a, <¤a>)¤m(1)-".toList.getLast?, isGapChar c = false := by
    intro c last
    obtain rfl : '-' = c := Option.some.inj last
    rfl
  have neutral : ∀ c ∈ some '[', isNeutral c = true := by
    intro c first
    obtain rfl : '[' = c := Option.some.inj first
    rfl
  have closed := expand_append (new .plain .standard) _ "[¤m(2)]".toList _ _ rfl
    (Invocation.find?_name_eq_none_iff.mp (by decide +kernel)) ⟨noGap, neutral⟩ first
  have unclosed := expand_append (new .plain .standard) _ "[¤m(2)¤m(".toList _ _ rfl
    (Invocation.find?_name_eq_none_iff.mp (by decide +kernel)) ⟨noGap, neutral⟩ first
  refine ⟨congrArg Prod.fst (closed.1 "[<2>]".toList _ (Prod.ext (by decide +kernel) rfl)), ?_⟩
  obtain ⟨⟨fault, stops, same⟩, fails⟩ :=
    unclosed.2 (.openInvocation (.list 6)) _ (Prod.ext (by decide +kernel) rfl)
  exact ⟨fault, same, congrArg Prod.fst (fails fault stops)⟩

end Expander

end Stylesheet
