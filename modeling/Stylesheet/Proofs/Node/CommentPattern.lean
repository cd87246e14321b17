import Mathlib.Computability.Language
import Stylesheet.Proofs.Node.QuotedComments

/-!
Which parts of a text are comments. A comment starts at the first place where one can and ends at
the first place where it can, and a text without such a pair of places is left alone. The same
comments are described by a pattern of runs: between the slashes, runs of stars alternate with runs
of other characters, and no slash comes right behind a star. Taking the matches of that pattern out
of a text, from the left, is what removing comments does.
-/

namespace Stylesheet

namespace Text

open Computability

/-! Places -/

/-- The part stands in the text at the index. -/
def OccursAt (part text : Text) (i : Nat) : Prop := part <+: text.drop i

/-- The part stands in the text at the index, and nowhere before it. -/
def FirstAt (part text : Text) (i : Nat) : Prop :=
  OccursAt part text i ∧ ∀ j < i, ¬OccursAt part text j

instance (part text : Text) (i : Nat) : Decidable (OccursAt part text i) :=
  inferInstanceAs (Decidable (part <+: text.drop i))

instance (part text : Text) (i : Nat) : Decidable (FirstAt part text i) :=
  inferInstanceAs (Decidable (OccursAt part text i ∧ ∀ j < i, ¬OccursAt part text j))

section Places

variable {part text : Text} {i : Nat}

theorem occursAt_length (before part rest : Text) :
    OccursAt part (before ++ (part ++ rest)) before.length := by
  unfold OccursAt
  rw [List.drop_left]
  exact List.prefix_append part rest

theorem exists_of_occursAt (filled : part ≠ []) (occurs : OccursAt part text i) :
    ∃ before rest, text = before ++ (part ++ rest) ∧ before.length = i := by
  rcases occurs with ⟨rest, tail⟩
  have inside : i < text.length := by
    apply Nat.lt_of_not_le
    intro beyond
    rw [List.drop_eq_nil_of_le beyond, List.append_eq_nil_iff] at tail
    exact filled tail.1
  refine ⟨text.take i, rest, ?_, List.length_take_of_le inside.le⟩
  rw [tail, List.take_append_drop]

/-- Where two characters first stand at the end of a text, they do not stand in what comes before
the last of them. -/
theorem not_infix_of_firstAt {front : Text} {c d : Char}
    (first : FirstAt [c, d] (front ++ [c, d]) front.length) : ¬[c, d] <:+: front ++ [c] := by
  rintro ⟨before, rest, whole⟩
  have lengths := congrArg List.length whole
  simp only [List.length_append, List.length_cons, List.length_nil] at lengths
  have early : before.length < front.length := by omega
  apply first.2 before.length early
  have longer : front ++ [c, d] = before ++ ([c, d] ++ (rest ++ [d])) := by
    have extended := congrArg (· ++ [d]) whole
    simpa using extended.symm
  rw [longer]
  exact occursAt_length before [c, d] (rest ++ [d])

theorem commentsUnclosed_iff : text.CommentsUnclosed ↔
    ∀ i j, i + 2 ≤ j → OccursAt ['/', '*'] text i → ¬OccursAt ['*', '/'] text j := by
  constructor
  · intro unclosed i j apart starts ends
    rcases exists_of_occursAt (List.cons_ne_nil _ _) starts with ⟨before, rest, rfl, rfl⟩
    apply unclosed rest (List.suffix_append _ _)
    have behind : List.drop (before.length + 2) (before ++ (['/', '*'] ++ rest)) = rest := by simp
    have later := List.drop_suffix_drop_left (before ++ (['/', '*'] ++ rest)) apart
    rw [behind] at later
    exact ends.isInfix.trans later.isInfix
  · rintro unclosed rest ⟨before, rfl⟩ ⟨comment, behind, rfl⟩
    apply unclosed before.length (before.length + 2 + comment.length) (by omega)
    · exact occursAt_length before ['/', '*'] _
    · have ends := occursAt_length (before ++ ['/', '*'] ++ comment) ['*', '/'] behind
      simpa [Nat.add_assoc, Nat.add_comm 2] using ends

end Places

/-! The first comment -/

theorem afterCommentEnd?_of_first {comment : Text} (first : ¬['*', '/'] <:+: comment ++ ['*'])
    (behind : Text) : afterCommentEnd? (comment ++ (['*', '/'] ++ behind)) = some behind := by
  induction comment with
  | nil => rfl
  | cons c comment ih =>
      have later : ¬['*', '/'] <:+: comment ++ ['*'] := fun found =>
        first (List.infix_cons_iff.mpr (.inr found))
      have apart : ∀ rest, c = '*' → comment ++ (['*', '/'] ++ behind) = '/' :: rest → False := by
        rintro rest rfl same
        cases comment with
        | nil => cases same
        | cons d comment =>
            obtain rfl : d = '/' := (List.cons.inj same).1
            exact first ⟨[], comment ++ ['*'], rfl⟩
      rw [List.cons_append, afterCommentEnd?]
      · exact ih later
      · exact apart

/-- The first comment is cut out, and the text behind it is looked at anew. -/
theorem FirstComment.withoutComments_eq {text before comment behind : Text}
    (first : FirstComment text before comment behind) :
    text.withoutComments = before ++ behind.withoutComments := by
  rcases first with ⟨rfl, starts, ends⟩
  induction before with
  | nil =>
      have closed := withoutComments_of_closed (afterCommentEnd?_of_first ends behind)
      simpa using closed
  | cons c before ih =>
      have later : ¬['/', '*'] <:+: before ++ ['/'] := fun found =>
        starts (List.infix_cons_iff.mpr (.inr found))
      have apart : ¬['/', '*'] <+:
          c :: (before ++ ['/', '*'] ++ comment ++ ['*', '/'] ++ behind) := by
        rintro ⟨rest, same⟩
        obtain ⟨rfl, tail⟩ := List.cons.inj same
        apply starts
        cases before with
        | nil => cases tail
        | cons d before =>
            obtain rfl : '*' = d := (List.cons.inj tail).1
            exact ⟨[], before ++ ['/'], rfl⟩
      exact (withoutComments_cons apart).trans (congrArg (c :: ·) (ih later))

/-! The pattern -/

/-- The texts of one character of a class. -/
def oneOf (allowed : Char → Prop) : Language Char := {text | ∃ c, allowed c ∧ text = [c]}

def star : Language Char := oneOf (· = '*')

def noStar : Language Char := oneOf (· ≠ '*')

/-- A run of stars and the text in front of it, back to the run before that. The first character of
the text is no slash. -/
def furtherRun : Language Char := oneOf (fun c => c ≠ '/' ∧ c ≠ '*') * noStar∗ * (star * star∗)

/-- The inside of a comment up to its last star: `[^*]*\*+(?:[^/*][^*]*\*+)*`. -/
def commentRuns : Language Char := noStar∗ * (star * star∗) * furtherRun∗

def commentPattern : Language Char := {['/', '*']} * commentRuns * {['/']}

section Pattern

variable {allowed : Char → Prop} {language : Language Char} {c : Char} {text : Text}

theorem cons_mem_oneOf_mul :
    c :: text ∈ oneOf allowed * language ↔ allowed c ∧ text ∈ language := by
  rw [Language.mem_mul]
  constructor
  · rintro ⟨_, ⟨d, fits, rfl⟩, rest, member, same⟩
    obtain ⟨rfl, rfl⟩ := List.cons.inj same
    exact ⟨fits, member⟩
  · rintro ⟨fits, member⟩
    exact ⟨[c], ⟨c, fits, rfl⟩, text, member, rfl⟩

theorem nil_not_mem_oneOf_mul : [] ∉ oneOf allowed * language := by
  rw [Language.mem_mul]
  rintro ⟨_, ⟨d, _, rfl⟩, rest, _, same⟩
  cases same

/-- What may follow a star inside a comment, up to the last star. -/
def behindStar : Language Char := star∗ * furtherRun∗

-- Both languages are read from the left, one character at a time.
theorem commentRuns_eq : commentRuns = noStar * commentRuns + star * behindStar := by
  have unfolded := Language.one_add_self_mul_kstar_eq_kstar noStar
  calc commentRuns = (1 + noStar * noStar∗) * (star * star∗) * furtherRun∗ := by
        rw [unfolded]
        rfl
    _ = noStar * commentRuns + star * behindStar := by
        simp only [commentRuns, behindStar, add_mul, one_mul, mul_assoc, add_comm]

theorem behindStar_eq : behindStar =
    1 + star * behindStar + oneOf (fun c => c ≠ '/' ∧ c ≠ '*') * commentRuns := by
  have stars := Language.one_add_self_mul_kstar_eq_kstar star
  have runs := Language.one_add_self_mul_kstar_eq_kstar furtherRun
  calc behindStar = (1 + star * star∗) * furtherRun∗ := by
        rw [stars]
        rfl
    _ = 1 + furtherRun * furtherRun∗ + star * behindStar := by
        rw [add_mul, one_mul, runs, mul_assoc]
        rfl
    _ = 1 + star * behindStar + oneOf (fun c => c ≠ '/' ∧ c ≠ '*') * commentRuns := by
        rw [add_right_comm]
        simp only [furtherRun, commentRuns, mul_assoc]

theorem cons_mem_commentRuns : c :: text ∈ commentRuns ↔
    c ≠ '*' ∧ text ∈ commentRuns ∨ c = '*' ∧ text ∈ behindStar := by
  have either : c :: text ∈ commentRuns ↔ c :: text ∈ noStar * commentRuns + star * behindStar := by
    rw [← commentRuns_eq]
  exact either.trans (or_congr cons_mem_oneOf_mul cons_mem_oneOf_mul)

theorem nil_not_mem_commentRuns : [] ∉ commentRuns := by
  rw [commentRuns_eq, Language.mem_add]
  rintro (member | member)
  · exact nil_not_mem_oneOf_mul member
  · exact nil_not_mem_oneOf_mul member

theorem nil_mem_behindStar : [] ∈ behindStar := by
  rw [behindStar_eq]
  exact .inl (.inl Language.nil_mem_one)

theorem cons_mem_behindStar : c :: text ∈ behindStar ↔
    c = '*' ∧ text ∈ behindStar ∨ (c ≠ '/' ∧ c ≠ '*') ∧ text ∈ commentRuns := by
  have either : c :: text ∈ behindStar ↔ c :: text ∈ 1 + star * behindStar +
      oneOf (fun c => c ≠ '/' ∧ c ≠ '*') * commentRuns := by
    rw [← behindStar_eq]
  rw [either, Language.mem_add, Language.mem_add, Language.mem_one]
  simp only [reduceCtorEq, false_or]
  exact or_congr cons_mem_oneOf_mul cons_mem_oneOf_mul

/-! What the runs come to -/

/-- The text ends with a star, and no comment ends in it. -/
def EndsBare (text : Text) : Prop := text.getLast? = some '*' ∧ ¬['*', '/'] <:+: text

theorem endsBare_cons (other : c ≠ '*') : EndsBare (c :: text) ↔ EndsBare text := by
  have last : (c :: text).getLast? = some '*' ↔ text.getLast? = some '*' := by
    cases text with
    | nil => simp [other]
    | cons d text => rw [List.getLast?_cons_cons]
  have ends : ['*', '/'] <:+: c :: text ↔ ['*', '/'] <:+: text := by
    rw [List.infix_cons_iff, List.cons_prefix_cons]
    simp [Ne.symm other]
  unfold EndsBare
  rw [last, ends]

theorem endsBare_star_cons (other : c ≠ '/') : EndsBare ('*' :: c :: text) ↔ EndsBare (c :: text) := by
  have ends : ['*', '/'] <:+: '*' :: c :: text ↔ ['*', '/'] <:+: c :: text := by
    rw [List.infix_cons_iff, List.cons_prefix_cons, List.cons_prefix_cons]
    simp [Ne.symm other]
  unfold EndsBare
  rw [List.getLast?_cons_cons, ends]

theorem not_endsBare_star_slash : ¬EndsBare ('*' :: '/' :: text) :=
  fun bare => bare.2 ⟨[], text, rfl⟩

theorem mem_runs_iff (text : Text) : (text ∈ commentRuns ↔ text.EndsBare) ∧
    (text ∈ behindStar ↔ EndsBare ('*' :: text)) := by
  induction text with
  | nil =>
      refine ⟨iff_of_false nil_not_mem_commentRuns ?_, iff_of_true nil_mem_behindStar ⟨rfl, by decide⟩⟩
      rintro ⟨last, _⟩
      cases last
  | cons c text ih =>
      rw [cons_mem_commentRuns, cons_mem_behindStar, ih.1, ih.2]
      by_cases starred : c = '*'
      · subst starred
        rw [endsBare_star_cons (by decide)]
        simp
      · rw [endsBare_cons starred]
        by_cases closes : c = '/'
        · subst closes
          simp [not_endsBare_star_slash]
        · rw [endsBare_star_cons closes, endsBare_cons starred]
          simp [starred, closes]

theorem mem_commentPattern_iff : text ∈ commentPattern ↔
    ∃ comment, text = ['/', '*'] ++ (comment ++ ['*', '/']) ∧ ¬['*', '/'] <:+: comment ++ ['*'] := by
  constructor
  · rintro ⟨_, ⟨_, rfl, runs, member, rfl⟩, _, rfl, rfl⟩
    rcases (mem_runs_iff runs).1.mp member with ⟨last, bare⟩
    rcases List.getLast?_eq_some_iff.mp last with ⟨comment, rfl⟩
    exact ⟨comment, by simp, bare⟩
  · rintro ⟨comment, rfl, bare⟩
    have runs : comment ++ ['*'] ∈ commentRuns :=
      (mem_runs_iff (comment ++ ['*'])).1.mpr ⟨by simp, bare⟩
    have whole : ['/', '*'] ++ (comment ++ ['*']) ++ ['/'] ∈ commentPattern :=
      Language.append_mem_mul (Language.append_mem_mul (Set.mem_singleton _) runs)
        (Set.mem_singleton _)
    simpa using whole

end Pattern

/-! Taking matches out -/

/-- The text without the matches of a pattern, each of which is taken at the first place where the
pattern matches, from the left. -/
inductive Removes (pattern : Language Char) : Text → Text → Prop where
  | nil : Removes pattern [] []
  | cut {found rest kept : Text} (matched : found ∈ pattern) :
      Removes pattern rest kept → Removes pattern (found ++ rest) kept
  | keep {c : Char} {text kept : Text} (unmatched : ∀ found ∈ pattern, ¬found <+: c :: text) :
      Removes pattern text kept → Removes pattern (c :: text) (c :: kept)

section Removal

variable {pattern : Language Char} {text kept : Text} {c : Char}

-- As long as a match takes something away, there is always a way to the end.
theorem exists_removes (filled : [] ∉ pattern) (text : Text) :
    ∃ kept, Removes pattern text kept := by
  induction size : text.length using Nat.strongRecOn generalizing text with
  | ind n ih =>
      cases text with
      | nil => exact ⟨[], .nil⟩
      | cons c text =>
          by_cases starts : ∃ found ∈ pattern, found <+: c :: text
          · rcases starts with ⟨found, matched, rest, whole⟩
            have lengths := congrArg List.length whole
            rw [List.length_append, size] at lengths
            have positive : 0 < found.length :=
              List.length_pos_iff.mpr fun empty => filled (empty ▸ matched)
            rcases ih rest.length (by omega) rest rfl with ⟨kept, removes⟩
            rw [← whole]
            exact ⟨kept, .cut matched removes⟩
          · have shorter : text.length < n := by
              rw [← size, List.length_cons]
              omega
            rcases ih text.length shorter text rfl with ⟨kept, removes⟩
            refine ⟨c :: kept, .keep ?_ removes⟩
            intro found matched leads
            exact starts ⟨found, matched, leads⟩

theorem nil_not_mem_commentPattern : [] ∉ commentPattern := by
  rw [mem_commentPattern_iff]
  rintro ⟨comment, same, _⟩
  cases same

theorem CommentsUnclosed.tail (unclosed : CommentsUnclosed (c :: text)) : text.CommentsUnclosed :=
  fun rest starts => unclosed rest (starts.trans (List.suffix_cons c text))

-- Where the pattern does not match, no comment starts, or one starts that nothing closes.
theorem withoutComments_of_unmatched
    (unmatched : ∀ found ∈ commentPattern, ¬found <+: c :: text) :
    withoutComments (c :: text) = c :: text.withoutComments := by
  rcases withoutComments_cases (c :: text) with ⟨unclosed, same⟩ | ⟨before, comment, behind, first, _⟩
  · rw [same, withoutComments_eq_self_iff.mpr unclosed.tail]
  · cases before with
    | nil =>
        have matched := mem_commentPattern_iff.mpr ⟨comment, rfl, first.ends⟩
        exact absurd ⟨behind, by simp [first.whole]⟩ (unmatched _ matched)
    | cons d before =>
        obtain ⟨rfl, tail⟩ := List.cons.inj first.whole
        have later : FirstComment text before comment behind :=
          ⟨tail, fun found => first.starts (List.infix_cons_iff.mpr (.inr found)), first.ends⟩
        rw [first.withoutComments_eq, later.withoutComments_eq, List.cons_append]

theorem Removes.eq_withoutComments (removes : Removes commentPattern text kept) :
    kept = text.withoutComments := by
  induction removes with
  | nil => rw [withoutComments]
  | @cut found rest kept matched _ ih =>
      rcases mem_commentPattern_iff.mp matched with ⟨comment, rfl, ends⟩
      have first : FirstComment (['/', '*'] ++ (comment ++ ['*', '/']) ++ rest) [] comment rest :=
        ⟨by simp, by decide, ends⟩
      rw [first.withoutComments_eq, ih]
      rfl
  | keep unmatched _ ih => rw [withoutComments_of_unmatched unmatched, ih]

theorem removes_iff : Removes commentPattern text kept ↔ kept = text.withoutComments := by
  constructor
  · exact Removes.eq_withoutComments
  · rintro rfl
    rcases exists_removes nil_not_mem_commentPattern text with ⟨kept, removes⟩
    rwa [← removes.eq_withoutComments]

end Removal

/-- Removing comments cuts out the first slash and star with everything up to the first star and
slash behind them, and goes on from there. It leaves a text alone exactly when no star and slash
come behind a slash and star. And it is what taking the matches of the comment pattern out comes to.
-/
theorem withoutComments_leftmost_shortest :
    (∀ before comment behind : Text,
      FirstAt ['/', '*'] (before ++ ['/', '*']) before.length →
      FirstAt ['*', '/'] (comment ++ ['*', '/']) comment.length →
        withoutComments (before ++ ['/', '*'] ++ comment ++ ['*', '/'] ++ behind) =
          before ++ behind.withoutComments) ∧
      (∀ text : Text, text.withoutComments = text ↔
        ∀ i j, i + 2 ≤ j → OccursAt ['/', '*'] text i → ¬OccursAt ['*', '/'] text j) ∧
      ∀ text kept : Text, Removes commentPattern text kept ↔ kept = text.withoutComments := by
  refine ⟨?_, ?_, ?_⟩
  · intro before comment behind starts ends
    have first : FirstComment (before ++ ['/', '*'] ++ comment ++ ['*', '/'] ++ behind) before comment
        behind := ⟨rfl, not_infix_of_firstAt starts, not_infix_of_firstAt ends⟩
    exact first.withoutComments_eq
  · intro text
    exact withoutComments_eq_self_iff.trans commentsUnclosed_iff
  · intro text kept
    exact removes_iff

/-- A slash stands before the comment and another one right inside it, its stars run up to its end,
and what follows is no comment, since its two slashes share a star. -/
theorem withoutComments_leftmost_shortest_starredText :
    FirstAt ['/', '*'] ("a/".toList ++ ['/', '*']) 2 ∧
      FirstAt ['*', '/'] ("/*b**".toList ++ ['*', '/']) 5 ∧
      withoutComments "a//*/*b***/c/*/".toList = "a/c/*/".toList := by
  have starts : FirstAt ['/', '*'] ("a/".toList ++ ['/', '*']) 2 := by decide +kernel
  have ends : FirstAt ['*', '/'] ("/*b**".toList ++ ['*', '/']) 5 := by decide +kernel
  have kept : withoutComments "c/*/".toList = "c/*/".toList := by decide +kernel
  have cut := withoutComments_leftmost_shortest.1 "a/".toList "/*b**".toList "c/*/".toList starts ends
  rw [kept] at cut
  exact ⟨starts, ends, cut⟩

end Text

end Stylesheet
