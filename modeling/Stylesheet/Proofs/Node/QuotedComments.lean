import Stylesheet.Proofs.Node.BareText

/-!
Comments and quoted strings. A comment is looked for in the whole text, whether a string is open or
not, so what is quoted is safe from it only as long as nothing closes the comment. Where something
does, the first comment that goes starts at the first slash and star that has an end.
-/

namespace Stylesheet

namespace Text

/-- Wherever a comment could start, a quoted string is open. -/
def CommentsQuoted (text : Text) : Prop :=
  ∀ before, before ++ ['/', '*'] <+: text → Quoting.outside.after before ≠ .outside

/-- Nothing closes what could start a comment. -/
def CommentsUnclosed (text : Text) : Prop :=
  ∀ rest, ['/', '*'] ++ rest <:+ text → ¬['*', '/'] <:+: rest

instance (text : Text) : Decidable text.CommentsQuoted :=
  decidable_of_iff (∀ before, before <+: text → before ++ ['/', '*'] <+: text →
      Quoting.outside.after before ≠ .outside)
    ⟨fun quoted before leads => quoted before ((List.prefix_append before _).trans leads) leads,
      fun quoted before _ leads => quoted before leads⟩

/-! The end of a comment -/

section CommentEnd

variable {text rest : Text}

-- A comment ends at the first star and slash: there is none before its last star.
theorem exists_of_afterCommentEnd? (closed : afterCommentEnd? text = some rest) :
    ∃ comment, text = comment ++ ['*', '/'] ++ rest ∧ ¬['*', '/'] <:+: comment ++ ['*'] := by
  fun_induction afterCommentEnd? text with
  | case1 => cases closed
  | case2 tail =>
      obtain rfl := Option.some.inj closed
      exact ⟨[], rfl, by decide⟩
  | case3 c tail apart ih =>
      obtain ⟨comment, whole, first⟩ := ih closed
      refine ⟨c :: comment, by rw [whole]; rfl, ?_⟩
      intro ends
      rcases List.infix_cons_iff.mp ends with early | later
      · have leads : ['*', '/'] <+: c :: tail := by
          rw [whole, List.append_assoc]
          exact early.trans ⟨'/' :: rest, by simp⟩
        obtain ⟨more, same⟩ := leads
        obtain ⟨rfl, rfl⟩ := List.cons.inj same
        exact apart more rfl rfl
      · exact first later

theorem not_infix_of_afterCommentEnd? (unclosed : afterCommentEnd? text = none) :
    ¬['*', '/'] <:+: text := by
  fun_induction afterCommentEnd? text with
  | case1 => simp
  | case2 tail => cases unclosed
  | case3 c tail apart ih =>
      intro closes
      rcases List.infix_cons_iff.mp closes with ⟨more, whole⟩ | later
      · obtain ⟨rfl, rfl⟩ := List.cons.inj whole
        exact apart more rfl rfl
      · exact ih unclosed later

end CommentEnd

/-! Cutting comments out -/

section Cutting

variable {text rest behind : Text} {c : Char}

theorem withoutComments_of_closed (closed : afterCommentEnd? rest = some behind) :
    withoutComments ('/' :: '*' :: rest) = behind.withoutComments := by
  rw [withoutComments]
  split <;> simp_all

theorem withoutComments_of_unclosed (unclosed : afterCommentEnd? rest = none) :
    withoutComments ('/' :: '*' :: rest) = '/' :: '*' :: rest := by
  rw [withoutComments]
  split <;> simp_all

theorem withoutComments_cons (apart : ¬['/', '*'] <+: c :: text) :
    withoutComments (c :: text) = c :: text.withoutComments := by
  rw [withoutComments]
  rintro more rfl rfl
  exact apart (List.prefix_append ['/', '*'] more)

end Cutting

/-! The first comment -/

section First

variable {text rest : Text} {c : Char}

-- What could start a comment further on has less text behind it.
theorem commentsUnclosed_of_first (unclosed : ¬['*', '/'] <:+: rest) :
    CommentsUnclosed ('/' :: '*' :: rest) := by
  intro other starts closes
  have bounded := starts.length_le
  simp only [List.cons_append, List.nil_append, List.length_cons] at bounded
  have behind : other <:+ rest := by
    apply List.suffix_of_suffix_length_le
    · exact (List.suffix_append ['/', '*'] other).trans starts
    · exact List.suffix_append ['/', '*'] rest
    · omega
  exact unclosed (closes.trans behind.isInfix)

theorem commentsUnclosed_cons (apart : ¬['/', '*'] <+: c :: text)
    (unclosed : text.CommentsUnclosed) : CommentsUnclosed (c :: text) := by
  intro other starts
  rcases List.suffix_cons_iff.mp starts with whole | later
  · exact absurd ⟨other, whole⟩ apart
  · exact unclosed other later

/-- The text starts with `before`, then comes its first comment, and `behind` is the rest. -/
structure FirstComment (text before comment behind : Text) : Prop where
  whole : text = before ++ ['/', '*'] ++ comment ++ ['*', '/'] ++ behind
  starts : ¬['/', '*'] <:+: before ++ ['/']
  ends : ¬['*', '/'] <:+: comment ++ ['*']

theorem FirstComment.cons {before comment behind : Text} (apart : ¬['/', '*'] <+: c :: text)
    (first : FirstComment text before comment behind) :
    FirstComment (c :: text) (c :: before) comment behind := by
  refine ⟨by rw [first.whole]; rfl, ?_, first.ends⟩
  intro starts
  rcases List.infix_cons_iff.mp starts with early | later
  · apply apart
    rw [first.whole]
    exact early.trans ⟨'*' :: (comment ++ ['*', '/'] ++ behind), by simp⟩
  · exact first.starts later

/-- A text is left alone when nothing closes a comment in it; else its first comment is cut out. -/
theorem withoutComments_cases (text : Text) :
    text.CommentsUnclosed ∧ text.withoutComments = text ∨
      ∃ before comment behind, FirstComment text before comment behind ∧
        text.withoutComments = before ++ behind.withoutComments := by
  induction text with
  | nil =>
      left
      refine ⟨fun rest starts => ?_, by rw [withoutComments]⟩
      cases List.suffix_nil.mp starts
  | cons c text ih =>
      by_cases starts : ['/', '*'] <+: c :: text
      · obtain ⟨rest, whole⟩ := starts
        rw [← whole]
        cases closed : afterCommentEnd? rest with
        | none =>
            left
            exact ⟨commentsUnclosed_of_first (not_infix_of_afterCommentEnd? closed),
              withoutComments_of_unclosed closed⟩
        | some behind =>
            right
            obtain ⟨comment, rfl, first⟩ := exists_of_afterCommentEnd? closed
            have cut : FirstComment (['/', '*'] ++ (comment ++ ['*', '/'] ++ behind)) [] comment
                behind := ⟨by simp, by decide, first⟩
            exact ⟨[], comment, behind, cut, withoutComments_of_closed closed⟩
      · rw [withoutComments_cons starts]
        rcases ih with ⟨unclosed, same⟩ | ⟨before, comment, behind, first, cut⟩
        · left
          exact ⟨commentsUnclosed_cons starts unclosed, by rw [same]⟩
        · right
          exact ⟨c :: before, comment, behind, first.cons starts, by rw [cut, List.cons_append]⟩

theorem length_withoutComments_le (text : Text) :
    text.withoutComments.length ≤ text.length := by
  induction size : text.length using Nat.strongRecOn generalizing text with
  | ind size ih =>
      rcases withoutComments_cases text with ⟨_, same⟩ | ⟨before, comment, behind, first, cut⟩
      · rw [same, size]
      · have lengths := congrArg List.length first.whole
        simp only [List.length_append, List.length_cons, List.length_nil] at lengths
        have later := ih behind.length (by omega) behind rfl
        rw [cut, List.length_append]
        omega

-- A text that a comment is cut out of gets shorter.
theorem withoutComments_ne_of_cut {before comment behind : Text}
    (first : FirstComment text before comment behind)
    (cut : text.withoutComments = before ++ behind.withoutComments) :
    text.withoutComments ≠ text := by
  intro same
  have lengths := congrArg List.length (same.symm.trans cut)
  have bounded := length_withoutComments_le behind
  rw [first.whole] at lengths
  simp only [List.length_append, List.length_cons, List.length_nil] at lengths
  omega

theorem withoutComments_eq_self_iff : text.withoutComments = text ↔ text.CommentsUnclosed := by
  rcases withoutComments_cases text with ⟨unclosed, same⟩ | ⟨before, comment, behind, first, cut⟩
  · exact ⟨fun _ => unclosed, fun _ => same⟩
  · constructor
    · intro same
      exact absurd same (withoutComments_ne_of_cut first cut)
    · intro unclosed
      have starts : ['/', '*'] ++ (comment ++ ['*', '/'] ++ behind) <:+ text :=
        ⟨before, by simp [first.whole]⟩
      exact absurd ⟨comment, behind, rfl⟩ (unclosed _ starts)

end First

/-- A text that quotes whatever could start a comment is left alone, and read as it stands, exactly
when nothing in it closes a comment. Otherwise the first comment that is cut out starts inside a
quoted string. -/
theorem withoutComments_of_commentsQuoted (text : Text) (quoted : text.CommentsQuoted) :
    (text.withoutComments = text ↔ text.CommentsUnclosed) ∧
      (text.CommentsUnclosed → Node.read text = Node.readFrom 0 text) ∧
      (¬text.CommentsUnclosed → ∃ before comment behind,
        FirstComment text before comment behind ∧ Quoting.outside.after before ≠ .outside ∧
          text.withoutComments = before ++ behind.withoutComments) := by
  refine ⟨withoutComments_eq_self_iff, ?_, ?_⟩
  · intro unclosed
    rw [Node.read, withoutComments_eq_self_iff.mpr unclosed]
  · intro closed
    rcases withoutComments_cases text with ⟨unclosed, _⟩ | ⟨before, comment, behind, first, cut⟩
    · exact absurd unclosed closed
    · refine ⟨before, comment, behind, first, quoted before ?_, cut⟩
      rw [first.whole, List.append_assoc, List.append_assoc]
      exact List.prefix_append _ _

/-- Two strings that could start a comment, with a stray end of one in front of them. -/
def quotedStarts : Text := "*/ a\x7bb:\x22/*\x22;c:'\\'/*'\x7d".toList

/-- One string holds the start of a comment and another one its end. -/
def spannedStrings : Text := "a\x7bb:\x22/*\x22;c:d;e:\x22*/\x22\x7d".toList

theorem withoutComments_of_commentsQuoted_starts :
    quotedStarts.CommentsQuoted ∧ quotedStarts.CommentsUnclosed ∧
      Node.read quotedStarts = Node.readFrom 0 quotedStarts ∧
      spannedStrings.CommentsQuoted ∧ ¬spannedStrings.CommentsUnclosed ∧
      ∃ before comment behind, FirstComment spannedStrings before comment behind ∧
        Quoting.outside.after before ≠ .outside ∧
        spannedStrings.withoutComments = before ++ behind.withoutComments := by
  have quoted : quotedStarts.CommentsQuoted := by decide +kernel
  have kept : quotedStarts.withoutComments = quotedStarts := by decide +kernel
  obtain ⟨iff, reads, _⟩ := withoutComments_of_commentsQuoted quotedStarts quoted
  have unclosed := iff.mp kept
  have spanned : spannedStrings.CommentsQuoted := by decide +kernel
  have changed : spannedStrings.withoutComments ≠ spannedStrings := by decide +kernel
  obtain ⟨same, _, cut⟩ := withoutComments_of_commentsQuoted spannedStrings spanned
  have closed := fun still => changed (same.mpr still)
  exact ⟨quoted, unclosed, reads unclosed, spanned, closed, cut closed⟩

/-- The declaration between the two strings is lost, and the strings become one. -/
theorem withoutComments_between_strings :
    spannedStrings.CommentsQuoted ∧
      spannedStrings.withoutComments = "a\x7bb:\x22\x22\x7d".toList := by
  decide +kernel

end Text

end Stylesheet
