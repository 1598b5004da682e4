import Mathlib.Data.List.Chain
import SqlLint.Proofs.Sites
import SqlLint.Proofs.TokenGrammar

/-!
# What stands behind a comment

In a line the token behind a comment is a comment as well, unless the comment is over there: it is
the closing mark of a block comment, or it reaches up to a line break, which is white space
(`Reads.isChain_endsBefore`).  So a comment next to code says nothing but its mark.
-/

set_option autoImplicit false

namespace SqlLint

/-- If the first of two tokens is a comment and the second is none, the comment is over. -/
def Token.EndsBefore (comment next : Token) : Prop :=
  comment.category = .comment → next.category ≠ .comment →
    comment.text = "*/" ∨
      next.category = .whitespace ∧
        (['#'] <+: comment.text.toList ∨ ['-', '-'] <+: comment.text.toList)

theorem LexState.inComment_afterToken {state : LexState} {token : Token}
    (comment : token.category = .comment) (noClosing : token.text ≠ "*/")
    (opened : state.inComment = true ∨ token.text = "/*") :
    (state.afterToken token).inComment = true := by
  simp only [afterToken, comment, if_neg noClosing]
  split
  · rfl
  · next noOpening => exact opened.resolve_right noOpening

namespace RuleTable

variable {table : RuleTable} {previous : Option Token} {state : LexState} {text after : List Char}
  {token : Token}

/-- Two tokens that are read one behind the other. -/
theorem endsBefore_of_nextToken? {next : Token} {last : Option Token} {behind : List Char}
    (found : table.nextToken? previous state text = some (token, after))
    (foundNext : table.nextToken? last (state.afterToken token) after = some (next, behind)) :
    token.EndsBefore next := by
  intro comment noComment
  by_cases closing : token.text = "*/"
  · exact Or.inl closing
  · refine Or.inr ?_
    -- The comment does not end the block that it stands in or opens: only a line comment is left.
    have outside : (state.afterToken token).inComment ≠ true := by
      intro inside
      exact noComment (category_of_inComment inside foundNext)
    have code : state.inComment = false := by
      rw [Bool.eq_false_iff]
      intro inside
      exact outside (LexState.inComment_afterToken comment closing (Or.inl inside))
    have grammatical := grammatical_of_nextToken? found
    simp only [Token.Grammatical, comment] at grammatical
    rcases grammatical code with opening | lineComment
    · exact absurd (LexState.inComment_afterToken comment closing (Or.inr opening)) outside
    · refine ⟨?_, lineComment.opening⟩
      obtain ⟨whole, nonempty⟩ := append_of_nextToken? foundNext
      cases after with
      | nil =>
          rw [List.append_eq_nil_iff, String.toList_eq_nil_iff] at whole
          exact absurd whole.1 nonempty
      | cons c rest =>
          have lineFeed : c = '\n' := lineComment.maximal c rfl
          subst lineFeed
          exact category_of_isBlank (Bool.eq_false_iff.2 outside) rfl (by decide) foundNext

end RuleTable

theorem Reads.isChain_endsBefore {table : RuleTable} {previous : Option Token}
    {state final : LexState} {text rest : List Char} {tokens : List Token}
    (reads : Reads table previous state text tokens final rest) :
    tokens.IsChain Token.EndsBefore := by
  induction reads with
  | stop _ => exact .nil
  | token found later ih =>
      cases later with
      | stop _ => exact .singleton _
      | token foundNext _ => exact .cons_cons (RuleTable.endsBefore_of_nextToken? found foundNext) ih

/-- Backwards from a site, each comment is over before the token behind it. -/
theorem Site.isChain_endsBefore {tokens : List Token} {site : Site}
    (ends : tokens.IsChain Token.EndsBefore) (listed : site ∈ all tokens) :
    (site.token :: site.before).IsChain fun next comment => comment.EndsBefore next := by
  rw [split_of_mem listed, List.isChain_split] at ends
  have upToToken := ends.1
  rw [← List.reverse_cons, List.isChain_reverse] at upToToken
  exact upToToken

end SqlLint
