import SqlLint.Style.Checker

/-!
# Sites in their line

A site of a line is one way to split its tokens (`Site.split_of_mem`).  Its position is the number
of bytes before its token, so that sites with some text follow each other in the order of their
positions (`Site.pairwise_position`), and its depth is by how much the opening brackets up to its
token outnumber the closing ones (`Style.depthAt_eq_zero_iff`).
-/

set_option autoImplicit false

namespace SqlLint

theorem Token.byteLength_pos {token : Token} (nonempty : token.text ≠ "") :
    0 < token.byteLength := by
  apply Nat.pos_of_ne_zero
  intro none
  exact nonempty (String.utf8ByteSize_eq_zero_iff.1 none)

namespace Site

theorem split_of_mem_allFrom {before tokens : List Token} {site : Site}
    (listed : site ∈ allFrom before tokens) :
    before.reverse ++ tokens = site.before.reverse ++ site.token :: site.behind := by
  induction tokens generalizing before with
  | nil => contradiction
  | cons token tokens ih =>
      rcases List.mem_cons.1 listed with rfl | later
      · rfl
      · rw [← ih later, List.reverse_cons, List.append_assoc, List.singleton_append]

theorem split_of_mem {tokens : List Token} {site : Site} (listed : site ∈ all tokens) :
    tokens = site.before.reverse ++ site.token :: site.behind :=
  split_of_mem_allFrom listed

theorem token_mem {tokens : List Token} {site : Site} (listed : site ∈ all tokens) :
    site.token ∈ tokens := by
  rw [split_of_mem listed]
  exact List.mem_append_right _ List.mem_cons_self

theorem totalBytes_le_position {before tokens : List Token} {site : Site}
    (listed : site ∈ allFrom before tokens) : Token.totalBytes before ≤ site.position := by
  induction tokens generalizing before with
  | nil => contradiction
  | cons token tokens ih =>
      rcases List.mem_cons.1 listed with rfl | later
      · exact Nat.le_refl _
      · exact Nat.le_trans (Nat.le_add_left _ _) (ih later)

/-- Behind a token with some text every site has a greater position. -/
theorem pairwise_position {before tokens : List Token}
    (nonempty : ∀ token ∈ tokens, token.text ≠ "") :
    (allFrom before tokens).Pairwise fun first second => first.position < second.position := by
  induction tokens generalizing before with
  | nil => exact List.Pairwise.nil
  | cons token tokens ih =>
      rw [allFrom, List.pairwise_cons]
      refine ⟨?_, ih fun other listed => nonempty other (List.mem_cons_of_mem token listed)⟩
      intro site listed
      have positive := Token.byteLength_pos (nonempty token List.mem_cons_self)
      have behind := totalBytes_le_position listed
      rw [Token.totalBytes] at behind
      change Token.totalBytes before < site.position
      omega

theorem totalBytes_eq (tokens : List Token) :
    Token.totalBytes tokens = (String.join (tokens.reverse.map (·.text))).utf8ByteSize := by
  induction tokens with
  | nil => rfl
  | cons token tokens ih =>
      rw [Token.totalBytes, ih, List.reverse_cons, List.map_append, String.join_append,
        String.utf8ByteSize_append, Nat.add_comm, List.map_singleton, String.join_cons,
        String.join_nil, String.append_empty]
      rfl

end Site

namespace Style

theorem depthAfter_eq (depth : Int) (token : Token) :
    depthAfter depth token =
      depth + [token].count ⟨.bracket, "("⟩ - [token].count ⟨.bracket, ")"⟩ := by
  obtain ⟨category, text⟩ := token
  by_cases bracket : category = .bracket
  · subst bracket
    by_cases opening : text = "("
    · subst opening
      simp [depthAfter]
    · by_cases closing : text = ")"
      · subst closing
        simp [depthAfter]
      · simp [depthAfter, opening, closing]
  · simp [depthAfter, bracket]

theorem depth_eq (tokens : List Token) :
    tokens.foldr (fun token depth => depthAfter depth token) 0 =
      tokens.count ⟨.bracket, "("⟩ - tokens.count ⟨.bracket, ")"⟩ := by
  induction tokens with
  | nil => rfl
  | cons token tokens ih =>
      have count : ∀ mark : Token, (token :: tokens).count mark =
          [token].count mark + tokens.count mark := by
        intro mark
        rw [← List.count_append, List.singleton_append]
      rw [List.foldr_cons, ih, depthAfter_eq, count, count]
      omega

/-- Outside brackets as many of them are opened as closed. -/
theorem depthAt_eq_zero_iff {site : Site} :
    depthAt site = 0 ↔
      (site.before.reverse ++ [site.token]).count ⟨.bracket, "("⟩ =
        (site.before.reverse ++ [site.token]).count ⟨.bracket, ")"⟩ := by
  rw [← List.reverse_cons, List.count_reverse, List.count_reverse, depthAt, depth_eq]
  omega

end Style

end SqlLint
