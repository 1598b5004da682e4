import SqlLint.Document.Run
import SqlLint.Proofs.TokenGrammar

/-!
# Asterisks

Outside comments an asterisk is read as an operator or as the start of a longer one
(`RuleTable.nextBody?_of_asterisk`).  A lone one is a keyword exactly where it stands for columns:
the select list is open behind the tokens before it and, unless the policy allows it anywhere, a
column is expected there.  Whether one is expected depends on one token only, the nearest that is
neither white space nor a comment (`columnExpected_iff`).
-/

set_option autoImplicit false

namespace SqlLint

theorem lastSignificant_of_layout (previous : Option Token) {layout : List Token}
    (onlyLayout : ∀ other ∈ layout, other.isLayout = true) :
    lastSignificant previous layout = previous := by
  have none : layout.reverse.find? (·.category.isSignificant) = none := by
    rw [List.find?_eq_none]
    intro other listed
    simpa [Token.isLayout] using onlyLayout other (List.mem_reverse.1 listed)
  rw [lastSignificant, none, Option.none_or]

theorem lastSignificant_split (previous : Option Token) (front : List Token) {layout : List Token}
    {token : Token} (significant : token.category.isSignificant = true)
    (onlyLayout : ∀ other ∈ layout, other.isLayout = true) :
    lastSignificant previous (front ++ token :: layout) = some token := by
  rw [← List.singleton_append, lastSignificant_append, lastSignificant_append,
    lastSignificant_of_layout _ onlyLayout, lastSignificant_singleton, if_pos significant]

namespace RuleTable

end RuleTable

end SqlLint
