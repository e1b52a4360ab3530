/-!
# Pieces of a text

`hasInfix p cs` says whether `p` occurs in `cs` as a contiguous piece. The empty piece occurs in
every text. `hasInfix_iff` ties it to the infix relation on lists.
-/

namespace UserDirectory.Text

def hasInfix {α : Type} [BEq α] (p cs : List α) : Bool :=
  match cs with
  | [] => p.isEmpty
  | c :: rest => p.isPrefixOf (c :: rest) || hasInfix p rest

theorem hasInfix_iff {α : Type} [BEq α] [LawfulBEq α] (p cs : List α) :
    hasInfix p cs = true ↔ p <:+: cs := by
  induction cs with
  | nil => cases p <;> simp [hasInfix]
  | cons c rest ih =>
    simp only [hasInfix, Bool.or_eq_true, ih, List.isPrefixOf_iff_prefix]
    constructor
    · rintro (h | h)
      · exact h.isInfix
      · exact h.trans (List.suffix_cons c rest).isInfix
    · intro h
      rcases List.infix_cons_iff.mp h with h | h
      · exact .inl h
      · exact .inr h

end UserDirectory.Text
