/-!
# Occurrence of one text in another

`occursIn` looks for a text as a contiguous part of another one.
-/

set_option autoImplicit false

namespace DocumentStore.Text

/-- Whether the first text is a contiguous part of the second. -/
def occursIn (part : List Char) : List Char → Bool
  | [] => part.isEmpty
  | c :: cs => part.isPrefixOf (c :: cs) || occursIn part cs

/-- The search finds exactly the contiguous parts. -/
theorem occursIn_iff (part : List Char) (cs : List Char) :
    occursIn part cs = true ↔ part <:+: cs := by
  induction cs with
  | nil => simp [occursIn]
  | cons c cs ih => simp [occursIn, ih, List.infix_cons_iff]

end DocumentStore.Text
