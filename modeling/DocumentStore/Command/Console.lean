import DocumentStore.Text.Control

/-!
# Consoles

A command hands its lines to a console, which may leave out the control sequences of a terminal.
What is relied on is that a text without escape characters shows as it is.
-/

set_option autoImplicit false

namespace DocumentStore.Command

/-- Where the lines of a command show, and what is relied on of it. -/
structure Console where
  /-- What shows of a text. -/
  shown : String → String
  /-- A text without escape characters shows as it is. -/
  shown_plain : ∀ text, '\x1b' ∉ text.toList → shown text = text

/-- A console that leaves out control sequences. -/
def Console.withoutSequences : Console where
  shown := Text.withoutSequences
  shown_plain text h := by
    rw [Text.withoutSequences, Text.dropSequences_eq_self h, String.ofList_toList]

end DocumentStore.Command
