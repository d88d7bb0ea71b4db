/-!
# Control sequences

A terminal takes `ESC [`, parameter characters, intermediate characters and one final character for
a command. `withoutSequences` takes such sequences out of a text that does not go to a terminal. An
escape character that begins none is kept.
-/

set_option autoImplicit false

namespace DocumentStore.Text

/-- Whether a character is a parameter of a control sequence. -/
def isParameter (c : Char) : Bool := '0' ≤ c && c ≤ '?'

/-- Whether a character stands between the parameters and the end of a control sequence. -/
def isIntermediate (c : Char) : Bool := ' ' ≤ c && c ≤ '/'

/-- Whether a character ends a control sequence. -/
def isFinal (c : Char) : Bool := '@' ≤ c && c ≤ '~'

/-- The length of the control sequence at the start of a text, zero when there is none. -/
def sequenceLength : List Char → Nat
  | '\x1b' :: '[' :: rest =>
    let body := rest.dropWhile isParameter
    match body.dropWhile isIntermediate with
    | [] => 0
    | c :: after => if isFinal c then rest.length + 2 - after.length else 0
  | _ => 0

/-- A text without its control sequences, `skip` further characters being part of one. -/
def dropSequences : Nat → List Char → List Char
  | _, [] => []
  | skip + 1, _ :: cs => dropSequences skip cs
  | 0, c :: cs =>
    match sequenceLength (c :: cs) with
    | 0 => c :: dropSequences 0 cs
    | n + 1 => dropSequences n cs

/-- Only an escape character begins a control sequence. -/
theorem sequenceLength_cons {c : Char} (h : c ≠ '\x1b') (cs : List Char) :
    sequenceLength (c :: cs) = 0 := by
  unfold sequenceLength
  split
  · rename_i rest heq
    exact absurd (List.cons.inj heq).1 h
  · rfl

/-- A text without escape characters is left alone. -/
theorem dropSequences_eq_self {cs : List Char} (h : '\x1b' ∉ cs) : dropSequences 0 cs = cs := by
  induction cs with
  | nil => rfl
  | cons c cs ih =>
    rw [List.mem_cons, not_or] at h
    rw [dropSequences, sequenceLength_cons (Ne.symm h.1), ih h.2]

/-- A text without its control sequences. -/
def withoutSequences (s : String) : String := String.ofList (dropSequences 0 s.toList)

end DocumentStore.Text
