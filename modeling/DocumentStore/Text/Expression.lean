/-!
# Flags of regular expressions

A regular expression can set flags for itself: groups such as `(?im)` at its start, with comments,
and with blanks once the verbose flag is set, between them. `Expression.flags` collects them.
-/

set_option autoImplicit false

namespace DocumentStore.Text.Expression

/-- The flags that an expression can set for itself. -/
inductive Flag where
  | template
  | ignoreCase
  | multiline
  | dotAll
  | unicode
  | verbose
  | ascii
deriving DecidableEq, Repr

namespace Flag

/-- The flag of a letter. -/
def ofLetter? (c : Char) : Option Flag :=
  if c = 't' then some .template
  else if c = 'i' then some .ignoreCase
  else if c = 'm' then some .multiline
  else if c = 's' then some .dotAll
  else if c = 'u' then some .unicode
  else if c = 'x' then some .verbose
  else if c = 'a' then some .ascii
  else none

/-- The name under which a flag shows. The unicode flag is the rule and does not show. -/
def shown? : Flag → Option String
  | .template => some "re.TEMPLATE"
  | .ignoreCase => some "re.IGNORECASE"
  | .multiline => some "re.MULTILINE"
  | .dotAll => some "re.DOTALL"
  | .unicode => none
  | .verbose => some "re.VERBOSE"
  | .ascii => some "re.ASCII"

/-- All flags in the order in which they show. -/
def all : List Flag := [.template, .ignoreCase, .multiline, .dotAll, .unicode, .verbose, .ascii]

end Flag

/-- Where a reader of flags is: between groups, in a comment group, in a remark up to the end of its
line, or behind letters of a group. -/
inductive Place where
  | between
  | comment
  | remark
  | letters (flags : List Flag)

/-- Whether a verbose expression passes a character over. -/
def isGap (c : Char) : Bool :=
  c = ' ' || c = '\t' || c = '\n' || c = '\r' || c = '\x0b' || c = '\x0c'

/-- The flags of an expression from a place on, beside those that are set already. A backslash takes
the next character out of consideration. -/
def flagsFrom (set : List Flag) : Place → List Char → List Flag
  | _, [] => set
  | .between, '(' :: '?' :: '#' :: cs => flagsFrom set .comment cs
  | .between, '(' :: '?' :: cs => flagsFrom set (.letters []) cs
  | .between, c :: cs =>
    if set.contains .verbose then
      if isGap c then flagsFrom set .between cs
      else if c = '#' then flagsFrom set .remark cs
      else set
    else set
  | .comment, '\\' :: _ :: cs => flagsFrom set .comment cs
  | .comment, c :: cs => flagsFrom set (if c = ')' then .between else .comment) cs
  | .remark, '\\' :: _ :: cs => flagsFrom set .remark cs
  | .remark, c :: cs => flagsFrom set (if c = '\n' then .between else .remark) cs
  | .letters flags, c :: cs =>
    if c = ')' then flagsFrom (set ++ flags) .between cs
    else
      match Flag.ofLetter? c with
      | some f => flagsFrom set (.letters (flags ++ [f])) cs
      | none => set

/-- The flags that an expression sets for itself, in the order in which they show. -/
def flags (source : List Char) : List Flag :=
  Flag.all.filter fun f => (flagsFrom [] .between source).contains f

/-- The names of the flags of an expression. -/
def flagNames (source : List Char) : List String := (flags source).filterMap Flag.shown?

end DocumentStore.Text.Expression
