import DocumentStore.DatabaseUrl
import DocumentStore.Text.Utf8

/-!
# Percent-encoded addresses

A library for addresses. User, host and database must be texts, a port anything that an integer can
be read from, and a password anything at all. User, password and database are written in
percent-encoded form, the database keeping its slashes. A password is written or hidden behind
asterisks; nothing else of it shows.
-/

set_option autoImplicit false

namespace DocumentStore

namespace DatabaseUrl

/-! ## Changing parts -/

/-- A part that must be a text. -/
def textPart (part current : String) : Option Value → Except Fault String
  | none => .ok current
  | some (.text s) => .ok s
  | some _ => .error (.kind (.urlPart part))

/-- A port: anything that an integer can be read from. -/
def portPart (current : Value) : Option Value → Except Fault Value
  | none => .ok current
  | some v =>
    match v.integer with
    | .ok _ => .ok v
    | .error (.kind _) => .error (.kind .urlPort)
    | .error fault => .error fault

/-- An address with some of its parts changed. -/
def set (url : DatabaseUrl) (c : UrlChanges) : Except Fault DatabaseUrl := do
  let user ← textPart "username" url.user c.user
  let host ← textPart "host" url.host c.host
  let database ← textPart "database" url.database c.database
  let port ← portPart url.port c.port
  return ⟨user, c.password.or url.password, host, port, database⟩

/-! ## Text -/

/-- Whether a byte stands for itself in a user name or a password. -/
def isPlainByte (b : UInt8) : Bool :=
  let c := Char.ofNat b.toNat
  c.isAlphanum || ['_', '.', '-', '~', ' ', '+'].contains c

/-- Whether a byte stands for itself in the name of a database: a slash does too. -/
def isPathByte (b : UInt8) : Bool := isPlainByte b || b == 0x2F

/-- One byte, escaped unless it is one of those that stand for themselves. -/
def encodeByte (plain : UInt8 → Bool) (b : UInt8) : List Char :=
  if plain b then [Char.ofNat b.toNat]
  else '%' :: (Text.hex 2 b.toNat).map Char.toUpper

/-- A text with all bytes of its UTF-8 form escaped but those that stand for themselves. -/
def percentEncode (plain : UInt8 → Bool) (s : String) : List Char :=
  (Text.Utf8.encode s).flatMap (encodeByte plain)

/-- How a password shows in an address. -/
inductive Shown where
  | plain
  | hidden
deriving DecidableEq, Repr

/-- The password with the colon in front of it. -/
def passwordText (shown : Shown) : Option Value → Except Fault (List Char)
  | none => .ok []
  | some v =>
    match shown with
    | .plain => v.shown.map fun password => ':' :: percentEncode isPlainByte password
    | .hidden => .ok (':' :: ['*', '*', '*'])

/-- The host, in brackets when it holds a colon. -/
def hostText (host : String) : List Char :=
  if host.toList.contains ':' then '[' :: host.toList ++ [']'] else host.toList

/-- The text of an address. -/
def text (shown : Shown) (url : DatabaseUrl) : Except Fault String := do
  let password ← passwordText shown url.password
  let port ← url.port.shown
  return String.ofList ("postgresql+asyncpg://".toList ++ percentEncode isPlainByte url.user ++
    password ++ '@' :: hostText url.host ++ ':' :: port.toList ++
    '/' :: percentEncode isPathByte url.database)

end DatabaseUrl

/-- The library of percent-encoded addresses. -/
def UrlLibrary.percentEncoding : UrlLibrary where
  set := DatabaseUrl.set
  text := DatabaseUrl.text .hidden
  set_nothing _ := rfl
  set_password url c := by
    rw [DatabaseUrl.set, DatabaseUrl.set]
    simp only [map_bind, map_pure]
    rfl
  set_port url c v fault hport hv := by
    have hrefused : ∃ refusal, DatabaseUrl.portPart url.port c.port = .error refusal := by
      rw [hport, DatabaseUrl.portPart, hv]
      cases fault <;> exact ⟨_, rfl⟩
    obtain ⟨refusal, hrefusal⟩ := hrefused
    rw [DatabaseUrl.set, hrefusal]
    -- the other parts are looked at first
    cases DatabaseUrl.textPart "username" url.user c.user <;>
      cases DatabaseUrl.textPart "host" url.host c.host <;>
      cases DatabaseUrl.textPart "database" url.database c.database <;>
      exact ⟨_, rfl⟩
  text_masked url := by
    obtain ⟨user, password, host, port, database⟩ := url
    cases password <;> rfl
  text_ok url h := by
    have hport : url.port.shown = .ok url.port.display := if_pos h
    rw [DatabaseUrl.text, hport]
    cases url.password <;> exact ⟨_, rfl⟩

end DocumentStore
