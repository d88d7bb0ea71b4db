import DocumentStore.Conversion
import DocumentStore.Settings.Basic

/-!
# Database addresses

The address of a database, taken from settings and from overrides for one connection. Addresses
belong to a library of their own: it changes parts of one and writes it with its password hidden.
`UrlLibrary` is what is asked of that library and what is relied on; which overrides are changes,
and when there is anything to change, is decided here.
-/

set_option autoImplicit false

namespace DocumentStore

/-- The address of a database. A port and a password are kept as they were given. -/
structure DatabaseUrl where
  user : String
  password : Option Value
  host : String
  port : Value
  database : String

namespace DatabaseUrl

/-- The address that settings give. -/
def ofSettings (s : Settings) : DatabaseUrl :=
  ⟨s.user, s.password.map .text, s.host, .int s.port, s.database⟩

/-- An address with another password, or without one. -/
def withPassword (url : DatabaseUrl) (password : Option Value) : DatabaseUrl :=
  { url with password := password }

/-- An address with asterisks for its password, if it has one. -/
def masked (url : DatabaseUrl) : DatabaseUrl :=
  url.withPassword (url.password.map fun _ => .text "***")

end DatabaseUrl

/-- Parts of an address that are to be changed. -/
structure UrlChanges where
  user : Option Value
  password : Option Value
  host : Option Value
  port : Option Value
  database : Option Value

namespace UrlChanges

/-- Nothing to change. -/
def nothing : UrlChanges := ⟨none, none, none, none, none⟩

/-- Whether there is nothing to change. -/
def isNothing (c : UrlChanges) : Bool :=
  c.user.isNone && c.password.isNone && c.host.isNone && c.port.isNone && c.database.isNone

/-- Changes with another password, or without one. -/
def withPassword (c : UrlChanges) (password : Option Value) : UrlChanges :=
  { c with password := password }

end UrlChanges

/-- The functions of a library for addresses, and what is relied on of them. -/
structure UrlLibrary where
  /-- An address with some of its parts changed. -/
  set : DatabaseUrl → UrlChanges → Except Fault DatabaseUrl
  /-- An address as a text, its password hidden. -/
  text : DatabaseUrl → Except Fault String
  /-- Without changes an address stays as it is. -/
  set_nothing : ∀ url, set url .nothing = .ok url
  /-- A password is taken as it is given and plays no part in the rest. -/
  set_password : ∀ url c, set url c =
    (fun changed => changed.withPassword (c.password.or url.password)) <$>
      set (url.withPassword none) (c.withPassword none)
  /-- A port that is no integer is refused. -/
  set_port : ∀ url c v fault, c.port = some v → v.integer = .error fault →
    ∃ refusal, set url c = .error refusal
  /-- A hidden password shows as asterisks. -/
  text_masked : ∀ url, text url.masked = text url
  /-- An address has a text when its port has one. -/
  text_ok : ∀ url, url.port.writable = true → ∃ t, text url = .ok t

/-! ## Overrides -/

namespace DatabaseUrl

/-- An override that is there and not null. -/
def override? (overrides : Entries) (key : String) : Option Value :=
  (Entries.getText? overrides key).filter fun v => !v.isNull

/-- What overrides change. Unknown ones and null ones are passed over. -/
def changesOf (overrides : Entries) : UrlChanges where
  user := override? overrides "user"
  password := override? overrides "password"
  host := override? overrides "host"
  port := override? overrides "port"
  database := override? overrides "database"

/-- The name that no override can have. -/
def takenName : String := "self"

/-- Fails for overrides that cannot be given. -/
def ensureOverrides (overrides : Entries) : Except Fault Unit :=
  Entries.ensureNamed [takenName] overrides

/-- The address of a connection. -/
def build (urls : UrlLibrary) (s : Settings) (overrides : Entries) : Except Fault DatabaseUrl := do
  ensureOverrides overrides
  if (changesOf overrides).isNothing then return ofSettings s
  else urls.set (ofSettings s) (changesOf overrides)

end DatabaseUrl

end DocumentStore
