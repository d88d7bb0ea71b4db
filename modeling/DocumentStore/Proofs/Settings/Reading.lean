import DocumentStore.Proofs.Json.Trees
import DocumentStore.Settings.Reading

/-!
# Settings from the environment

The environment gives texts, and an integer that is read from a text has a numeral
(`Settings.isShort_of_numeral?`). So a port that comes from the environment, or is the standard one,
can be written (`Settings.writable_port`).
-/

set_option autoImplicit false

namespace DocumentStore.Settings

/-- An integer that is read from a numeral has one, zeros, underscores and a fraction left out. -/
theorem isShort_of_numeral? {s : String} {n : Int} (h : numeral? s = some n) :
    Text.Numeral.isShort n = true := by
  unfold numeral? at h
  dsimp only at h
  obtain ⟨_, -, h⟩ := Option.bind_eq_some_iff.1 h
  obtain ⟨_, -, h⟩ := Option.bind_eq_some_iff.1 h
  obtain ⟨ds, hds, h⟩ := Option.bind_eq_some_iff.1 h
  split at h
  · cases h
  cases h
  -- no digits are read but the ones that are counted
  unfold digits? at hds
  split at hds
  · next hintegral =>
    split at hds
    · next hlength =>
      cases hds
      exact Text.Numeral.isShort_withSign _ (Json.integral?_lt hintegral) hlength
    · cases hds
  · cases hds

theorem Reading.apply_eq_ok {α β : Type} {r : Reading (α → β)} {x : Reading α} {b : β} :
    Reading.apply r x = .ok b ↔ ∃ f a, r = .ok f ∧ x = .ok a ∧ f a = b := by
  cases r <;> cases x <;> simp [Reading.apply]

/-- A setting that is read from the environment is the standard one, or is read from a text. -/
theorem readOne_cases {α : Type} {env : Variables} {name : String} {of? : Value → Option α}
    {default a : α} (h : readOne env [] name of? default = .ok a) :
    a = default ∨ ∃ s, of? (.text s) = some a := by
  unfold readOne at h
  split at h
  · exact .inl (Except.ok.inj h).symm
  · next v hsource =>
    change (environmentValue? env name).map Value.text = some v at hsource
    obtain ⟨s, -, rfl⟩ := Option.map_eq_some_iff.1 hsource
    split at h
    · next hread => exact .inr ⟨s, by rw [hread, Except.ok.inj h]⟩
    · cases h

/-- The port of settings that are read from the environment can be written. -/
theorem writable_port {env : Variables} {s : Settings} (h : read env [] = .ok s) :
    (Value.int s.port).writable = true := by
  obtain ⟨-, -, h⟩ := Fallible.bind_eq_ok.1 h
  split at h
  swap
  · cases h
  next hall =>
  cases h
  simp only [readAll, Reading.apply_eq_ok] at hall
  -- six settings are read behind the port, and four in front of it
  obtain ⟨_, _, ⟨_, _, ⟨_, _, ⟨_, _, ⟨_, _, ⟨_, _, ⟨_, port, hfront, hport, rfl⟩, -, rfl⟩, -, rfl⟩,
    -, rfl⟩, -, rfl⟩, -, rfl⟩, -, rfl⟩ := hall
  obtain ⟨_, _, ⟨_, _, ⟨_, _, ⟨_, _, hmake, -, rfl⟩, -, rfl⟩, -, rfl⟩, -, rfl⟩ := hfront
  cases hmake
  have hstandard : (Value.int standard.port).writable = true := by decide
  rcases readOne_cases hport with rfl | ⟨text, htext⟩
  · exact hstandard
  · exact isShort_of_numeral? htext

end DocumentStore.Settings
