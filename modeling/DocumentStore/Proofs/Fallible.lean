import DocumentStore.Fault
import Mathlib.Data.List.Forall2

/-!
# Computations that may fail

How a computation in `Except` comes to a result: a sequence succeeds when each of its parts does,
and a list is mapped when each of its items is.
-/

set_option autoImplicit false

namespace DocumentStore.Fallible

variable {ε α β γ : Type}

/-- Two results of one computation are the same. -/
theorem result_unique {x : Except ε α} {a b : α} (ha : x = .ok a) (hb : x = .ok b) : a = b :=
  Except.ok.inj (ha.symm.trans hb)

/-- A result that passes a check is there. -/
theorem exists_of_check {x : Except ε α} {check : α → Bool} (h : x.toOption.any check = true) :
    ∃ a, x = .ok a ∧ check a = true := by
  cases x with
  | error e => cases h
  | ok a => exact ⟨a, rfl, h⟩

/-- A sequence has a result when its first part has one and the rest has one from there. -/
theorem bind_eq_ok {x : Except ε α} {f : α → Except ε β} {b : β} :
    (x >>= f) = .ok b ↔ ∃ a, x = .ok a ∧ f a = .ok b := by
  cases x with
  | error e => exact ⟨fun h => (nomatch h), fun ⟨_, h, _⟩ => (nomatch h)⟩
  | ok a => exact ⟨fun h => ⟨a, rfl, h⟩, fun ⟨_, ha, h⟩ => by cases ha; exact h⟩

/-- A sequence fails when its first part fails, or when the rest fails from the result of that. -/
theorem bind_eq_error {x : Except ε α} {f : α → Except ε β} {e : ε} :
    (x >>= f) = .error e ↔ x = .error e ∨ ∃ a, x = .ok a ∧ f a = .error e := by
  cases x with
  | error e' =>
    constructor
    · intro h
      cases h
      exact .inl rfl
    · rintro (h | ⟨_, h, -⟩)
      · cases h
        rfl
      · cases h
  | ok a =>
    constructor
    · intro h
      exact .inr ⟨a, rfl, h⟩
    · rintro (h | ⟨_, ha, h⟩)
      · cases h
      · cases ha
        exact h

/-- A changed result comes from a result. -/
theorem map_eq_ok {x : Except ε α} {f : α → β} {b : β} :
    x.map f = .ok b ↔ ∃ a, x = .ok a ∧ f a = b := by
  cases x with
  | error e => exact ⟨fun h => (nomatch h), fun ⟨_, h, _⟩ => (nomatch h)⟩
  | ok a =>
    constructor
    · intro h
      exact ⟨a, rfl, by simpa [Except.map] using h⟩
    · rintro ⟨_, ha, rfl⟩
      cases ha
      rfl

/-- A changed result fails when the result does. -/
theorem map_eq_error {x : Except ε α} {f : α → β} {e : ε} : x.map f = .error e ↔ x = .error e := by
  cases x with
  | error e' =>
    constructor
    · intro h
      cases h
      rfl
    · intro h
      cases h
      rfl
  | ok a => exact ⟨fun h => (nomatch h), fun h => (nomatch h)⟩

/-- A list is mapped when its first item and the others are. -/
theorem mapM_cons_eq_ok {f : α → Except ε β} {x : α} {xs : List α} {ys : List β} :
    (x :: xs).mapM f = .ok ys ↔ ∃ y rest, f x = .ok y ∧ xs.mapM f = .ok rest ∧ ys = y :: rest := by
  rw [List.mapM_cons, bind_eq_ok]
  constructor
  · rintro ⟨y, hy, h⟩
    obtain ⟨rest, hrest, hys⟩ := bind_eq_ok.1 h
    cases hys
    exact ⟨y, rest, hy, hrest, rfl⟩
  · rintro ⟨y, rest, hy, hrest, rfl⟩
    exact ⟨y, hy, bind_eq_ok.2 ⟨rest, hrest, rfl⟩⟩

/-- A list is mapped when every item is, in order. -/
theorem mapM_eq_ok {f : α → Except ε β} {xs : List α} {ys : List β} :
    xs.mapM f = .ok ys ↔ List.Forall₂ (fun x y => f x = .ok y) xs ys := by
  induction xs generalizing ys with
  | nil =>
    constructor
    · intro h
      cases h
      exact .nil
    · intro h
      cases h
      rfl
  | cons x xs ih =>
    rw [mapM_cons_eq_ok]
    constructor
    · rintro ⟨y, rest, hy, hrest, rfl⟩
      exact .cons hy (ih.1 hrest)
    · intro h
      cases h with
      | cons hy hrest => exact ⟨_, _, hy, ih.2 hrest, rfl⟩

/-- Mapping a list keeps its length. -/
theorem length_of_mapM {f : α → Except ε β} {xs : List α} {ys : List β} (h : xs.mapM f = .ok ys) :
    ys.length = xs.length :=
  (mapM_eq_ok.1 h).length_eq.symm

/-- Every item of a mapped list has a result. -/
theorem exists_of_mapM {f : α → Except ε β} {xs : List α} {ys : List β} (h : xs.mapM f = .ok ys)
    {x : α} (hx : x ∈ xs) : ∃ y ∈ ys, f x = .ok y := by
  induction xs generalizing ys with
  | nil => exact absurd hx List.not_mem_nil
  | cons a xs ih =>
    obtain ⟨y, rest, hy, hrest, rfl⟩ := mapM_cons_eq_ok.1 h
    rcases List.mem_cons.1 hx with rfl | hx
    · exact ⟨y, List.mem_cons_self, hy⟩
    · obtain ⟨z, hz, hfz⟩ := ih hrest hx
      exact ⟨z, List.mem_cons_of_mem y hz, hfz⟩

/-- Every result of a mapped list is that of an item. -/
theorem exists_of_mem_mapM {f : α → Except ε β} {xs : List α} {ys : List β} (h : xs.mapM f = .ok ys)
    {y : β} (hy : y ∈ ys) : ∃ x ∈ xs, f x = .ok y := by
  induction xs generalizing ys with
  | nil =>
    cases h
    exact absurd hy List.not_mem_nil
  | cons a xs ih =>
    obtain ⟨z, rest, hz, hrest, rfl⟩ := mapM_cons_eq_ok.1 h
    rcases List.mem_cons.1 hy with rfl | hy
    · exact ⟨a, List.mem_cons_self, hz⟩
    · obtain ⟨x, hx, hfx⟩ := ih hrest hy
      exact ⟨x, List.mem_cons_of_mem a hx, hfx⟩

/-- A list is mapped when each of its items has a result. -/
theorem exists_mapM {f : α → Except ε β} {xs : List α} (h : ∀ x ∈ xs, ∃ y, f x = .ok y) :
    ∃ ys, xs.mapM f = .ok ys := by
  induction xs with
  | nil => exact ⟨[], rfl⟩
  | cons x xs ih =>
    obtain ⟨⟨y, hy⟩, hxs⟩ := List.forall_mem_cons.1 h
    obtain ⟨ys, hys⟩ := ih hxs
    exact ⟨y :: ys, mapM_cons_eq_ok.2 ⟨y, ys, hy, hys, rfl⟩⟩

/-- A list is not mapped because of the first of its items that is not, for the same reason. -/
theorem split_of_mapM_eq_error {f : α → Except ε β} {xs : List α} {e : ε}
    (h : xs.mapM f = .error e) :
    ∃ earlier x later, xs = earlier ++ x :: later ∧ (∀ a ∈ earlier, ∃ b, f a = .ok b) ∧
      f x = .error e := by
  induction xs with
  | nil => cases h
  | cons x xs ih =>
    rw [List.mapM_cons] at h
    cases hx : f x with
    | error e' =>
      rw [hx] at h
      cases h
      exact ⟨[], x, xs, rfl, List.forall_mem_nil _, hx⟩
    | ok y =>
      rw [hx] at h
      cases hrest : xs.mapM f with
      | error e' =>
        simp only [hrest] at h
        cases h
        obtain ⟨earlier, z, later, rfl, hearlier, hz⟩ := ih hrest
        exact ⟨x :: earlier, z, later, rfl, List.forall_mem_cons.2 ⟨⟨y, hx⟩, hearlier⟩, hz⟩
      | ok ys =>
        simp only [hrest] at h
        cases h

/-- A list is not mapped because one of its items is not. -/
theorem exists_of_mapM_eq_error {f : α → Except ε β} {xs : List α} {e : ε}
    (h : xs.mapM f = .error e) : ∃ x ∈ xs, f x = .error e := by
  obtain ⟨earlier, x, later, rfl, -, hx⟩ := split_of_mapM_eq_error h
  exact ⟨x, by simp, hx⟩

/-- The results of a mapped list have the tags of its items when each has that of its own. -/
theorem map_of_mapM {f : α → Except ε β} {tag : α → γ} {tag' : β → γ}
    (htag : ∀ x y, f x = .ok y → tag' y = tag x) {xs : List α} {ys : List β}
    (h : xs.mapM f = .ok ys) : ys.map tag' = xs.map tag := by
  induction xs generalizing ys with
  | nil =>
    cases h
    rfl
  | cons x xs ih =>
    obtain ⟨y, rest, hy, hrest, rfl⟩ := mapM_cons_eq_ok.1 h
    rw [List.map_cons, List.map_cons, htag x y hy, ih hrest]

/-- A mapped list is mapped as well when each result is put beside a tag of its item. -/
theorem mapM_tagged {f : α → Except ε β} (tag : α → γ) {xs : List α} {ys : List β}
    (h : xs.mapM f = .ok ys) :
    ∃ zs, xs.mapM (fun x => (f x).map fun y => (tag x, y)) = .ok zs ∧
      zs.map Prod.fst = xs.map tag ∧ zs.map Prod.snd = ys := by
  induction xs generalizing ys with
  | nil =>
    cases h
    exact ⟨[], rfl, rfl, rfl⟩
  | cons x xs ih =>
    obtain ⟨y, rest, hy, hrest, rfl⟩ := mapM_cons_eq_ok.1 h
    obtain ⟨zs, hzs, htags, hresults⟩ := ih hrest
    refine ⟨(tag x, y) :: zs, mapM_cons_eq_ok.2 ⟨_, zs, map_eq_ok.2 ⟨y, hy, rfl⟩, hzs, rfl⟩, ?_, ?_⟩
    · rw [List.map_cons, htags]
      rfl
    · rw [List.map_cons, hresults]

end DocumentStore.Fallible
