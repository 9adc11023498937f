/-!
Readings one after another.

A reading gives a value or ends with an error, and the next one goes on with the value.
-/

namespace Rulebook

variable {ε δ α β : Type} {reading : Except ε α} {next : α → Except ε β} {change : ε → δ}

@[simp] theorem ok_bind (value : α) (next : α → Except ε β) :
    (Except.ok value >>= next) = next value := rfl

@[simp] theorem error_bind (error : ε) (next : α → Except ε β) :
    (Except.error error >>= next) = .error error := rfl

@[simp] theorem pure_eq_ok (value : α) : (pure value : Except ε α) = .ok value := rfl

theorem bind_eq_ok_iff {result : β} :
    reading >>= next = .ok result ↔ ∃ value, reading = .ok value ∧ next value = .ok result := by
  cases reading with
  | error error => exact iff_of_false nofun nofun
  | ok value =>
      constructor
      · exact fun h => ⟨value, rfl, h⟩
      · rintro ⟨_, ⟨⟩, h⟩
        exact h

theorem bind_eq_error_iff {error : ε} :
    reading >>= next = .error error ↔
      reading = .error error ∨ ∃ value, reading = .ok value ∧ next value = .error error := by
  cases reading with
  | error other =>
      constructor
      · rintro ⟨⟩
        exact .inl rfl
      · rintro (h | ⟨_, h, _⟩)
        · cases h
          rfl
        · cases h
  | ok value =>
      constructor
      · exact fun h => .inr ⟨value, rfl, h⟩
      · rintro (h | ⟨_, hvalue, h⟩)
        · cases h
        · cases hvalue
          exact h

@[simp] theorem mapError_eq_ok_iff {value : α} :
    reading.mapError change = .ok value ↔ reading = .ok value := by
  cases reading with
  | error cause => exact iff_of_false nofun nofun
  | ok other =>
      constructor
      · rintro ⟨⟩
        rfl
      · rintro ⟨⟩
        rfl

theorem mapError_eq_error_iff {error : δ} :
    reading.mapError change = .error error ↔
      ∃ cause, reading = .error cause ∧ change cause = error := by
  cases reading with
  | error cause =>
      constructor
      · rintro ⟨⟩
        exact ⟨cause, rfl, rfl⟩
      · rintro ⟨_, ⟨⟩, rfl⟩
        rfl
  | ok value =>
      constructor
      · rintro ⟨⟩
      · rintro ⟨_, ⟨⟩, _⟩

end Rulebook
