/-!
When a computation that may fail succeeds.
-/

set_option autoImplicit false

namespace TypedQuery

variable {ε α β : Type}

instance exceptDecidableEq [DecidableEq ε] [DecidableEq α] : DecidableEq (Except ε α)
  | .error first, .error second => decidable_of_iff (first = second) ⟨congrArg _, Except.error.inj⟩
  | .ok first, .ok second => decidable_of_iff (first = second) ⟨congrArg _, Except.ok.inj⟩
  | .error _, .ok _ => .isFalse nofun
  | .ok _, .error _ => .isFalse nofun

theorem bind_ok_iff (first : Except ε α) (next : α → Except ε β) (result : β) :
    (first >>= next) = .ok result ↔ ∃ value, first = .ok value ∧ next value = .ok result := by
  cases first <;> simp [bind, Except.bind]

theorem then_ok_iff (check : Except ε Unit) (next : Except ε β) (result : β) :
    (check >>= fun _ => next) = .ok result ↔ check = .ok () ∧ next = .ok result := by
  cases check <;> simp [bind, Except.bind]

theorem map_ok_iff (outcome : Except ε α) (change : α → β) (result : β) :
    outcome.map change = .ok result ↔ ∃ value, outcome = .ok value ∧ change value = result := by
  cases outcome <;> simp [Except.map]

theorem map_error_ok_iff {φ : Type} (outcome : Except ε α) (change : ε → φ) (result : α) :
    outcome.mapError change = .ok result ↔ outcome = .ok result := by
  cases outcome with
  | error fault => exact ⟨nofun, nofun⟩
  | ok value =>
      constructor <;> intro same
      · exact congrArg Except.ok (Except.ok.inj same)
      · exact congrArg Except.ok (Except.ok.inj same)

theorem bind_error_iff (first : Except ε α) (next : α → Except ε β) (fault : ε) :
    (first >>= next) = .error fault ↔ first = .error fault ∨ ∃ value, first = .ok value ∧ next value = .error fault := by
  cases first <;> simp [bind, Except.bind]

theorem map_error_error_iff {φ : Type} (outcome : Except ε α) (change : ε → φ) (result : φ) :
    outcome.mapError change = .error result ↔ ∃ fault, outcome = .error fault ∧ change fault = result := by
  cases outcome with
  | error fault =>
      constructor
      · exact fun same => ⟨fault, rfl, Except.error.inj same⟩
      · rintro ⟨first, found, same⟩
        obtain rfl := Except.error.inj found
        exact congrArg Except.error same
  | ok value =>
      constructor
      · intro none
        cases none
      · rintro ⟨_, none, _⟩
        cases none

theorem bind_to_option (first : Except ε α) (next : α → Except ε β) :
    (first >>= next).toOption = first.toOption.bind fun value => (next value).toOption := by
  cases first <;> rfl

theorem map_to_option (outcome : Except ε α) (change : α → β) :
    (outcome.map change).toOption = outcome.toOption.map change := by
  cases outcome <;> rfl

theorem is_ok_iff (outcome : Except ε α) : outcome.isOk ↔ ∃ result, outcome = .ok result := by
  cases outcome <;> simp [Except.isOk, Except.toBool]

theorem is_error_iff (outcome : Except ε α) : outcome.isOk = false ↔ ∃ fault, outcome = .error fault := by
  cases outcome <;> simp [Except.isOk, Except.toBool]

theorem to_option_iff (outcome : Except ε α) (result : α) : outcome.toOption = some result ↔ outcome = .ok result := by
  cases outcome <;> simp [Except.toOption]

theorem ok_any_iff (outcome : Except ε α) (good : α → Bool) :
    outcome.toOption.any good ↔ ∃ result, outcome = .ok result ∧ good result := by
  cases outcome <;> simp [Except.toOption]

end TypedQuery
