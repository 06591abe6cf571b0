/-!
# Outcomes that succeed

A computation in steps succeeds exactly if each of its steps does. These laws take such a
computation apart at its steps, and compare two computations step by step.
-/

namespace FactoryBundler.Except

variable {ε ε' α β : Type} {outcome : Except ε α}

theorem bind_eq_ok_iff {next : α → Except ε β} {result : β} :
    (outcome >>= next) = .ok result ↔ ∃ a, outcome = .ok a ∧ next a = .ok result := by
  cases outcome with
  | error fault => simp [bind, Except.bind]
  | ok a => simp [bind, Except.bind]

theorem bind_eq_error_iff {next : α → Except ε β} {fault : ε} :
    (outcome >>= next) = .error fault ↔
      outcome = .error fault ∨ ∃ a, outcome = .ok a ∧ next a = .error fault := by
  cases outcome with
  | error fault => simp [bind, Except.bind]
  | ok a => simp [bind, Except.bind]

@[simp]
theorem mapError_ok (f : ε → ε') (a : α) : (.ok a : Except ε α).mapError f = .ok a := rfl

theorem mapError_eq_ok_iff {f : ε → ε'} {result : α} :
    outcome.mapError f = .ok result ↔ outcome = .ok result := by
  cases outcome with
  | error fault =>
      show Except.error (f fault) = .ok result ↔ Except.error fault = .ok result
      simp
  | ok a => simp

theorem mapError_eq_error_iff {f : ε → ε'} {fault' : ε'} :
    outcome.mapError f = .error fault' ↔ ∃ fault, outcome = .error fault ∧ f fault = fault' := by
  cases outcome with
  | error fault =>
      show Except.error (f fault) = .error fault' ↔ _
      simp
  | ok a => simp

theorem bind_pure_eq_map (f : α → β) :
    (outcome >>= fun a => pure (f a)) = outcome.map f := by
  cases outcome <;> rfl

theorem map_map {γ : Type} (f : α → β) (g : β → γ) :
    (outcome.map f).map g = outcome.map fun a => g (f a) := by
  cases outcome <;> rfl

theorem map_eq_ok_iff {f : α → β} {result : β} :
    outcome.map f = .ok result ↔ ∃ a, outcome = .ok a ∧ f a = result := by
  cases outcome with
  | error fault => simp [Except.map]
  | ok a => simp [Except.map]

theorem map_eq_error_iff {f : α → β} {fault : ε} :
    outcome.map f = .error fault ↔ outcome = .error fault := by
  cases outcome <;> simp [Except.map]

theorem exists_map_eq_ok_iff {f : α → β} :
    (∃ result, outcome.map f = .ok result) ↔ ∃ a, outcome = .ok a := by
  cases outcome with
  | error fault => simp [Except.map]
  | ok a => simp [Except.map]

/-- The fault of a computation that fails. -/
def fault? : Except ε α → Option ε
  | .ok _ => none
  | .error fault => some fault

theorem fault?_eq_some_iff {fault : ε} : fault? outcome = some fault ↔ outcome = .error fault := by
  cases outcome with
  | error other => simp [fault?]
  | ok a => simp [fault?]

theorem toOption_eq_some_iff {a : α} : outcome.toOption = some a ↔ outcome = .ok a := by
  cases outcome with
  | error fault => simp [Except.toOption]
  | ok b => simp [Except.toOption]

/-- A computation that fails does not succeed as well. -/
theorem not_ok_of_error {fault : ε} (fails : outcome = .error fault) :
    ¬ ∃ a, outcome = .ok a := by
  rintro ⟨a, succeeds⟩
  cases fails.symm.trans succeeds

theorem not_error_of_ok {a : α} (succeeds : outcome = .ok a) :
    ¬ ∃ fault, outcome = .error fault :=
  fun ⟨_, fails⟩ => not_ok_of_error fails ⟨a, succeeds⟩

/-! ## Two computations -/

/-- Two computations come out alike: both succeed and their results are related, or both fail. The
faults are the same if `strict` holds and may differ otherwise. -/
inductive Agree (strict : Prop) (r : α → β → Prop) : Except ε α → Except ε β → Prop
  | ok {a : α} {b : β} (related : r a b) : Agree strict r (.ok a) (.ok b)
  | error {fault fault' : ε} (same : strict → fault = fault') :
      Agree strict r (.error fault) (.error fault')

namespace Agree

variable {strict : Prop} {γ δ : Type} {r : α → β → Prop} {q : γ → δ → Prop}
  {first : Except ε α} {second : Except ε β}

/-- Steps that agree, followed by steps that agree on related results. -/
theorem bind {next : α → Except ε γ} {next' : β → Except ε δ} (agree : Agree strict r first second)
    (later : ∀ a b, r a b → Agree strict q (next a) (next' b)) :
    Agree strict q (first >>= next) (second >>= next') := by
  cases agree with
  | ok related => exact later _ _ related
  | error same => exact .error same

theorem mapError (agree : Agree strict r first second) (f : ε → ε') :
    Agree strict r (first.mapError f) (second.mapError f) := by
  cases agree with
  | ok related => exact .ok related
  | error same => exact .error fun isStrict => congrArg f (same isStrict)

theorem imp {r' : α → β → Prop} (agree : Agree strict r first second)
    (related : ∀ a b, r a b → r' a b) : Agree strict r' first second := by
  cases agree with
  | ok here => exact .ok (related _ _ here)
  | error same => exact .error same

theorem refl {r : α → α → Prop} (reflexive : ∀ a, r a a) (outcome : Except ε α) :
    Agree strict r outcome outcome := by
  cases outcome with
  | error fault => exact .error fun _ => rfl
  | ok a => exact .ok (reflexive a)

theorem of_eq {other : Except ε α} (equal : outcome = other) : Agree strict Eq outcome other :=
  equal ▸ refl (fun _ => rfl) outcome

theorem trans {other another : Except ε α} (agree : Agree strict Eq outcome other)
    (further : Agree strict Eq other another) : Agree strict Eq outcome another := by
  cases agree with
  | ok same =>
      subst same
      exact further
  | error same =>
      cases further with
      | error same' => exact .error fun isStrict => (same isStrict).trans (same' isStrict)

/-- Computations that agree strictly come out the same. -/
theorem eq {other : Except ε α} (agree : Agree True Eq outcome other) : outcome = other := by
  cases agree with
  | ok same => exact congrArg Except.ok same
  | error same => exact congrArg Except.error (same trivial)

/-- Computations that agree have the same result or both have none. -/
theorem toOption_eq {other : Except ε α} (agree : Agree strict Eq outcome other) :
    outcome.toOption = other.toOption := by
  cases agree with
  | ok same => exact congrArg some same
  | error same => rfl

end Agree

end FactoryBundler.Except
