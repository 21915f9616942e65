/-!
# Computations that may fail

A chain of computations succeeds if each of them does, with what the one before it
found.
-/

namespace AtLeastOnce

theorem bind_eq_ok {ε α β : Type} {first : Except ε α} {next : α → Except ε β} {result : β} :
    first >>= next = .ok result ↔ ∃ value, first = .ok value ∧ next value = .ok result := by
  cases first <;> simp [bind, Except.bind]

theorem map_eq_ok {ε α β : Type} {first : Except ε α} {change : α → β} {result : β} :
    first.map change = .ok result ↔ ∃ value, first = .ok value ∧ change value = result := by
  cases first <;> simp [Except.map]

theorem toOption_eq_some {ε α : Type} {result : Except ε α} {value : α} :
    result.toOption = some value ↔ result = .ok value := by
  cases result with
  | error | ok => simp [Except.toOption]

theorem eq_ok_getD {ε α : Type} {result : Except ε α} {fallback : α}
    (success : result.toOption.isSome = true) :
    result = .ok (result.toOption.getD fallback) := by
  cases result with
  | error => cases success
  | ok => rfl

end AtLeastOnce
