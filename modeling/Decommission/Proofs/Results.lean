/-!
# Results

What a computation that can fail has done if it has a result.
-/

namespace Decommission

theorem bind_eq_ok {ε α β : Type} {first : Except ε α} {next : α → Except ε β} {result : β}
    (hbind : first >>= next = .ok result) :
    ∃ value, first = .ok value ∧ next value = .ok result := by
  cases first with
  | error _ => cases hbind
  | ok value => exact ⟨value, rfl, hbind⟩

theorem ok_of_toOption {ε α : Type} {result : Except ε α} {value : α}
    (hresult : result.toOption = some value) : result = .ok value := by
  cases result with
  | error _ => cases hresult
  | ok other =>
      cases hresult
      rfl

end Decommission
