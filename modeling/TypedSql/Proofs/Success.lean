/-!
# Computations that succeed

A computation that may fail succeeds just when each of its steps does.
-/

namespace TypedSql

variable {ε α β : Type}

theorem bind_eq_ok_iff {first : Except ε α} {next : α → Except ε β}
    {result : β} :
    (first >>= next) = .ok result ↔
      ∃ found, first = .ok found ∧ next found = .ok result := by
  cases first <;> simp [bind, Except.bind]

theorem forM_eq_ok_iff {check : α → Except ε Unit} {items : List α} :
    items.forM check = .ok () ↔ ∀ item ∈ items, check item = .ok () := by
  induction items with
  | nil => exact ⟨nofun, fun _ => rfl⟩
  | cons item items induction =>
      rw [List.forall_mem_cons, ← induction]
      apply bind_eq_ok_iff.trans
      constructor
      · rintro ⟨_, both⟩
        exact both
      · intro both
        exact ⟨(), both⟩

theorem exists_eq_ok_of_isOk {outcome : Except ε α}
    (succeeds : outcome.isOk = true) : ∃ result, outcome = .ok result := by
  cases outcome with
  | ok result => exact ⟨result, rfl⟩
  | error failure => cases succeeds

theorem eq_ok_of_toOption {outcome : Except ε α} {result : α}
    (found : outcome.toOption = some result) : outcome = .ok result := by
  cases outcome with
  | ok other => exact congrArg Except.ok (Option.some.inj found)
  | error failure => cases found

end TypedSql
