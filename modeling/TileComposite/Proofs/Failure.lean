/-! Steps that can fail. A chain of them succeeds with what each of them gives, and fails with a
failure of one of them. -/
namespace TileComposite

theorem Except.ok_of_bind {m : Except ε α} {f : α → Except ε β} {b : β}
    (bound : (m >>= f) = .ok b) : ∃ a, m = .ok a ∧ f a = .ok b := by
  cases m with
  | error e => cases bound
  | ok a => exact ⟨a, rfl, bound⟩

/-- All failures of the computation are of a kind. -/
def Raises (m : Except ε α) (kind : ε → Prop) : Prop := ∀ e, m = .error e → kind e

theorem Raises.bind {m : Except ε α} {f : α → Except ε β} {kind : ε → Prop}
    (first : Raises m kind) (second : ∀ a, m = .ok a → Raises (f a) kind) :
    Raises (m >>= f) kind := by
  intro e failed
  cases m with
  | error e' =>
    cases failed
    exact first e rfl
  | ok a => exact second a rfl e failed

theorem Raises.mono {m : Except ε α} {kind kind' : ε → Prop} (raises : Raises m kind)
    (weaker : ∀ e, kind e → kind' e) : Raises m kind' := fun e failed => weaker e (raises e failed)

theorem mapError_raises (m : Except δ α) (f : δ → ε) :
    Raises (m.mapError f) fun e => ∃ cause, e = f cause := by
  intro e failed
  cases m with
  | ok a => cases failed
  | error cause =>
    cases failed
    exact ⟨cause, rfl⟩

theorem forM_cases (check : α → Except ε Unit) (xs : List α) :
    ((∀ x ∈ xs, check x = .ok ()) ∧ xs.forM check = .ok ()) ∨
    ∃ x ∈ xs, ∃ e, check x = .error e ∧ xs.forM check = .error e := by
  induction xs with
  | nil => exact .inl ⟨nofun, rfl⟩
  | cons x xs ih =>
    have step : (x :: xs).forM check = check x >>= fun _ => xs.forM check := rfl
    rw [step]
    cases first : check x with
    | error e => exact .inr ⟨x, List.mem_cons_self, e, first, rfl⟩
    | ok =>
      obtain ⟨all, passes⟩ | ⟨y, later, e, fails, failed⟩ := ih
      · exact .inl ⟨List.forall_mem_cons.mpr ⟨first, all⟩, passes⟩
      · exact .inr ⟨y, List.mem_cons_of_mem x later, e, fails, failed⟩

end TileComposite
