import Mathlib.Data.List.FinRange
import Mathlib.Data.List.Perm.Basic
import TileComposite.Grid.Slot

/-! Shares of a list of units. Every position has one job that owns it, so that the shares
of all jobs together are the list, up to its order. -/
namespace TileComposite.Slot
variable {n : Nat}

theorem part_nonneg (j : Fin n) : 0 ≤ (j : Int) := Int.natCast_nonneg j

theorem part_lt (j : Fin n) : (j : Int) < n := Int.ofNat_lt.mpr j.isLt

theorem one_le_parts (j : Fin n) : 1 ≤ (n : Int) := Int.natCast_pos.mpr (Nat.zero_lt_of_lt j.isLt)

/-- The slot of one job among `n`. -/
def part (j : Fin n) : Slot := ⟨j, n, part_nonneg j, part_lt j⟩

theorem select_sublist (s : Slot) (units : List α) : (s.select units).Sublist units := by
  have kept : (s.select units).Sublist (units.zipIdx.map (·.1)) :=
    List.Sublist.map _ List.filter_sublist
  rwa [List.zipIdx_map_fst] at kept

/-- The only job owns everything. -/
theorem select_alone {s : Slot} (alone : s.count = 1) (units : List α) :
    s.select units = units := by
  have all : ∀ i : Nat, s.owns i = true := fun i => by
    have job : s.job = 0 := by
      have := s.job_nonneg
      have := s.job_lt
      omega
    rw [owns, alone, Int.emod_one, job]
    rfl
  have kept : units.zipIdx.filter (fun x => s.owns x.2) = units.zipIdx :=
    List.filter_eq_self.mpr fun x _ => all x.2
  exact (congrArg (List.map Prod.fst) kept).trans (List.zipIdx_map_fst 0 units)

theorem flatMap_owner (owner : Fin n) (x : α) :
    ((List.finRange n).flatMap fun j => if owner = j then [x] else []) = [x] := by
  obtain ⟨before, after, split⟩ := List.append_of_mem (List.mem_finRange owner)
  have distinct : (before ++ owner :: after).Nodup := split ▸ List.nodup_finRange n
  obtain ⟨notAfter, notBefore⟩ : owner ∉ after ∧ owner ∉ before := by
    rw [List.nodup_middle, List.nodup_cons, List.mem_append, not_or] at distinct
    exact distinct.1.symm
  have nothing : ∀ js : List (Fin n), owner ∉ js →
      (js.flatMap fun j => if owner = j then [x] else []) = [] := fun js apart => by
    refine List.flatMap_eq_nil_iff.mpr fun j member => if_neg ?_
    rintro rfl
    exact apart member
  rw [split, List.flatMap_append, List.flatMap_cons, nothing before notBefore,
    nothing after notAfter, if_pos rfl, List.append_nil, List.nil_append]

/-- Sorting a list by owners only changes its order. -/
theorem flatMap_filter_perm (owner : α → Fin n) (l : List α) :
    ((List.finRange n).flatMap fun j => l.filter fun x => owner x = j).Perm l := by
  induction l with
  | nil => simp
  | cons x l ih =>
    have split : ∀ j, (x :: l).filter (fun x => owner x = j) =
        (if owner x = j then [x] else []) ++ l.filter fun x => owner x = j := fun j => by
      by_cases mine : owner x = j <;> simp [mine]
    simp only [split]
    refine (List.flatMap_append_perm _ _ _).symm.trans ?_
    rw [flatMap_owner]
    exact ih.cons x

/-- The shares of all jobs make up the list. -/
theorem flatMap_select_perm (pos : 0 < n) (units : List α) :
    ((List.finRange n).flatMap fun j => (part j).select units).Perm units := by
  let owner (x : α × Nat) : Fin n := ⟨x.2 % n, Nat.mod_lt _ pos⟩
  have owned : ∀ (j : Fin n) (x : α × Nat), (part j).owns x.2 = decide (owner x = j) := by
    intro j x
    simp only [owns, part, owner, Fin.ext_iff]
    exact decide_eq_decide.mpr (by omega)
  have shares := (flatMap_filter_perm owner units.zipIdx).map Prod.fst
  rw [List.zipIdx_map_fst, List.map_flatMap] at shares
  simpa only [select, owned] using shares

end TileComposite.Slot
