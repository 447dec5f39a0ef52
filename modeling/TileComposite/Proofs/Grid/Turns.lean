import Mathlib.Order.Lattice.Nat
import TileComposite.Proofs.Grid.Deal

/-! Dealing in turns. What a job owns stands at every `n`-th position of the list, from its own
number on. So taking from the shares in turn gives the list back in its order, and no two shares
differ by more than one element. -/
namespace TileComposite.Slot
variable {n : Nat}

/-! ### Positions of a share -/

/-- What a slot owns of a list whose first position is `start`. -/
def selectFrom (s : Slot) (start : Nat) (units : List α) : List α :=
  ((units.zipIdx start).filter fun (_, i) => s.owns i).map (·.1)

theorem owns_part (j : Fin n) (i : Nat) : (part j).owns i = true ↔ i % n = j := by
  change decide ((i : Int) % n = (j : Nat)) = true ↔ i % n = j
  rw [decide_eq_true_eq]
  exact_mod_cast Iff.rfl

theorem selectFrom_cons (s : Slot) (start : Nat) (x : α) (units : List α) :
    s.selectFrom start (x :: units) =
      if s.owns start then x :: s.selectFrom (start + 1) units
      else s.selectFrom (start + 1) units := by
  rw [selectFrom, List.zipIdx_cons, List.filter_cons]
  by_cases own : s.owns start = true
  · rw [if_pos own, if_pos own]
    rfl
  · rw [if_neg own, if_neg own]
    rfl

/-- The first element that a job owns is as far away as its next position, and the others follow
at every `n`-th place. -/
theorem getElem?_selectFrom (j : Fin n) (units : List α) (start away k : Nat) (near : away < n)
    (next : (start + away) % n = j) :
    ((part j).selectFrom start units)[k]? = units[away + k * n]? := by
  induction units generalizing start away k with
  | nil => rfl
  | cons x units ih =>
    rw [selectFrom_cons]
    cases away with
    | zero =>
      have own : (part j).owns start = true := (owns_part j start).mpr next
      rw [if_pos own, Nat.zero_add]
      cases k with
      | zero => rw [Nat.zero_mul]; rfl
      | succ k =>
        -- The next position of the job is a whole turn after this one.
        obtain ⟨m, rfl⟩ : ∃ m, n = m + 1 := ⟨n - 1, by omega⟩
        have turn : (start + 1 + m) % (m + 1) = j := by
          rw [Nat.add_assoc, Nat.add_comm 1 m, Nat.add_mod_right]
          exact next
        have place : (k + 1) * (m + 1) = m + k * (m + 1) + 1 := by
          rw [Nat.succ_mul]
          omega
        rw [List.getElem?_cons_succ, ih (start + 1) m k (Nat.lt_succ_self m) turn, place,
          List.getElem?_cons_succ]
    | succ away =>
      have other : ¬(part j).owns start = true := by
        rw [owns_part]
        intro own
        have whole : (start + (away + 1) - start) % n = 0 :=
          Nat.sub_mod_eq_zero_of_mod_eq (next.trans own.symm)
        rw [Nat.add_sub_cancel_left, Nat.mod_eq_of_lt near] at whole
        contradiction
      have closer : (start + 1 + away) % n = j := by
        rw [Nat.add_assoc, Nat.add_comm 1 away]
        exact next
      rw [if_neg other, ih (start + 1) away k (by omega) closer, Nat.add_right_comm,
        List.getElem?_cons_succ]

/-- The share of a job is every `n`-th element of the list, from the job's number on. -/
theorem getElem?_select (j : Fin n) (units : List α) (k : Nat) :
    ((part j).select units)[k]? = units[j + k * n]? :=
  getElem?_selectFrom j units 0 j k j.isLt (by rw [Nat.zero_add, Nat.mod_eq_of_lt j.isLt])

theorem lt_length_select (j : Fin n) (units : List α) (k : Nat) :
    k < ((part j).select units).length ↔ j + k * n < units.length := by
  rw [← Nat.not_le, ← List.getElem?_eq_none_iff, getElem?_select, List.getElem?_eq_none_iff,
    Nat.not_le]

/-! ### Turns -/

/-- What one turn takes: the element at a place of every share that has one. -/
def turn (shares : Fin n → List α) (k : Nat) : List α :=
  (List.finRange n).filterMap fun j => (shares j)[k]?

/-- Turns until no share has another element. -/
def rounds (shares : Fin n → List α) : Nat := Finset.univ.sup fun j => (shares j).length

/-- Takes from the shares in turn: first the first element of each, then the second of each, and
so on. -/
def alternate (shares : Fin n → List α) : List α :=
  (List.range (rounds shares)).flatMap (turn shares)

theorem length_le_rounds (shares : Fin n → List α) (j : Fin n) :
    (shares j).length ≤ rounds shares :=
  Finset.le_sup (f := fun j => (shares j).length) (Finset.mem_univ j)

theorem filterMap_getElem? (n : Nat) (units : List α) :
    ((List.finRange n).filterMap fun j : Fin n => units[(j : Nat)]?) = units.take n := by
  induction n generalizing units with
  | zero => rfl
  | succ n ih =>
    rw [List.finRange_succ, List.filterMap_cons, List.filterMap_map]
    cases units with
    | nil => simp
    | cons x units => exact congrArg (x :: ·) (ih units)

/-- A turn takes the next `n` elements of the list. -/
theorem turn_select (units : List α) (k : Nat) :
    turn (fun j : Fin n => (part j).select units) k = (units.drop (k * n)).take n := by
  rw [← filterMap_getElem?]
  refine List.filterMap_congr fun j _ => ?_
  rw [getElem?_select, List.getElem?_drop, Nat.add_comm]

/-- So many turns take so many times `n` elements. -/
theorem turns_select (units : List α) (count : Nat) :
    (List.range count).flatMap (turn fun j : Fin n => (part j).select units) =
      units.take (count * n) := by
  induction count with
  | zero => rw [Nat.zero_mul]; rfl
  | succ count ih =>
    rw [List.range_succ, List.flatMap_append, ih, List.flatMap_singleton, turn_select,
      Nat.succ_mul, List.take_add]

theorem alternate_select (pos : 0 < n) (units : List α) :
    alternate (fun j : Fin n => (part j).select units) = units := by
  have last := length_le_rounds (fun j : Fin n => (part j).select units) ⟨0, pos⟩
  rw [alternate, turns_select]
  generalize rounds (fun j : Fin n => (part j).select units) = count at last ⊢
  -- The first job has an element for every turn, and all are taken when it has none left.
  have spent : ¬0 + count * n < units.length := fun more =>
    Nat.not_lt.mpr last ((lt_length_select ⟨0, pos⟩ units count).mpr more)
  exact List.take_of_length_le (by omega)

/-! ### Lengths of shares -/

theorem length_select_antitone {i j : Fin n} (before : i ≤ j) (units : List α) :
    ((part j).select units).length ≤ ((part i).select units).length := by
  refine Nat.le_of_not_lt fun longer => ?_
  have inside := (lt_length_select j units _).mp longer
  refine Nat.lt_irrefl _ ((lt_length_select i units _).mpr ?_)
  have : (i : Nat) ≤ j := before
  omega

theorem length_select_le (i j : Fin n) (units : List α) :
    ((part i).select units).length ≤ ((part j).select units).length + 1 := by
  refine Nat.le_of_not_lt fun longer => ?_
  have inside := (lt_length_select i units _).mp longer
  refine Nat.lt_irrefl _ ((lt_length_select j units _).mpr ?_)
  rw [Nat.succ_mul] at inside
  have := j.isLt
  omega

/-- The shares of a list that is dealt in turn: where each element stands, that nothing is lost or
moved, and that the work is balanced. -/
structure Dealt (units : List α) (shares : Fin n → List α) : Prop where
  position : ∀ j k, (shares j)[k]? = units[j + k * n]?
  alternate_eq : alternate shares = units
  sublist : ∀ j, (shares j).Sublist units
  antitone : ∀ i j, i ≤ j → (shares j).length ≤ (shares i).length
  balanced : ∀ i j, (shares i).length ≤ (shares j).length + 1

/-- Every job finds its share of a list, and the shares of all jobs are dealt in turn. -/
theorem select_dealt (pos : 0 < n) (units : List α) :
    ∃ shares : Fin n → List α,
      (∀ j : Fin n, (Slot.ofJob j n).map (·.select units) = .ok (shares j)) ∧
      Dealt units shares := by
  refine ⟨fun j => (part j).select units, fun j => ?_, ?_⟩
  · rw [ofJob_eq]
    rfl
  · exact {
      position := fun j k => getElem?_select j units k
      alternate_eq := alternate_select pos units
      sublist := fun j => select_sublist (part j) units
      antitone := fun i j before => length_select_antitone before units
      balanced := fun i j => length_select_le i j units }

/-- Three jobs share five units, one of which comes twice. -/
theorem select_dealt_uneven :
    ∃ shares : Fin 3 → List Nat,
      (∀ j : Fin 3, (Slot.ofJob j 3).map (·.select [7, 8, 7, 9, 4]) = .ok (shares j)) ∧
      alternate shares = [7, 8, 7, 9, 4] ∧ (shares 1)[1]? = some 4 ∧ (shares 2)[1]? = none := by
  have pos : 0 < 3 := by decide
  obtain ⟨shares, selected, dealt⟩ := select_dealt pos [7, 8, 7, 9, 4]
  exact ⟨shares, selected, dealt.alternate_eq, dealt.position 1 1, dealt.position 2 1⟩

end TileComposite.Slot
