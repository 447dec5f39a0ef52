import TileComposite.Failure

/-! Messages that can be written. Nothing but integers stands in the way of a message, either
of its own or in the literal of a value that it quotes. A failure without a message is one of
a wrong value, whatever it was to be about. -/
namespace TileComposite

/-- Texts are all there if each of them is. -/
theorem isSome_mapM {α β : Type} {g : α → Option β} {xs : List α} :
    (xs.mapM g).isSome = true ↔ ∀ x ∈ xs, (g x).isSome = true := by
  induction xs with
  | nil => simp
  | cons x xs ih =>
    rw [List.forall_mem_cons, ← ih, List.mapM_cons]
    cases g x with
    | none => simp
    | some y => cases xs.mapM g <;> simp

namespace Text

theorem isSome_decimal? (n : Int) : (decimal? n).isSome = true ↔ Writable n := by
  unfold decimal?
  split <;> simp [*]

theorem any_decimal? (n : Int) (p : String → Bool) :
    (decimal? n).any p = true ↔ Writable n ∧ p (toString n) = true := by
  unfold decimal?
  split <;> simp [*]

end Text

open Text (Writable)

/-! ### Literals -/

theorem Scalar.isSome_literal? {s : Scalar} :
    s.literal?.isSome = true ↔ ∀ n, s = .int n → Writable n := by
  cases s <;> simp [literal?, Text.isSome_decimal?]

namespace Value

theorem isSome_literals? {vs : List Value} :
    (literals? vs).isSome = true ↔ ∀ v ∈ vs, v.literal?.isSome = true := by
  induction vs with
  | nil => simp [literals?]
  | cons v vs ih =>
    rw [List.forall_mem_cons, ← ih, literals?]
    cases v.literal? <;> cases literals? vs <;> simp

theorem isSome_entryLiterals? {entries : List (Scalar × Value)} :
    (entryLiterals? entries).isSome = true ↔
      ∀ e ∈ entries, e.1.literal?.isSome = true ∧ e.2.literal?.isSome = true := by
  induction entries with
  | nil => simp [entryLiterals?]
  | cons e rest ih =>
    rw [List.forall_mem_cons, ← ih, entryLiterals?]
    cases e.1.literal? <;> cases e.2.literal? <;> cases entryLiterals? rest <;> simp

theorem isSome_pairLiterals? {items : List (Value × Value)} :
    (pairLiterals? items).isSome = true ↔
      ∀ e ∈ items, e.1.literal?.isSome = true ∧ e.2.literal?.isSome = true := by
  induction items with
  | nil => simp [pairLiterals?]
  | cons e rest ih =>
    rw [List.forall_mem_cons, ← ih, pairLiterals?]
    cases e.1.literal? <;> cases e.2.literal? <;> cases pairLiterals? rest <;> simp

end Value

/-! ### Failures -/

namespace Failure
variable {e : Failure} {k : Category}

/-- The integers in a message, those of the literals that it quotes aside. -/
def integers : Failure → List Int
  | negativeLevel n | emptyBlock n | negativeGrid n | tooFewJobs n | negativeLevelCount n
  | jobCountTooSmall n | blockTooSmall n => [n]
  | invertedUnit colMin rowMin colMax rowMax => [colMin, rowMin, colMax, rowMax]
  | jobOutside job count => [count, job]
  | levelOutside level count => [level, count]
  | noTiles col row level first last => [col, row, level, first, last]
  | noTile col row level transaction => [col, row, level, transaction]
  | rejectedTile col row transaction _ => [col, row, transaction]
  | unequalTiles col row _ => [col, row]
  | jobBeyondCount job count => [count - 1, job]
  | invertedRange first last => [last, first]
  | levelNotInPlate level _ count => [level, count]
  | _ => []

/-- The literals that a message quotes, joined where it quotes several. -/
def quotes : Failure → List (Option String)
  | unsupportedFormat literal | unsupportedChannel literal _ | unknownReducer literal
  | unregisteredReducer literal | notInteger _ literal | notText _ literal => [literal]
  | unknownKeys literals => [literals.map Text.listed]
  | _ => []

theorem isLegible_iff : e.isLegible = true ↔
    (∀ n ∈ e.integers, Writable n) ∧ ∀ literal ∈ e.quotes, literal.isSome = true := by
  cases e <;>
    simp [isLegible, message?, integers, quotes, Option.isSome_bind, Text.any_decimal?,
      Text.isSome_decimal?]

/-- A message without quotes. -/
theorem isLegible_unquoted (unquoted : e.quotes = []) :
    e.isLegible = true ↔ ∀ n ∈ e.integers, Writable n := by
  rw [isLegible_iff, unquoted]
  exact and_iff_left (List.forall_mem_nil _)

/-- A message of one quote, and no integers besides. -/
theorem isLegible_quoting {literal : Option String} (plain : e.integers = [])
    (quoted : e.quotes = [literal]) : e.isLegible = true ↔ literal.isSome = true := by
  rw [isLegible_iff, plain, quoted, List.forall_mem_singleton]
  exact and_iff_right (List.forall_mem_nil _)

theorem category_of_legible (legible : e.isLegible = true) : e.category = e.kind := if_pos legible

theorem category_of_illegible (illegible : ¬e.isLegible = true) : e.category = .value :=
  if_neg illegible

/-- What is no wrong value has been said in full. -/
theorem category_eq_iff (other : k ≠ .value := by decide) :
    e.category = k ↔ e.isLegible = true ∧ e.kind = k := by
  by_cases legible : e.isLegible = true
  · rw [category_of_legible legible, and_iff_right legible]
  · rw [category_of_illegible legible]
    exact iff_of_false other.symm fun both => legible both.1

theorem legible (category : e.category = k) (other : k ≠ .value := by decide) :
    e.isLegible = true :=
  ((category_eq_iff other).mp category).1

/-- A failure of the plate has been said in full. -/
theorem legible_of_isStore (store : e.category.isStore = true) : e.isLegible = true := by
  refine Decidable.byContradiction fun illegible => ?_
  rw [category_of_illegible illegible] at store
  cases store

theorem kind_eq (category : e.category = k) (other : k ≠ .value := by decide) : e.kind = k :=
  ((category_eq_iff other).mp category).2

theorem category_eq_kind (plain : e.kind = k) (other : k ≠ .value := by decide) :
    e.category = k ↔ e.isLegible = true :=
  (category_eq_iff other).trans (and_iff_left plain)

end Failure
end TileComposite
