import Mathlib.Data.List.Forall2
import TileComposite.Aggregate
import TileComposite.Proofs.Message
import TileComposite.Proofs.Plate.Tiles

/-! What a stack of stored versions comes to. Versions that the pixel type accepts and
that share one shape have a composite, unless their tiles are flat: planes without rows
but with several columns cannot be accumulated. Every other stack is blamed on a version
or on its shapes. -/
namespace TileComposite

/-- The pixel type accepts every version of the stack, and all have one shape. -/
structure Agrees (p : PixelType) (stack : List Version) : Prop where
  accepted : ∀ v ∈ stack, ∃ b, p.validate v.buffer = .ok b
  same_shape : ∀ v ∈ stack, ∀ w ∈ stack, v.buffer.shape = w.buffer.shape

/-- A tile without rows that is wider than one column. -/
def Flat (stack : List Version) : Prop :=
  ∃ v ∈ stack, ∃ width channels, v.buffer.shape = [0, width, channels] ∧ 1 < width

/-- The composite is the average of what the pixel type makes of the versions. -/
def Averages (a : Aggregation) (stack : List Version) (composite : Buffer) : Prop :=
  ∃ buffers, List.Forall₂ (fun v b => a.pixel.validate v.buffer = .ok b) stack buffers ∧
    a.reducer.reduce a.pixel buffers = .ok composite

/-- The failure names the cell, and the first version that is not accepted, or else the
shapes that the versions have. -/
inductive Blames (p : PixelType) (cell : Cell) (stack : List Version) : Failure → Prop where
  | rejected {earlier v later cause} : stack = earlier ++ v :: later →
      (∀ w ∈ earlier, ∃ b, p.validate w.buffer = .ok b) → p.validate v.buffer = .error cause →
      Blames p cell stack (.rejectedTile cell.col cell.row v.transaction cause)
  | unequal {shapes} : (∀ v ∈ stack, ∃ b, p.validate v.buffer = .ok b) →
      (∀ s, s ∈ shapes ↔ ∃ v ∈ stack, v.buffer.shape = s) →
      (∃ v ∈ stack, ∃ w ∈ stack, v.buffer.shape ≠ w.buffer.shape) →
      Blames p cell stack (.unequalTiles cell.col cell.row shapes)

/-- Of two places in a list one comes first, or they are the same. -/
theorem mem_of_split {α : Type} {before after xs ys : List α} {x y : α}
    (split : before ++ x :: xs = after ++ y :: ys) : x ∈ after ++ [y] ∨ y ∈ before := by
  rw [List.append_cons after] at split
  obtain ⟨rest, reach, tail⟩ | ⟨rest, rfl, _⟩ := List.append_eq_append_iff.mp split
  · cases rest with
    | nil =>
      rw [List.append_nil] at reach
      exact .inr (reach ▸ List.mem_append_right _ List.mem_cons_self)
    | cons z rest =>
      cases tail
      exact .inl (reach ▸ List.mem_append_right _ List.mem_cons_self)
  · exact .inr (List.mem_append_left _ (List.mem_append_right _ List.mem_cons_self))

namespace Blames
variable {p : PixelType} {cell : Cell} {stack : List Version} {e e' : Failure}

theorem kind (blamed : Blames p cell stack e) : e.kind = .store := by
  cases blamed <;> rfl

theorem category_iff (blamed : Blames p cell stack e) :
    e.category = .store ↔ e.isLegible = true :=
  Failure.category_eq_kind blamed.kind

/-- Whatever a stack is blamed on, the same integers are to be written. -/
theorem integers_eq (blamed : Blames p cell stack e) (blamed' : Blames p cell stack e') :
    e.integers = e'.integers ∧ e.quotes = e'.quotes := by
  have unrefused {vs : List Version} {v : Version} {cause : Failure} (member : v ∈ vs)
      (refused : p.validate v.buffer = .error cause) :
      ¬∀ w ∈ vs, ∃ b, p.validate w.buffer = .ok b := by
    intro all
    obtain ⟨b, accepted⟩ := all v member
    cases accepted.symm.trans refused
  cases blamed with
  | @rejected earlier v later _ split passed refused =>
    cases blamed' with
    | @rejected earlier' v' later' _ split' passed' refused' =>
      obtain first | second := mem_of_split (split.symm.trans split')
      · obtain before | here := List.mem_append.mp first
        · exact absurd passed' (unrefused before refused)
        · rw [List.mem_singleton.mp here]
          exact ⟨rfl, rfl⟩
      · exact absurd passed (unrefused second refused')
    | unequal all =>
      exact absurd all (unrefused (split ▸ List.mem_append_right _ List.mem_cons_self) refused)
  | unequal all =>
    cases blamed' with
    | rejected split _ refused =>
      exact absurd all (unrefused (split ▸ List.mem_append_right _ List.mem_cons_self) refused)
    | unequal => exact ⟨rfl, rfl⟩

theorem legible_iff (blamed : Blames p cell stack e) (blamed' : Blames p cell stack e') :
    e.isLegible = true ↔ e'.isLegible = true := by
  obtain ⟨integers, quotes⟩ := blamed.integers_eq blamed'
  rw [Failure.isLegible_iff, Failure.isLegible_iff, integers, quotes]

/-- A blamed stack does not agree. -/
theorem disagrees (blamed : Blames p cell stack e) : ¬Agrees p stack := by
  intro agrees
  cases blamed with
  | @rejected earlier v later cause split _ refused =>
    obtain ⟨b, accepted⟩ := agrees.accepted v (split ▸ List.mem_append_right _ List.mem_cons_self)
    rw [refused] at accepted
    cases accepted
  | unequal _ _ differ =>
    obtain ⟨v, hv, w, hw, ne⟩ := differ
    exact ne (agrees.same_shape v hv w hw)

end Blames

namespace PixelType
variable {p : PixelType} {b b' : Buffer}

/-- An accepted buffer is a tile of the type, and keeps its shape. -/
theorem validate_shape (accepted : p.validate b = .ok b') :
    b'.shape = b.shape ∧ ∃ height width, b.shape = [height, width, p.channels] := by
  unfold validate at accepted
  split at accepted
  · rename_i tile
    obtain ⟨rank, last⟩ := tile
    have same : b'.shape = b.shape := by
      split at accepted
      · cases accepted; rfl
      · split at accepted
        · cases accepted; rfl
        · contradiction
    match shape : b.shape with
    | [height, width, channels] =>
      rw [shape] at last
      exact ⟨same.trans shape, height, width, by cases last; rfl⟩
    | [] | [_] | [_, _] | _ :: _ :: _ :: _ :: _ => simp [shape] at rank
  · contradiction

theorem validate_element (accepted : p.validate b = .ok b') : b'.element = p.element := by
  unfold validate at accepted
  split at accepted
  · split at accepted
    · rename_i same
      cases accepted
      exact same
    · split at accepted
      · cases accepted
        rfl
      · contradiction
  · contradiction

theorem alpha_lt_channels (p : PixelType) : p.alpha < p.channels := by
  have positive : 0 < p.channels := by
    obtain ⟨format, channel⟩ := p
    cases format <;> exact Nat.succ_pos _
  unfold alpha
  omega

end PixelType

namespace Composite
variable {p : PixelType} {height width : Nat}

theorem isGrid_iff : isGrid height width = true ↔ ¬(height = 0 ∧ 1 < width) := by
  simp only [isGrid, Bool.or_eq_true, decide_eq_true_eq]
  omega

theorem checkPlanes_eq {b : Buffer} (shape : b.shape = [height, width, p.channels]) :
    checkPlanes p height width b =
      if isGrid height width then .ok () else .error .unequalPlanes := by
  have channels : ¬p.channels ≤ p.alpha := Nat.not_le.mpr p.alpha_lt_channels
  simp only [checkPlanes, shape, if_neg channels, true_or, and_true]

theorem forM_checkPlanes {buffers : List Buffer} (grid : isGrid height width)
    (shapes : ∀ b ∈ buffers, b.shape = [height, width, p.channels]) :
    buffers.forM (checkPlanes p height width) = .ok () := by
  induction buffers with
  | nil => rfl
  | cons b rest ih =>
    rw [List.forM, checkPlanes_eq (shapes b List.mem_cons_self), if_pos grid]
    exact ih fun b' member => shapes b' (List.mem_cons_of_mem b member)

/-- Tiles of one shape are averaged if their planes make a grid. -/
theorem weightedAverage_eq {buffers : List Buffer} (nonempty : buffers ≠ [])
    (shapes : ∀ b ∈ buffers, b.shape = [height, width, p.channels]) :
    weightedAverage p buffers =
      if isGrid height width then .ok (ofStack p height width buffers)
      else .error .unequalPlanes := by
  match buffers, nonempty with
  | first :: rest, _ =>
    have shape := shapes first List.mem_cons_self
    simp only [weightedAverage, shape]
    by_cases grid : isGrid height width
    · rw [forM_checkPlanes grid shapes, if_pos grid]
      rfl
    · rw [List.forM, checkPlanes_eq shape, if_neg grid, if_neg grid]
      rfl

end Composite

namespace Aggregation
variable (a : Aggregation) (cell : Cell)

/-- What the pixel type makes of the versions of a stack, up to the first it refuses. -/
def accepted : List Version → Except Failure (List Buffer)
  | [] => .ok []
  | v :: stack => do
    let b ← a.accept cell v.transaction v.buffer
    let bs ← accepted stack
    .ok (b :: bs)

/-- The composite of a stack. -/
def compose (stack : List Version) : Except Failure Buffer := do
  let buffers ← a.accepted cell stack
  sameSize cell buffers
  a.reducer.reduce a.pixel buffers

variable {a} {stack : List Version}

/-- Checking the sizes and averaging may be taken in two steps. -/
theorem compose_eq (stack : List Version) : a.compose cell stack =
    ((a.accepted cell stack >>= fun buffers =>
      sameSize cell buffers >>= fun _ => Except.ok buffers) >>= a.reducer.reduce a.pixel) := by
  simp only [compose, LawfulMonad.bind_assoc]
  rfl

theorem accepted_ok (all : ∀ v ∈ stack, ∃ b, a.pixel.validate v.buffer = .ok b) :
    ∃ buffers, a.accepted cell stack = .ok buffers ∧
      List.Forall₂ (fun v b => a.pixel.validate v.buffer = .ok b) stack buffers := by
  induction stack with
  | nil => exact ⟨[], rfl, .nil⟩
  | cons v stack ih =>
    obtain ⟨b, first⟩ := all v List.mem_cons_self
    obtain ⟨bs, rest, each⟩ := ih fun w member => all w (List.mem_cons_of_mem v member)
    refine ⟨b :: bs, ?_, .cons first each⟩
    rw [accepted, accept, first, rest]
    rfl

theorem accepted_error (some_refused : ¬∀ v ∈ stack, ∃ b, a.pixel.validate v.buffer = .ok b) :
    ∃ e, a.accepted cell stack = .error e ∧ Blames a.pixel cell stack e := by
  induction stack with
  | nil => exact absurd nofun some_refused
  | cons v stack ih =>
    cases first : a.pixel.validate v.buffer with
    | error cause =>
      refine ⟨.rejectedTile cell.col cell.row v.transaction cause, ?_,
        .rejected (show v :: stack = [] ++ v :: stack from rfl) nofun first⟩
      rw [accepted, accept, first]
      rfl
    | ok b =>
      have later : ¬∀ w ∈ stack, ∃ b, a.pixel.validate w.buffer = .ok b := by
        intro all
        apply some_refused
        rintro w (_ | ⟨_, member⟩)
        · exact ⟨b, first⟩
        · exact all w member
      obtain ⟨e, failed, blamed⟩ := ih later
      refine ⟨e, ?_, ?_⟩
      · rw [accepted, accept, first, failed]
        rfl
      · cases blamed with
        | @rejected earlier w rest cause split passed refused =>
          have split' : v :: stack = (v :: earlier) ++ w :: rest := congrArg (v :: ·) split
          refine .rejected split' ?_ refused
          rintro x (_ | ⟨_, member⟩)
          · exact ⟨b, first⟩
          · exact passed x member
        | unequal all => exact absurd all later

theorem one_lt_eraseDups {α : Type} [BEq α] [LawfulBEq α] {l : List α} :
    1 < l.eraseDups.length ↔ ∃ x ∈ l, ∃ y ∈ l, x ≠ y := by
  cases l with
  | nil => simp
  | cons x rest =>
    have others : 1 < (x :: rest).eraseDups.length ↔ ∃ y ∈ rest, y ≠ x := by
      rw [List.eraseDups_cons, List.length_cons, Nat.lt_add_left_iff_pos, List.length_pos_iff_exists_mem]
      simp [List.mem_eraseDups, List.mem_filter]
    rw [others]
    constructor
    · rintro ⟨y, member, ne⟩
      exact ⟨y, List.mem_cons_of_mem x member, x, List.mem_cons_self, ne⟩
    · rintro ⟨y, hy, z, hz, ne⟩
      by_contra same
      push Not at same
      have equal : ∀ w ∈ x :: rest, w = x := by
        rintro w (_ | ⟨_, member⟩)
        · rfl
        · exact same w member
      exact ne ((equal y hy).trans (equal z hz).symm)

theorem mem_shapes {buffers : List Buffer} {s : List Nat} :
    s ∈ shapes buffers ↔ ∃ b ∈ buffers, b.shape = s := by
  rw [shapes, List.mem_mergeSort, List.mem_eraseDups, List.mem_map]

theorem sameSize_eq (buffers : List Buffer) :
    sameSize cell buffers =
      if ∃ s ∈ buffers.map (·.shape), ∃ t ∈ buffers.map (·.shape), s ≠ t
      then .error (.unequalTiles cell.col cell.row (shapes buffers)) else .ok () := by
  have differ : 1 < (shapes buffers).length ↔
      ∃ s ∈ buffers.map (·.shape), ∃ t ∈ buffers.map (·.shape), s ≠ t := by
    rw [shapes, List.length_mergeSort, one_lt_eraseDups]
  simp only [sameSize, differ]

theorem sameSize_ok_iff {buffers : List Buffer} :
    sameSize cell buffers = .ok () ↔ ∀ b ∈ buffers, ∀ c ∈ buffers, b.shape = c.shape := by
  rw [sameSize_eq]
  split
  · rename_i differ
    simpa using differ
  · rename_i equal
    simpa using equal

theorem ne_nil_of_accepted {buffers : List Buffer} (nonempty : stack ≠ [])
    (each : List.Forall₂ (fun v b => a.pixel.validate v.buffer = .ok b) stack buffers) :
    buffers ≠ [] := by
  rintro rfl
  cases each
  exact nonempty rfl

/-- Accepted versions keep their shapes. -/
theorem shapes_of_accepted {buffers : List Buffer}
    (each : List.Forall₂ (fun v b => a.pixel.validate v.buffer = .ok b) stack buffers) :
    buffers.map (·.shape) = stack.map (·.buffer.shape) := by
  induction each with
  | nil => rfl
  | cons first rest ih =>
    rw [List.map_cons, List.map_cons, ih, (PixelType.validate_shape first).1]

theorem mem_shapes_of_accepted {buffers : List Buffer}
    (each : List.Forall₂ (fun v b => a.pixel.validate v.buffer = .ok b) stack buffers)
    {s : List Nat} : s ∈ shapes buffers ↔ ∃ v ∈ stack, v.buffer.shape = s := by
  rw [mem_shapes, ← List.mem_map, shapes_of_accepted each, List.mem_map]

theorem compose_accepted {buffers : List Buffer} (passed : a.accepted cell stack = .ok buffers) :
    a.compose cell stack = (sameSize cell buffers >>= fun _ => a.reducer.reduce a.pixel buffers) := by
  rw [compose, passed]
  rfl

/-- A stack that does not agree is blamed on a version or on its shapes. -/
theorem compose_refused (disagrees : ¬Agrees a.pixel stack) :
    ∃ e, a.compose cell stack = .error e ∧ Blames a.pixel cell stack e := by
  by_cases all : ∀ v ∈ stack, ∃ b, a.pixel.validate v.buffer = .ok b
  · obtain ⟨buffers, passed, each⟩ := accepted_ok cell all
    have differ : ∃ v ∈ stack, ∃ w ∈ stack, v.buffer.shape ≠ w.buffer.shape := by
      by_contra same
      push Not at same
      exact disagrees ⟨all, same⟩
    refine ⟨.unequalTiles cell.col cell.row (shapes buffers), ?_,
      .unequal all (fun s => mem_shapes_of_accepted each) differ⟩
    have unequal : ∃ s ∈ buffers.map (·.shape), ∃ t ∈ buffers.map (·.shape), s ≠ t := by
      obtain ⟨v, hv, w, hw, ne⟩ := differ
      rw [shapes_of_accepted each]
      exact ⟨_, List.mem_map_of_mem hv, _, List.mem_map_of_mem hw, ne⟩
    rw [compose_accepted cell passed, sameSize_eq, if_pos unequal]
    rfl
  · obtain ⟨e, failed, blamed⟩ := accepted_error cell all
    refine ⟨e, ?_, blamed⟩
    rw [compose, failed]
    rfl

/-- The composite of a stack that agrees rests on its planes making a grid. -/
theorem compose_agrees (nonempty : stack ≠ []) (agrees : Agrees a.pixel stack) :
    ∃ buffers height width,
      List.Forall₂ (fun v b => a.pixel.validate v.buffer = .ok b) stack buffers ∧
      (∀ v ∈ stack, v.buffer.shape = [height, width, a.pixel.channels]) ∧
      a.compose cell stack = a.reducer.reduce a.pixel buffers ∧
      a.reducer.reduce a.pixel buffers =
        if Composite.isGrid height width then .ok (Composite.ofStack a.pixel height width buffers)
        else .error .unequalPlanes := by
  obtain ⟨buffers, passed, each⟩ := accepted_ok cell agrees.accepted
  obtain ⟨first, member⟩ := List.exists_mem_of_ne_nil stack nonempty
  obtain ⟨b, accepted⟩ := agrees.accepted first member
  obtain ⟨_, height, width, shape⟩ := PixelType.validate_shape accepted
  have shapes : ∀ v ∈ stack, v.buffer.shape = [height, width, a.pixel.channels] := fun v other =>
    (agrees.same_shape v other first member).trans shape
  have same : ∀ b ∈ buffers, b.shape = [height, width, a.pixel.channels] := by
    intro b hb
    have listed : b.shape ∈ stack.map (·.buffer.shape) :=
      shapes_of_accepted each ▸ List.mem_map_of_mem hb
    obtain ⟨v, hv, eq⟩ := List.mem_map.mp listed
    exact eq.symm.trans (shapes v hv)
  have sized : sameSize cell buffers = .ok () :=
    (sameSize_ok_iff cell).mpr fun b hb c hc => (same b hb).trans (same c hc).symm
  refine ⟨buffers, height, width, each, shapes, ?_, ?_⟩
  · rw [compose_accepted cell passed, sized]
    rfl
  · cases a.reducer
    exact Composite.weightedAverage_eq (ne_nil_of_accepted nonempty each) same

theorem compose_flat (nonempty : stack ≠ []) (agrees : Agrees a.pixel stack) (flat : Flat stack) :
    a.compose cell stack = .error .unequalPlanes := by
  obtain ⟨buffers, height, width, _, shapes, composed, reduced⟩ :=
    compose_agrees cell nonempty agrees
  obtain ⟨v, member, width', channels, shape, wide⟩ := flat
  obtain ⟨rfl, rfl, rfl⟩ : 0 = height ∧ width' = width ∧ channels = a.pixel.channels := by
    simpa using shape.symm.trans (shapes v member)
  rw [composed, reduced, if_neg (mt Composite.isGrid_iff.mp (not_not.mpr ⟨rfl, wide⟩))]

theorem compose_averages (nonempty : stack ≠ []) (agrees : Agrees a.pixel stack)
    (solid : ¬Flat stack) :
    ∃ b, a.compose cell stack = .ok b ∧ Averages a stack b := by
  obtain ⟨buffers, height, width, each, shapes, composed, reduced⟩ :=
    compose_agrees cell nonempty agrees
  obtain ⟨first, member⟩ := List.exists_mem_of_ne_nil stack nonempty
  have grid : Composite.isGrid height width := by
    apply Composite.isGrid_iff.mpr
    rintro ⟨rfl, wide⟩
    exact solid ⟨first, member, width, _, shapes first member, wide⟩
  rw [if_pos grid] at reduced
  exact ⟨_, composed.trans reduced, buffers, each, reduced⟩

/-- A stack has a composite, or is blamed, or agrees and is flat. -/
theorem compose_cases (nonempty : stack ≠ []) :
    (∃ b, a.compose cell stack = .ok b ∧ Averages a stack b) ∨
    (∃ e, a.compose cell stack = .error e ∧ Blames a.pixel cell stack e) ∨
    a.compose cell stack = .error .unequalPlanes ∧ Agrees a.pixel stack ∧ Flat stack := by
  by_cases agrees : Agrees a.pixel stack
  · by_cases flat : Flat stack
    · exact .inr (.inr ⟨compose_flat cell nonempty agrees flat, agrees, flat⟩)
    · exact .inl (compose_averages cell nonempty agrees flat)
  · exact .inr (.inl (compose_refused cell agrees))

end Aggregation
end TileComposite
