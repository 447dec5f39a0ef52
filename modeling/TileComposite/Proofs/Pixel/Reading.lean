import TileComposite.Proofs.Pixel.Widening

/-! Reading stored buffers as tiles. A buffer is refused for its shape, or for an element type
with numbers that the pixel type has not, and what is read keeps every number. But long integers
are read in double precision too: there each becomes the nearest number, and only those that
double precision has are kept. -/
namespace TileComposite

namespace ElementType

theorem widensTo_self (t : ElementType) : t.domain.widensTo t.domain = true := by
  cases t <;> decide

theorem ofNumber_eq_iff {t : ElementType} {x : Number} :
    t.domain.ofNumber x = x ↔ t.domain.Holds x := by
  constructor
  · intro kept
    rw [← kept]
    exact t.holds_ofNumber x
  · exact ElementDomain.ofNumber_of_holds

theorem Long.widens {t : ElementType} (long : t.Long) :
    t.domain.widensTo ElementType.float64.domain = true := by
  obtain rfl | rfl := long <;> decide

theorem map_ofNumber_eq_iff {t : ElementType} {data : Array Number} :
    data.map t.domain.ofNumber = data ↔ ∀ x ∈ data, t.domain.Holds x := by
  have each : data.map t.domain.ofNumber = data.map id ↔ ∀ x ∈ data, t.domain.ofNumber x = x :=
    Array.map_inj_left
  rw [Array.map_id] at each
  simp only [each, ofNumber_eq_iff]

end ElementType

namespace PixelType
variable {p : PixelType} {b tile : Buffer}

/-- The shape of a tile: three axes, the last as long as a pixel has channels. -/
def Shapes (p : PixelType) (shape : List Nat) : Prop :=
  shape.length = 3 ∧ shape.getLast? = some p.channels

theorem shapes_iff {shape : List Nat} :
    p.Shapes shape ↔ shape.length = 3 ∧ shape[2]? = some p.channels := by
  refine and_congr_right fun rank => ?_
  rw [List.getLast?_eq_getElem?, rank]

/-- The buffer with its numbers narrowed to the pixel type. -/
def narrowed (p : PixelType) (b : Buffer) : Buffer :=
  ⟨p.element, b.shape, b.data.map p.element.domain.ofNumber⟩

theorem narrowed_eq_iff : p.narrowed b = { b with element := p.element } ↔
    ∀ x ∈ b.data, p.element.domain.Holds x := by
  rw [← ElementType.map_ofNumber_eq_iff, narrowed, Buffer.mk.injEq]
  simp

theorem narrowed_wellFormed (wellFormed : b.WellFormed) : (p.narrowed b).WellFormed := by
  refine ⟨?_, fun x member => ?_⟩
  · rw [narrowed, Array.size_map]
    exact wellFormed.size_eq
  · obtain ⟨y, _, rfl⟩ := Array.mem_map.mp member
    exact p.element.holds_ofNumber y

/-- Reading a buffer of the pixel type's own element type narrows nothing. -/
theorem narrowed_native (wellFormed : b.WellFormed) (native : b.element = p.element) :
    p.narrowed b = b := by
  have kept := narrowed_eq_iff.mpr (native ▸ wellFormed.holds)
  rw [kept, ← native]

/-- The shape is judged first, then the element type. -/
theorem validate_eq (wellFormed : b.WellFormed) : p.validate b =
    if b.shape.length = 3 ∧ b.shape[2]? = some p.channels then
      if b.element.domain.widensTo p.element.domain then .ok (p.narrowed b)
      else .error (.unreadableElement b.element p)
    else .error (.unexpectedShape p b.shape) := by
  unfold validate
  by_cases native : b.element = p.element
  · have widens : b.element.domain.widensTo p.element.domain = true := by
      rw [native]
      exact p.element.widensTo_self
    rw [if_pos native, if_pos widens, narrowed_native wellFormed native]
  · rw [if_neg native]
    rfl

theorem validate_cases (wellFormed : b.WellFormed) :
    ((p.Shapes b.shape ∧ b.element.domain.widensTo p.element.domain) ∧
      p.validate b = .ok (p.narrowed b)) ∨
    ¬(p.Shapes b.shape ∧ b.element.domain.widensTo p.element.domain) ∧
      ∃ e, p.validate b = .error e ∧ e.category = .value := by
  rw [validate_eq wellFormed, shapes_iff]
  by_cases shapes : b.shape.length = 3 ∧ b.shape[2]? = some p.channels
  · rw [if_pos shapes]
    by_cases widens : b.element.domain.widensTo p.element.domain = true
    · rw [if_pos widens]
      exact .inl ⟨⟨shapes, widens⟩, rfl⟩
    · rw [if_neg widens]
      exact .inr ⟨fun accepted => widens accepted.2, _, rfl, rfl⟩
  · rw [if_neg shapes]
    exact .inr ⟨fun accepted => shapes accepted.1, _, rfl, rfl⟩

theorem validate_ok (wellFormed : b.WellFormed) (read : p.validate b = .ok tile) :
    (p.Shapes b.shape ∧ b.element.domain.widensTo p.element.domain) ∧ tile = p.narrowed b := by
  obtain ⟨accepted, narrowed⟩ | ⟨_, e, refused, _⟩ := validate_cases (p := p) wellFormed
  · exact ⟨accepted, Except.ok.inj (read.symm.trans narrowed)⟩
  · cases read.symm.trans refused

theorem validate_error_iff (wellFormed : b.WellFormed) : (∃ e, p.validate b = .error e) ↔
    ¬(p.Shapes b.shape ∧ b.element.domain.widensTo p.element.domain) := by
  obtain ⟨accepted, narrowed⟩ | ⟨rejected, e, refused, _⟩ := validate_cases (p := p) wellFormed
  · rw [narrowed]
    exact ⟨nofun, fun rejected => absurd accepted rejected⟩
  · exact ⟨fun _ => rejected, fun _ => ⟨e, refused⟩⟩

theorem validate_native (shapes : p.Shapes b.shape) (native : b.element = p.element) :
    p.validate b = .ok b := by
  rw [validate, if_pos (shapes_iff.mp shapes), if_pos native]

/-- Reading is faithful to a buffer: the buffer is refused just when its shape is not that of a
tile or its element type has a number that the pixel type has not, and else all of it is kept but
the name of its element type. -/
structure Faithful (p : PixelType) (b : Buffer) : Prop where
  refused_iff : (∃ e, p.validate b = .error e) ↔
    ¬p.Shapes b.shape ∨ ∃ x, b.element.domain.Holds x ∧ ¬p.element.domain.Holds x
  kept : ∀ tile, p.validate b = .ok tile → tile = { b with element := p.element }

/-- Double precision is the only element type that reads what it does not hold. -/
theorem exists_lost_iff (p : PixelType) (t : ElementType) :
    (∃ x, t.domain.Holds x ∧ ¬p.element.domain.Holds x) ↔
      t.domain.widensTo p.element.domain = true → t.Long ∧ p.channel = .float64 := by
  have double : p.element = .float64 ↔ p.channel = .float64 := by
    obtain ⟨_, channel⟩ := p
    cases channel <;> simp [element, ChannelType.element]
  have all := not_congr (ElementType.widens_iff (t := t) (u := p.element))
  rw [double] at all
  push Not at all
  exact all

theorem faithful_iff (wellFormed : b.WellFormed) :
    p.Faithful b ↔ ¬(p.Shapes b.shape ∧ b.element.Long ∧ p.channel = .float64) := by
  have refused := validate_error_iff (p := p) wellFormed
  have lost := p.exists_lost_iff b.element
  constructor
  · rintro faithful ⟨shapes, long, double⟩
    have widens : b.element.domain.widensTo p.element.domain = true := by
      rw [element, double]
      exact long.widens
    exact refused.mp (faithful.refused_iff.mpr (.inr (lost.mpr fun _ => ⟨long, double⟩)))
      ⟨shapes, widens⟩
  · intro short
    refine ⟨?_, fun tile read => ?_⟩
    · rw [refused, lost]
      tauto
    · obtain ⟨⟨shapes, widens⟩, rfl⟩ := validate_ok wellFormed read
      refine narrowed_eq_iff.mpr fun x member => ?_
      by_contra missing
      obtain ⟨long, double⟩ := lost.mp ⟨x, wellFormed.holds x member, missing⟩ widens
      exact short ⟨shapes, long, double⟩

/-- Reading a buffer is faithful but for long integers in double precision. It fails as a wrong
value only, what it gives is read again as it is, and each number is kept that the pixel type
has. -/
theorem validate_faithful (wellFormed : b.WellFormed) :
    (p.Faithful b ↔ ¬(p.Shapes b.shape ∧ b.element.Long ∧ p.channel = .float64)) ∧
    (∀ e, p.validate b = .error e → e.category = .value) ∧
    ∀ tile, p.validate b = .ok tile →
      tile = p.narrowed b ∧ tile.WellFormed ∧ p.validate tile = .ok tile ∧
      (tile = { b with element := p.element } ↔ ∀ x ∈ b.data, p.element.domain.Holds x) := by
  refine ⟨faithful_iff wellFormed, fun e failed => ?_, fun tile read => ?_⟩
  · obtain ⟨_, narrowed⟩ | ⟨_, e', refused, wrong⟩ := validate_cases (p := p) wellFormed
    · cases failed.symm.trans narrowed
    · cases failed.symm.trans refused
      exact wrong
  · obtain ⟨⟨shapes, _⟩, rfl⟩ := validate_ok wellFormed read
    exact ⟨rfl, narrowed_wellFormed wellFormed, validate_native shapes rfl, narrowed_eq_iff⟩

/-- Numbers of half precision, of which one is the smallest, are read in double precision. -/
theorem validate_faithful_smallest :
    let p : PixelType := ⟨.rgb, .float64⟩
    let b : Buffer := ⟨.float16, [1, 1, 3], #[.negZero, .infinite true, .finite (1 / 2 ^ 24)]⟩
    b.WellFormed ∧ p.Faithful b ∧ p.validate b = .ok { b with element := .float64 } := by
  intro p b
  have wellFormed : b.WellFormed := ⟨by decide, by decide +kernel⟩
  have faithful : p.Faithful b :=
    (validate_faithful wellFormed).1.mpr fun long => by
      obtain ⟨_, long | long, _⟩ := long <;> cases long
  obtain ⟨tile, read⟩ : ∃ tile, p.validate b = .ok tile := ⟨_, rfl⟩
  exact ⟨wellFormed, faithful, read.trans (congrArg Except.ok (faithful.kept tile read))⟩

/-- An integer that is between two numbers of double precision is read as the lower one. -/
theorem long_integer_rounded :
    let p : PixelType := ⟨.gray, .float64⟩
    let b : Buffer := ⟨.int64, [1, 1, 1], #[.ofInt (2 ^ 53 + 1)]⟩
    b.WellFormed ∧ p.validate b = .ok ⟨.float64, [1, 1, 1], #[.ofInt (2 ^ 53)]⟩ ∧
      ¬p.Faithful b := by
  intro p b
  have read : p.validate b = .ok ⟨.float64, [1, 1, 1], #[.ofInt (2 ^ 53)]⟩ := by decide +kernel
  refine ⟨⟨by decide, by decide +kernel⟩, read, fun faithful => ?_⟩
  have same := faithful.kept _ read
  exact absurd same (by decide +kernel)

end PixelType
end TileComposite
