import Mathlib.Algebra.Ring.Nat
import Mathlib.Data.List.TakeWhile
import TileComposite.Proofs.Aggregate.Runs

/-! Passes over the cells of work units. Where every cell is sound a pass stores the
composites of the initial tiles and counts what it did. Otherwise it ends at the first
cell that is not sound, with the composites of the cells before it. -/
namespace TileComposite.Aggregation
variable (a : Aggregation)

/-- The counters after some cells of a pass over units. -/
def tally (units : Nat) (initial : TileMap) (cells : List Cell) : Summary where
  units := units
  visited := cells.length
  reduced := cells.countP fun cell => !(a.stack initial cell).isEmpty
  skipped := cells.countP fun cell => (a.stack initial cell).isEmpty
  tiles := (cells.map fun cell => (a.stack initial cell).length).sum

variable {a} {cell : Cell} {before cells after : List Cell} {p : MemoryPlate}
  {tiles initial : TileMap}

theorem tally_visit (units : Nat) (initial : TileMap) (cells : List Cell) (cell : Cell) :
    (a.tally units initial cells).visit (a.stack initial cell).length =
      a.tally units initial (cells ++ [cell]) := by
  by_cases empty : a.stack initial cell = []
  · simp [tally, Summary.visit, empty]
  · simp [tally, Summary.visit, empty]

theorem processCells_cons (cell : Cell) (cells : List Cell) (s : Summary) :
    a.processCells (cell :: cells) s =
      (a.processCell cell).bind fun n => a.processCells cells (s.visit n) := rfl

theorem processCells_append (cells later : List Cell) (s : Summary) :
    a.processCells (cells ++ later) s = (a.processCells cells s).bind (a.processCells later) := by
  induction cells generalizing s with
  | nil => rfl
  | cons cell cells ih =>
    simp only [List.cons_append, processCells_cons, Program.bind_assoc, ih]

/-- A property of programs that sequences inherit holds of a pass if it holds of its steps. -/
theorem processCells_closed (P : {α : Type} → Program α → Prop)
    (given : ∀ {α : Type} (r : Except Failure α), P (.ofExcept r))
    (sequence : ∀ {α β : Type} {m : Program α} {f : α → Program β},
      P m → (∀ x, P (f x)) → P (m.bind f))
    (query : ∀ cell, P (a.query cell)) (read : ∀ id, P (Program.require (.read id true)))
    (commit : ∀ cell b, P (a.commit cell b)) (cells : List Cell) (s : Summary) :
    P (a.processCells cells s) := by
  have done {α : Type} (x : α) : P (.done x) := given (.ok x)
  have versions (cell : Cell) (ids : List TileId) : P (a.readVersions cell ids) := by
    induction ids with
    | nil => exact done []
    | cons id ids ih =>
      have version : P (a.readVersion cell id) := sequence (read _) fun _ => given _
      exact sequence version fun b => sequence ih fun bs => done (b :: bs)
  have load (cell : Cell) (ids : List TileId) : P (a.load cell ids) :=
    sequence (versions cell ids) fun buffers => sequence (given _) fun _ => done buffers
  have one (cell : Cell) : P (a.processCell cell) := by
    refine sequence (query cell) fun ids => ?_
    split
    · exact done 0
    · exact sequence (load cell ids) fun _ => sequence (given _) fun b =>
        sequence (commit cell b) fun _ => done ids.length
  induction cells generalizing s with
  | nil => exact done s
  | cons cell cells ih => exact sequence (one cell) fun n => ih (s.visit n)

/-- Neither the cells that are composited already nor those that are counted already
change what the initial tiles settle. -/
theorem settles_continued (inside : 0 ≤ a.level ∧ a.level < p.levels) (units : Nat)
    (counted : List Cell) (distinct : (before ++ cells).Nodup)
    (sound : ∀ cell ∈ cells, a.Sound initial cell) :
    Settles p (a.composited initial before) (a.processCells cells (a.tally units initial counted))
      (.ok (a.tally units initial (counted ++ cells)))
      (a.composited initial (before ++ cells)) := by
  induction cells generalizing before counted with
  | nil =>
    rw [List.append_nil, List.append_nil]
    exact Settles.done _
  | cons cell cells ih =>
    have fresh : cell ∉ before := fun member =>
      List.disjoint_of_nodup_append distinct member List.mem_cons_self
    have first := settles_sound inside (stack_composited fresh) (sound cell List.mem_cons_self)
    rw [← composited_append] at first
    refine first.bind ?_
    rw [List.append_cons] at distinct
    rw [tally_visit, List.append_cons counted cell cells, List.append_cons before cell cells]
    exact ih _ distinct fun other member => sound other (List.mem_cons_of_mem cell member)

theorem settles_cells (inside : 0 ≤ a.level ∧ a.level < p.levels) (units : Nat)
    (distinct : cells.Nodup) (sound : ∀ cell ∈ cells, a.Sound initial cell) :
    Settles p initial (a.processCells cells (a.tally units initial []))
      (.ok (a.tally units initial cells)) (a.composited initial cells) := by
  have fromNothing : ([] ++ cells).Nodup := distinct
  exact settles_continued inside units [] fromNothing sound

theorem settles_stopped (inside : 0 ≤ a.level ∧ a.level < p.levels) (units : Nat)
    (distinct : (before ++ cell :: after).Nodup) (sound : ∀ cell ∈ before, a.Sound initial cell)
    (unsound : ¬a.Sound initial cell) :
    ∃ e, a.Stops initial cell e ∧
      Settles p initial (a.processCells (before ++ cell :: after) (a.tally units initial []))
        (.error e) (a.composited initial before) := by
  have passed := settles_cells (p := p) inside units (List.Nodup.of_append_left distinct) sound
  have fresh : cell ∉ before := fun member =>
    List.disjoint_of_nodup_append distinct member List.mem_cons_self
  obtain ⟨e, stops, fails⟩ := settles_unsound (p := p) inside unsound
  have failed := fails _ (stack_composited fresh)
  refine ⟨e, stops, ?_⟩
  rw [processCells_append]
  exact passed.bind failed.bind_error

/-- A property holds of all that is listed, or there is a first place without it. -/
theorem all_or_first {α : Type} (P : α → Prop) (xs : List α) :
    (∀ x ∈ xs, P x) ∨ ∃ before x after, xs = before ++ x :: after ∧ (∀ y ∈ before, P y) ∧ ¬P x := by
  induction xs with
  | nil => exact .inl nofun
  | cons first xs ih =>
    by_cases holds : P first
    · obtain all | ⟨before, x, after, rfl, earlier, fails⟩ := ih
      · exact .inl (List.forall_mem_cons.mpr ⟨holds, all⟩)
      · exact .inr ⟨first :: before, x, after, rfl,
          List.forall_mem_cons.mpr ⟨holds, earlier⟩, fails⟩
    · exact .inr ⟨[], first, xs, rfl, nofun, holds⟩

theorem first_unsound (initial : TileMap) (cells : List Cell) :
    (∀ cell ∈ cells, a.Sound initial cell) ∨
      ∃ before cell after, cells = before ++ cell :: after ∧
        (∀ cell ∈ before, a.Sound initial cell) ∧ ¬a.Sound initial cell :=
  all_or_first (a.Sound initial) cells

/-! ### Work units -/

theorem processFrom_silent (total i : Nat) (units : List WorkUnit) (s : Summary) :
    (a.processFrom total i units s).silent =
      (a.processCells (units.flatMap WorkUnit.cells) s).silent := by
  induction units generalizing i s with
  | nil => rfl
  | cons unit units ih =>
    rw [List.flatMap_cons, processCells_append, Program.silent_bind]
    change ((a.processCells unit.cells s).bind fun s =>
      a.processFrom total (i + 1) units s).silent = _
    rw [Program.silent_bind]
    simp only [ih]

/-- Units matter through their cells and their number, and for the reports. -/
theorem process_silent (units : List WorkUnit) :
    (a.process units).silent =
      (a.processCells (units.flatMap WorkUnit.cells) { units := units.length }).silent := by
  change ((a.processFrom units.length 0 units { units := units.length }).bind fun summary =>
    .report _ (.done summary)).silent = _
  rw [Program.silent_bind, processFrom_silent]
  exact Program.bind_done _

theorem settles_process_iff {units : List WorkUnit} {result : Except Failure Summary}
    {left : TileMap} :
    Settles p tiles (a.process units) result left ↔
      Settles p tiles (a.processCells (units.flatMap WorkUnit.cells)
        (a.tally units.length initial [])) result left := by
  rw [← Settles.silent_iff, process_silent, Settles.silent_iff]
  rfl

theorem settles_process (inside : 0 ≤ a.level ∧ a.level < p.levels) {units : List WorkUnit}
    (distinct : (before ++ units.flatMap WorkUnit.cells).Nodup)
    (sound : ∀ cell ∈ units.flatMap WorkUnit.cells, a.Sound initial cell) :
    Settles p (a.composited initial before) (a.process units)
      (.ok (a.tally units.length initial (units.flatMap WorkUnit.cells)))
      (a.composited initial (before ++ units.flatMap WorkUnit.cells)) :=
  settles_process_iff.mpr (settles_continued inside units.length [] distinct sound)

theorem settles_process_stopped (inside : 0 ≤ a.level ∧ a.level < p.levels)
    {units : List WorkUnit} (distinct : (units.flatMap WorkUnit.cells).Nodup)
    (split : units.flatMap WorkUnit.cells = before ++ cell :: after)
    (sound : ∀ cell ∈ before, a.Sound initial cell) (unsound : ¬a.Sound initial cell) :
    ∃ e, a.Stops initial cell e ∧
      Settles p initial (a.process units) (.error e) (a.composited initial before) := by
  obtain ⟨e, stops, stopped⟩ :=
    settles_stopped (p := p) inside units.length (split ▸ distinct) sound unsound
  exact ⟨e, stops, settles_process_iff.mpr (split ▸ stopped)⟩

/-! ### Labels of units -/

theorem processLogged_labelled {units : List WorkUnit} (labelled : ∀ u ∈ units, u.Labelled) :
    a.processLogged units = a.process units := by
  have all : units.takeWhile (fun u => u.Labelled) = units :=
    List.takeWhile_eq_self_iff.mpr fun u member => decide_eq_true (labelled u member)
  rw [processLogged, all]
  simp only [lt_irrefl, if_false]
  rfl

/-- Where the label of a unit cannot be written, the units before it are all that is done. -/
theorem processLogged_unlabelled {done : List WorkUnit} {unit : WorkUnit}
    (labelled : ∀ u ∈ done, u.Labelled) (unlabelled : ¬unit.Labelled) (rest : List WorkUnit) :
    (a.processLogged (done ++ unit :: rest)).silent =
      ((a.processCells (done.flatMap WorkUnit.cells)
        { units := (done ++ unit :: rest).length }).bind fun _ =>
          (.fail .unlogged : Program Summary)).silent := by
  have part : (done ++ unit :: rest).takeWhile (fun u => u.Labelled) = done := by
    rw [List.takeWhile_append_of_pos fun u member => decide_eq_true (labelled u member),
      List.takeWhile_cons_of_neg (by simpa using unlabelled), List.append_nil]
  have fewer : done.length < (done ++ unit :: rest).length := by simp
  rw [processLogged, part]
  simp only [fewer, if_true]
  change ((a.processFrom (done ++ unit :: rest).length 0 done
    { units := (done ++ unit :: rest).length }).bind fun _ => .fail .unlogged).silent = _
  rw [Program.silent_bind, Program.silent_bind, processFrom_silent]

theorem processLogged_not_ok {σ : Type} {plate : Plate σ} {s : Session σ} {units : List WorkUnit}
    (unlabelled : ¬∀ u ∈ units, u.Labelled) (total : Summary) :
    ((a.processLogged units).run plate s).1 ≠ .ok total := by
  obtain labelled | ⟨done, unit, rest, rfl, labelled, fails⟩ :=
    all_or_first WorkUnit.Labelled units
  · exact absurd labelled unlabelled
  rw [Program.run_congr plate (processLogged_unlabelled labelled fails rest), Program.run_bind]
  split <;> nofun

end TileComposite.Aggregation
