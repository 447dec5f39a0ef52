import TileComposite.Proofs.Job.Fit

/-! Jobs that split a run. Whatever their number, their order and their block size, jobs
that share the cells of a single job leave the tiles that the single job leaves, and their
counters add up to its own. -/
namespace TileComposite

/-- Runs jobs one after another, up to the first that fails. -/
def runJobs (plate : Plate σ) : List Config → σ → Except Failure (List JobResult) × σ
  | [], state => (.ok [], state)
  | c :: cs, state =>
    match runJob plate c state with
    | (.error e, session) => (.error e, session.state)
    | (.ok result, session) =>
      let (results, state) := runJobs plate cs session.state
      (results.map (result :: ·), state)

namespace Aggregation
variable {a : Aggregation} {tiles : TileMap}

theorem tally_perm {cells cells' : List Cell} (perm : cells.Perm cells') (units : Nat) :
    a.tally units tiles cells = a.tally units tiles cells' := by
  simp only [tally, perm.length_eq, perm.countP_eq, (perm.map _).sum_nat]

variable (a tiles) in
/-- Counters other than that of the units add up over parts of a pass. -/
theorem sum_tally {α : Type} (parts : List α) (units : α → Nat) (cells : α → List Cell)
    (total : Nat) :
    (parts.map fun x => (a.tally (units x) tiles (cells x)).visited).sum =
        (a.tally total tiles (parts.flatMap cells)).visited ∧
      (parts.map fun x => (a.tally (units x) tiles (cells x)).reduced).sum =
        (a.tally total tiles (parts.flatMap cells)).reduced ∧
      (parts.map fun x => (a.tally (units x) tiles (cells x)).skipped).sum =
        (a.tally total tiles (parts.flatMap cells)).skipped ∧
      (parts.map fun x => (a.tally (units x) tiles (cells x)).tiles).sum =
        (a.tally total tiles (parts.flatMap cells)).tiles := by
  induction parts with
  | nil => exact ⟨rfl, rfl, rfl, rfl⟩
  | cons x parts ih =>
    simp only [tally] at ih
    simp only [tally, List.map_cons, List.sum_cons, List.flatMap_cons, List.length_append,
      List.countP_append, List.map_append, List.sum_append, ih, and_self]

end Aggregation

namespace Config
variable {c : Config} {cs : List Config} {p s : MemoryPlate} {a : Aggregation}
  {before : List Cell} {n : Nat}

/-- One of `n` jobs that split a configuration's run with a block size. -/
def share (c : Config) (b : BlockSize) (j : Fin n) : Config :=
  { c with
    job := j, jobs := n, block := b.edge
    jobs_pos := Slot.one_le_parts j
    job_nonneg := Slot.part_nonneg j
    job_lt := Slot.part_lt j
    block_pos := b.edge_pos }

theorem Fits.share (fits : Fits c p a) (b : BlockSize) (j : Fin n) : Fits (c.share b j) p a :=
  ⟨fits.complete, fits.named, fits.inside, fits.supported, fits.level_eq, fits.first_eq,
    fits.output_eq⟩

/-- Sound jobs without common cells succeed one after another, each with its own counters. -/
theorem runJobs_sound (fits : ∀ c ∈ cs, Fits c p a)
    (distinct : (before ++ cs.flatMap cells).Nodup)
    (sound : ∀ cell ∈ cs.flatMap cells, a.Sound p.tiles cell)
    (rests : Rests p (a.composited p.tiles before) s) :
    ∃ results after, runJobs memoryPlate cs s = (.ok results, after) ∧
      Rests p (a.composited p.tiles (before ++ cs.flatMap cells)) after ∧
      results.map (·.plan) = cs.map (·.plan a) ∧
      results.map (·.summary) = cs.map fun c => a.tally c.units.length p.tiles c.cells := by
  induction cs generalizing before s with
  | nil =>
    rw [List.flatMap_nil, List.append_nil]
    exact ⟨[], s, rfl, rests, rfl, rfl⟩
  | cons c cs ih =>
    rw [List.flatMap_cons, List.forall_mem_append] at sound
    rw [List.flatMap_cons, ← List.append_assoc] at distinct ⊢
    obtain ⟨session, first, rests⟩ :=
      (fits c List.mem_cons_self).runJob_sound (List.Nodup.of_append_left distinct) sound.1 rests
    obtain ⟨results, after, run, rests, plans, summaries⟩ :=
      ih (fun c member => fits c (List.mem_cons_of_mem _ member)) distinct sound.2 rests
    refine ⟨⟨c.plan a, a.tally c.units.length p.tiles c.cells, session.progress⟩ :: results, after,
      ?_, rests, ?_, ?_⟩
    · rw [runJobs, first]
      change ((runJobs memoryPlate cs session.state).1.map _,
        (runJobs memoryPlate cs session.state).2) = _
      rw [run]
      rfl
    · rw [List.map_cons, List.map_cons, plans]
    · rw [List.map_cons, List.map_cons, summaries]

theorem units_share (c : Config) (b : BlockSize) (j : Fin n) : (c.share b j).units =
    (Slot.part j).select (b.blocks (Nat.pow 2 c.level.toNat) c.level) := rfl

/-- The shares make up the blocks of the grid. -/
theorem units_share_perm (pos : 0 < n) {order : List (Fin n)}
    (perm : order.Perm (List.finRange n)) (c : Config) (b : BlockSize) :
    ((order.map (c.share b)).flatMap units).Perm
      (b.blocks (Nat.pow 2 c.level.toNat) c.level) := by
  rw [List.flatMap_map]
  simp only [units_share]
  exact (perm.flatMap_right _).trans (Slot.flatMap_select_perm pos _)

theorem cells_share_perm (pos : 0 < n) {order : List (Fin n)}
    (perm : order.Perm (List.finRange n)) (alone : c.jobs = 1) (b : BlockSize) :
    ((order.map (c.share b)).flatMap cells).Perm c.cells := by
  have shares := (units_share_perm pos perm c b).flatMap_right WorkUnit.cells
  rw [List.flatMap_assoc] at shares
  have whole : c.units = c.blockSize.blocks (Nat.pow 2 c.level.toNat) c.level :=
    Slot.select_alone alone _
  refine shares.trans ?_
  rw [cells, whole]
  exact BlockSize.blocks_cells_perm _ _ _ _ _

/-- A run that a single job can do is done as well by jobs that split it, in any order. -/
theorem runJobs_split {single : JobResult} {left : Session MemoryPlate}
    (closed : p.staged = none) (alone : c.jobs = 1)
    (succeeded : runJob memoryPlate c p = (.ok single, left)) (b : BlockSize) (pos : 0 < n)
    {order : List (Fin n)} (perm : order.Perm (List.finRange n)) :
    ∃ results after, runJobs memoryPlate (order.map (c.share b)) p = (.ok results, after) ∧
      after.tiles = left.state.tiles ∧ after.staged = none ∧
      (results.map (·.summary.visited)).sum = single.summary.visited ∧
      (results.map (·.summary.reduced)).sum = single.summary.reduced ∧
      (results.map (·.summary.skipped)).sum = single.summary.skipped ∧
      (results.map (·.summary.tiles)).sum = single.summary.tiles ∧
      ∀ r ∈ results, ((results.map (·.summary.units)).sum : Nat) = r.plan.total := by
  obtain ⟨a, fits⟩ := fits_of_ok (congrArg Prod.fst succeeded)
  obtain ⟨sound, _, whole, restsWhole⟩ := fits.of_ok closed (congrArg Prod.fst succeeded)
  rw [succeeded] at restsWhole
  have cellsPerm := cells_share_perm pos perm alone b
  have unitsPerm := units_share_perm pos perm c b
  have allFit : ∀ c' ∈ order.map (c.share b), Fits c' p a :=
    List.forall_mem_map.mpr fun j _ => fits.share b j
  have fromNothing : ([] ++ (order.map (c.share b)).flatMap cells).Nodup :=
    cellsPerm.nodup_iff.mpr c.nodup_cells
  obtain ⟨results, after, run, rests, plans, summaries⟩ := runJobs_sound allFit fromNothing
    (fun cell member => sound cell (cellsPerm.mem_iff.mp member)) (Rests.self closed)
  have counted (counter : Summary → Nat) : results.map (fun r => counter r.summary) =
      (order.map (c.share b)).map fun c' =>
        counter (a.tally c'.units.length p.tiles c'.cells) := by
    have mapped := congrArg (List.map counter) summaries
    rw [List.map_map, List.map_map] at mapped
    exact mapped
  obtain ⟨visited, reduced, skipped, read⟩ := Aggregation.sum_tally a p.tiles
    (order.map (c.share b)) (fun c' => c'.units.length) cells c.units.length
  rw [Aggregation.tally_perm cellsPerm, ← whole] at visited reduced skipped read
  refine ⟨results, after, run, ?_, rests.closed, ?_, ?_, ?_, ?_, fun r member => ?_⟩
  · rw [rests.tiles_eq, restsWhole.tiles_eq]
    exact Aggregation.composited_congr fun cell => cellsPerm.mem_iff
  · rw [counted Summary.visited, visited]
  · rw [counted Summary.reduced, reduced]
  · rw [counted Summary.skipped, skipped]
  · rw [counted Summary.tiles, read]
  · have planned : r.plan ∈ (order.map (c.share b)).map (·.plan a) :=
      plans ▸ List.mem_map_of_mem member
    rw [List.map_map] at planned
    obtain ⟨j, _, plan⟩ := List.mem_map.mp planned
    have total : r.plan.total = b.unitCount (Nat.pow 2 c.level.toNat) := plan ▸ rfl
    rw [counted Summary.units, total, ← BlockSize.length_blocks (Int.natCast_nonneg _),
      ← unitsPerm.length_eq, List.length_flatMap]
    rfl

/-- Three jobs do in another order, cell by cell, what one job does in a single block. -/
theorem runJobs_split_three :
    let tile (n : Rat) : Buffer := ⟨.int16, [1, 1, 2], #[.finite n, .finite 1]⟩
    let p : MemoryPlate := {
      levels := 2, format := .member .graya, channel := .member .int16,
      tiles := TileMap.apply ∅ [(⟨1, 0, 1, 3⟩, tile 7), (⟨1, 0, 1, 4⟩, tile 9)] }
    let c : Config := {
      url := "memory://p", level := 1, last := some 5, output := 4,
      jobs_pos := by decide, job_nonneg := by decide, job_lt := by decide,
      block_pos := by decide, range_ordered := by rintro _ ⟨⟩; decide }
    let order : List (Fin 3) := [2, 0, 1]
    ∃ results after, runJobs memoryPlate (order.map (c.share ⟨1, by decide⟩)) p =
        (.ok results, after) ∧
      after.tiles = (runJob memoryPlate c p).2.state.tiles := by
  intro tile p c order
  let a : Aggregation := ⟨⟨.graya, .int16⟩, .weightedAverage, 1, 0, 5, 4⟩
  have fits : Fits c p a := ⟨rfl, Reducer.ofName_standard, by decide, rfl, rfl, rfl, rfl⟩
  have visited : c.cells = [⟨0, 0⟩, ⟨0, 1⟩, ⟨1, 0⟩, ⟨1, 1⟩] := by decide +kernel
  have pair : a.stack p.tiles ⟨0, 1⟩ = [⟨3, tile 7⟩, ⟨4, tile 9⟩] := by decide +kernel
  have others : ∀ cell ∈ [Cell.mk 0 0, ⟨1, 0⟩, ⟨1, 1⟩],
      a.stack p.tiles cell = [] ∧ a.Searchable cell := by
    decide +kernel
  have reduced : a.Sound p.tiles ⟨0, 1⟩ := by
    refine Aggregation.sound_of_rows 0 1 2 (by decide +kernel) ?_ (by rw [pair]; decide)
    rw [pair, List.forall_mem_cons, List.forall_mem_singleton]
    exact ⟨⟨_, rfl⟩, _, rfl⟩
  have sound : ∀ cell ∈ c.cells, a.Sound p.tiles cell := by
    have empty := fun cell member =>
      Aggregation.sound_of_empty (others cell member).1 (others cell member).2
    rw [visited]
    simp only [List.forall_mem_cons] at empty ⊢
    exact ⟨empty.1, reduced, empty.2⟩
  obtain ⟨session, run, _⟩ := fits.runJob_alone rfl sound
  obtain ⟨results, after, split, same, _⟩ :=
    runJobs_split rfl rfl run ⟨1, by decide⟩ (by decide) (show order.Perm _ by decide)
  exact ⟨results, after, split, by rw [same, run]⟩

end Config
end TileComposite
