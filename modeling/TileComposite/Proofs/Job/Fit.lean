import Mathlib.Data.List.Flatten
import TileComposite.Job.Run
import TileComposite.Proofs.Aggregate.Passes
import TileComposite.Proofs.Grid.Deal
import TileComposite.Proofs.Job.Settings

/-! Jobs that fit a plate. Such a job is one pass over the cells of its share, so that it
succeeds just when they are sound. Whatever jobs have written before, a sound job counts
and composites what the initial tiles give. -/
namespace TileComposite

/-- The reducer that a job is given unless its settings name one. -/
theorem Reducer.ofName_standard :
    ofName (.scalar (.text Config.standard.function)) = .ok .weightedAverage := by
  decide +kernel

namespace Config
variable {c : Config} {p s : MemoryPlate} {a : Aggregation} {before : List Cell}

/-- The job's share of the blocks. -/
def units (c : Config) : List WorkUnit :=
  c.slot.select (c.blockSize.blocks (Nat.pow 2 c.level.toNat) c.level)

/-- The cells in the order in which the job visits them. -/
def cells (c : Config) : List Cell := c.units.flatMap WorkUnit.cells

def plan (c : Config) (a : Aggregation) : JobPlan where
  slot := c.slot
  aggregation := a
  units := c.units
  total := c.blockSize.unitCount (Nat.pow 2 c.level.toNat)

/-- The integers in the log lines of the job before its first unit. -/
def logged (c : Config) : List Int :=
  [c.level, c.blockSize.unitCount (Nat.pow 2 c.level.toNat), c.job, c.jobs]

def Loggable (c : Config) : Prop := ∀ n ∈ c.logged, Text.Writable n

instance (c : Config) : Decidable c.Loggable :=
  inferInstanceAs (Decidable (∀ n ∈ c.logged, Text.Writable n))

/-- The job passes every check on the plate, and `a` is what it aggregates there. -/
structure Fits (c : Config) (p : MemoryPlate) (a : Aggregation) : Prop where
  complete : c.requireComplete = .ok a.last
  named : Reducer.ofName (.scalar (.text c.function)) = .ok a.reducer
  inside : 0 ≤ c.level ∧ c.level < p.levels
  supported : PixelType.resolve p.format p.channel = .ok a.pixel
  level_eq : a.level = c.level
  first_eq : a.first = c.first
  output_eq : a.output = c.output

theorem nodup_cells (c : Config) : c.cells.Nodup :=
  (List.Sublist.flatMap (c.slot.select_sublist _) WorkUnit.cells).nodup
    (c.blockSize.nodup_blocks_cells _ c.level)

theorem unitsForSlot_eq (nonneg : 0 ≤ c.level) :
    c.blockSize.unitsForSlot c.level c.slot = .ok c.units :=
  BlockSize.unitsForSlot_eq nonneg c.slot

namespace Fits

theorem of_rests {tiles : TileMap} (fits : Fits c p a) (rests : Rests p tiles s) : Fits c s a where
  complete := fits.complete
  named := fits.named
  inside := rests.levels_eq ▸ fits.inside
  supported := by rw [rests.format_eq, rests.channel_eq, fits.supported]
  level_eq := fits.level_eq
  first_eq := fits.first_eq
  output_eq := fits.output_eq

theorem level_inside (fits : Fits c p a) : 0 ≤ a.level ∧ a.level < p.levels :=
  fits.level_eq ▸ fits.inside

theorem ofConfig_eq (fits : Fits c p a) : Job.ofConfig c = .ok ⟨c, a.last, a.reducer⟩ := by
  rw [Job.ofConfig, fits.complete, fits.named]
  rfl

theorem plan_eq (fits : Fits c p a) :
    Job.plan ⟨c, a.last, a.reducer⟩ p.levels p.format p.channel = .ok (c.plan a) := by
  have checked : Job.checkLevel ⟨c, a.last, a.reducer⟩ p.levels = .ok () := if_pos fits.inside
  have same : ⟨a.pixel, a.reducer, c.level, c.first, a.last, c.output⟩ = a := by
    rw [← fits.level_eq, ← fits.first_eq, ← fits.output_eq]
  rw [Job.plan, checked, fits.supported, levelSize_eq fits.inside.1, unitsForSlot_eq fits.inside.1]
  exact congrArg (fun a => Except.ok (c.plan a)) same

/-- A job that fits is the pass over its units. -/
theorem runJob_eq (fits : Fits c s a) :
    runJob memoryPlate c s =
      let run := (a.process c.units).run memoryPlate { state := s }
      (run.1.map fun summary => ⟨c.plan a, summary, run.2.progress⟩, run.2) := by
  have plan : Job.plan ⟨c, a.last, a.reducer⟩ (memoryPlate.levels s) (memoryPlate.format s)
      (memoryPlate.channel s) = .ok (c.plan a) := fits.plan_eq
  rw [runJob, fits.ofConfig_eq]
  change Job.run memoryPlate ⟨c, a.last, a.reducer⟩ s = _
  rw [Job.run, plan]
  rfl

theorem unique {b : Aggregation} (fits : Fits c p a) (fits' : Fits c p b) : a = b := by
  have pixel := Except.ok.inj (fits.supported.symm.trans fits'.supported)
  have reducer := Except.ok.inj (fits.named.symm.trans fits'.named)
  have last := Except.ok.inj (fits.complete.symm.trans fits'.complete)
  have level := fits.level_eq.trans fits'.level_eq.symm
  have first := fits.first_eq.trans fits'.first_eq.symm
  have output := fits.output_eq.trans fits'.output_eq.symm
  cases a
  cases b
  rw [Aggregation.mk.injEq]
  exact ⟨pixel, reducer, level, first, last, output⟩

theorem loggable_iff (fits : Fits c p a) :
    (∀ n ∈ (c.plan a).logged, Text.Writable n) ↔ c.Loggable := by
  have level : (c.plan a).aggregation.level = c.level := fits.level_eq
  rw [JobPlan.logged, level]
  rfl

/-- A job that fits and can begin its log is the logged pass over its units. -/
theorem runJobLogged_eq (fits : Fits c p a) (loggable : c.Loggable) :
    runJobLogged memoryPlate c p =
      let run := (a.processLogged c.units).run memoryPlate { state := p }
      (run.1.map fun summary => ⟨c.plan a, summary, run.2.progress⟩, run.2) := by
  have plan : Job.plan ⟨c, a.last, a.reducer⟩ (memoryPlate.levels p) (memoryPlate.format p)
      (memoryPlate.channel p) = .ok (c.plan a) := fits.plan_eq
  rw [runJobLogged, fits.ofConfig_eq]
  change Job.runLogged memoryPlate ⟨c, a.last, a.reducer⟩ p = _
  rw [Job.runLogged, plan]
  exact if_pos (fits.loggable_iff.mpr loggable)

/-- A job whose log can be written runs as it does without. -/
theorem runJobLogged_labelled (fits : Fits c p a) (loggable : c.Loggable)
    (labelled : ∀ u ∈ c.units, u.Labelled) :
    runJobLogged memoryPlate c p = runJob memoryPlate c p := by
  rw [fits.runJobLogged_eq loggable, Aggregation.processLogged_labelled labelled, fits.runJob_eq]

theorem runJobLogged_unlogged (fits : Fits c p a) (unloggable : ¬c.Loggable) :
    runJobLogged memoryPlate c p = (.error .unlogged, { state := p }) := by
  have plan : Job.plan ⟨c, a.last, a.reducer⟩ (memoryPlate.levels p) (memoryPlate.format p)
      (memoryPlate.channel p) = .ok (c.plan a) := fits.plan_eq
  rw [runJobLogged, fits.ofConfig_eq]
  change Job.runLogged memoryPlate ⟨c, a.last, a.reducer⟩ p = _
  rw [Job.runLogged, plan]
  exact if_neg (mt fits.loggable_iff.mp unloggable)

/-- A job that is logged succeeds just when it does without and its log can be written. -/
theorem runJobLogged_ok_iff (fits : Fits c p a) :
    (∃ result, (runJobLogged memoryPlate c p).1 = .ok result) ↔
      c.Loggable ∧ (∀ u ∈ c.units, u.Labelled) ∧
        ∃ result, (runJob memoryPlate c p).1 = .ok result := by
  by_cases loggable : c.Loggable
  · by_cases labelled : ∀ u ∈ c.units, u.Labelled
    · rw [fits.runJobLogged_labelled loggable labelled, and_iff_right loggable,
        and_iff_right labelled]
    · refine iff_of_false ?_ fun all => labelled all.2.1
      rintro ⟨result, succeeded⟩
      rw [fits.runJobLogged_eq loggable] at succeeded
      dsimp only at succeeded
      cases ended : ((a.processLogged c.units).run memoryPlate { state := p }).1 with
      | ok total => exact Aggregation.processLogged_not_ok labelled total ended
      | error e =>
        rw [ended] at succeeded
        cases succeeded
  · refine iff_of_false ?_ fun all => loggable all.1
    rw [fits.runJobLogged_unlogged loggable]
    rintro ⟨_, _⟩
    contradiction

/-- A sound job after others, whose cells are not its own. -/
theorem runJob_sound (fits : Fits c p a) (distinct : (before ++ c.cells).Nodup)
    (sound : ∀ cell ∈ c.cells, a.Sound p.tiles cell)
    (rests : Rests p (a.composited p.tiles before) s) :
    ∃ session, runJob memoryPlate c s =
        (.ok ⟨c.plan a, a.tally c.units.length p.tiles c.cells, session.progress⟩, session) ∧
      Rests p (a.composited p.tiles (before ++ c.cells)) session.state := by
  obtain ⟨result, after⟩ :=
    Aggregation.settles_process fits.level_inside distinct sound { state := s } rests
  refine ⟨_, ?_, after⟩
  rw [(fits.of_rests rests).runJob_eq]
  dsimp only
  rw [result]
  rfl

theorem runJob_alone (fits : Fits c p a) (closed : p.staged = none)
    (sound : ∀ cell ∈ c.cells, a.Sound p.tiles cell) :
    ∃ session, runJob memoryPlate c p =
        (.ok ⟨c.plan a, a.tally c.units.length p.tiles c.cells, session.progress⟩, session) ∧
      Rests p (a.composited p.tiles c.cells) session.state := by
  have fromNothing : ([] ++ c.cells).Nodup := c.nodup_cells
  exact fits.runJob_sound fromNothing sound (Rests.self closed)

theorem runJob_unsound (fits : Fits c p a) (closed : p.staged = none)
    (unsound : ¬∀ cell ∈ c.cells, a.Sound p.tiles cell) :
    ∃ e, (runJob memoryPlate c p).1 = .error e := by
  obtain sound | ⟨before, cell, after, split, sound, fails⟩ :=
    Aggregation.first_unsound (a := a) p.tiles c.cells
  · exact absurd sound unsound
  · obtain ⟨e, _, stopped⟩ :=
      Aggregation.settles_process_stopped fits.level_inside c.nodup_cells split sound fails
    obtain ⟨result, _⟩ := stopped { state := p } (Rests.self closed)
    refine ⟨e, ?_⟩
    rw [fits.runJob_eq]
    dsimp only
    rw [result]
    rfl

/-- A job that succeeds has met sound cells only. -/
theorem of_ok (fits : Fits c p a) (closed : p.staged = none) {result : JobResult}
    (succeeded : (runJob memoryPlate c p).1 = .ok result) :
    (∀ cell ∈ c.cells, a.Sound p.tiles cell) ∧ result.plan = c.plan a ∧
      result.summary = a.tally c.units.length p.tiles c.cells ∧
      Rests p (a.composited p.tiles c.cells) (runJob memoryPlate c p).2.state := by
  have sound : ∀ cell ∈ c.cells, a.Sound p.tiles cell := by
    by_contra unsound
    obtain ⟨e, failed⟩ := fits.runJob_unsound closed unsound
    cases failed.symm.trans succeeded
  obtain ⟨session, run, rests⟩ := fits.runJob_alone closed sound
  rw [run] at succeeded ⊢
  cases succeeded
  exact ⟨sound, rfl, rfl, rests⟩

end Fits

theorem of_plan {job : Job} {plan : JobPlan} {format : Declared PixelFormat}
    {channel : Declared ChannelType} {levels : Int}
    (fitted : job.plan levels format channel = .ok plan) :
    (0 ≤ job.config.level ∧ job.config.level < levels) ∧
      ∃ pixel, PixelType.resolve format channel = .ok pixel := by
  unfold Job.plan at fitted
  obtain ⟨_, checked, fitted⟩ := Except.ok_of_bind fitted
  obtain ⟨pixel, supported, _⟩ := Except.ok_of_bind fitted
  refine ⟨?_, pixel, supported⟩
  simp only [Job.checkLevel] at checked
  split at checked
  · assumption
  · contradiction

/-- A job that has a plan on the plate fits it. -/
theorem fits_of_plan {job : Job} {plan : JobPlan} (configured : Job.ofConfig c = .ok job)
    (fitted : job.plan p.levels p.format p.channel = .ok plan) : ∃ a, Fits c p a := by
  unfold Job.ofConfig at configured
  obtain ⟨last, complete, configured⟩ := Except.ok_of_bind configured
  obtain ⟨reducer, named, configured⟩ := Except.ok_of_bind configured
  have job_eq : ⟨c, last, reducer⟩ = job := Except.ok.inj configured
  obtain ⟨inside, pixel, supported⟩ := of_plan fitted
  rw [← job_eq] at inside
  exact ⟨⟨pixel, reducer, c.level, c.first, last, c.output⟩, complete, named, inside, supported,
    rfl, rfl, rfl⟩

/-- Only a job that fits succeeds. -/
theorem fits_of_ok {result : JobResult} (succeeded : (runJob memoryPlate c p).1 = .ok result) :
    ∃ a, Fits c p a := by
  cases configured : Job.ofConfig c with
  | error e =>
    rw [runJob, configured] at succeeded
    cases succeeded
  | ok job =>
    rw [runJob, configured] at succeeded
    change (job.run memoryPlate p).1 = _ at succeeded
    cases fitted : job.plan (memoryPlate.levels p) (memoryPlate.format p)
      (memoryPlate.channel p) with
    | error e =>
      rw [Job.run, fitted] at succeeded
      cases succeeded
    | ok plan => exact fits_of_plan configured fitted

end Config
end TileComposite
