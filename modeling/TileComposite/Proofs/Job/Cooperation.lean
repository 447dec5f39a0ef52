import Mathlib.Data.List.Nodup
import Mathlib.Data.List.Pairwise
import TileComposite.Proofs.Aggregate.Cooperation
import TileComposite.Proofs.Job.Split

/-! Jobs of one configuration on one plate, in any order of their calls. None of them can spoil
the work of another: a job that asks for a write while another has one open fails, and all that
it has changed are the composites that it committed before. -/
namespace TileComposite.Config
variable {c : Config} {p : MemoryPlate} {a : Aggregation} {n : Nat}

/-- The work of the job on a plate, or why it is refused. -/
def program (c : Config) (p : MemoryPlate) : Program Summary :=
  match Job.ofConfig c with
  | .error e => .fail e
  | .ok job =>
    match job.plan p.levels p.format p.channel with
    | .error e => .fail e
    | .ok plan => plan.aggregation.process plan.units

/-- The jobs that split the configuration's run, before their first calls. -/
def crew (c : Config) (b : BlockSize) (n : Nat) (p : MemoryPlate) : Crew n Summary where
  plate := p
  programs j := (c.share b j).program p

/-- The work of a job, done alone, is the run of the job. -/
theorem run_program (c : Config) (p : MemoryPlate) :
    (c.program p).run memoryPlate { state := p } =
      ((runJob memoryPlate c p).1.map (·.summary), (runJob memoryPlate c p).2) := by
  cases configured : Job.ofConfig c with
  | error e =>
    simp only [program, runJob, configured]
    rfl
  | ok job =>
    cases planned : job.plan (memoryPlate.levels p) (memoryPlate.format p)
      (memoryPlate.channel p) with
    | error e =>
      have planned' : job.plan p.levels p.format p.channel = .error e := planned
      simp only [program, runJob, Job.run, configured, planned, planned']
      rfl
    | ok plan =>
      have planned' : job.plan p.levels p.format p.channel = .ok plan := planned
      simp only [program, runJob, Job.run, configured, planned, planned']
      generalize (plan.aggregation.process plan.units).run memoryPlate { state := p } = run
      obtain ⟨_ | _, _⟩ := run <;> rfl

theorem Fits.program_eq (fits : Fits c p a) : c.program p = a.process c.units := by
  simp only [program, fits.ofConfig_eq, fits.plan_eq]
  rfl

/-- A job that does not fit is refused. -/
theorem program_refused (unfit : ¬∃ a, Fits c p a) : ∃ e, c.program p = .fail e := by
  cases configured : Job.ofConfig c with
  | error e => exact ⟨e, by simp only [program, configured]⟩
  | ok job =>
    cases planned : job.plan p.levels p.format p.channel with
    | error e => exact ⟨e, by simp only [program, configured, planned]⟩
    | ok plan => exact absurd (fits_of_plan configured planned) unfit

theorem Fits.of_share {b : BlockSize} {j : Fin n} (fits : Fits (c.share b j) p a) : Fits c p a :=
  ⟨fits.complete, fits.named, fits.inside, fits.supported, fits.level_eq, fits.first_eq,
    fits.output_eq⟩

/-- No cell is in two shares, and none twice in one. -/
theorem dealt_shares (c : Config) (b : BlockSize) :
    Aggregation.Dealt fun j : Fin n => (c.share b j).cells where
  distinct j := (c.share b j).nodup_cells
  apart i j other := by
    have once : ((List.finRange n).flatMap fun j => (c.share b j).cells).Nodup := by
      refine List.nodup_iff_count_le_one.mpr fun cell => ?_
      refine (b.count_shares i.pos (Nat.pow 2 c.level.toNat) c.level cell).trans_le ?_
      split <;> omega
    have : Std.Symm (Function.onFun List.Disjoint fun j : Fin n => (c.share b j).cells) :=
      ⟨fun _ _ disjoint => List.disjoint_symm disjoint⟩
    exact (List.nodup_flatMap.mp once).2.forall (List.mem_finRange i) (List.mem_finRange j) other

/-- Whatever the order of their calls, jobs that split a run leave the plate safe at any time.
Where one of them is refused all are, before their first calls. -/
theorem crew_safe (closed : p.staged = none) (c : Config) (b : BlockSize)
    (schedule : List (Fin n)) :
    (∀ a, Fits c p a →
      a.Safe p (fun j => (c.share b j).cells) ((c.crew b n p).run schedule)) ∧
    ((¬∃ a, Fits c p a) → ((c.crew b n p).run schedule).plate = p ∧
      ∀ j, ∃ e, ((c.crew b n p).run schedule).programs j = .fail e) := by
  refine ⟨fun a fits => ?_, fun unfit => ?_⟩
  · have pursues (j : Fin n) :
        a.Pursues p (c.share b j).cells none ((c.share b j).program p) := by
      rw [(fits.share b j).program_eq]
      exact Aggregation.pursues_process fits.level_inside _
    have start := Aggregation.cooperates_start closed pursues
    obtain ⟨committed, cooperates⟩ := start.run fits.level_inside (dealt_shares c b) schedule
    have steady : (c.crew b n p).Steady := List.forall_mem_nil _
    exact cooperates.safe (steady.run schedule)
  · have failed (j : Fin n) : ∃ e, (c.share b j).program p = .fail e :=
      program_refused fun ⟨a, fits⟩ => unfit ⟨a, fits.of_share⟩
    rw [Crew.run_failed failed]
    exact ⟨rfl, failed⟩

/-- The second of two jobs asks for a write while the first has one open, and fails. The first
goes on to commit the composite of its only cell that has a version. -/
theorem crew_safe_race :
    let tile : Buffer := ⟨.uint8, [1, 0, 2], #[]⟩
    let p : MemoryPlate := {
      levels := 2, format := .member .graya, channel := .member .uint8,
      tiles := TileMap.apply ∅ [(⟨1, 0, 0, 3⟩, tile), (⟨1, 1, 0, 3⟩, tile)] }
    let c : Config := {
      url := "memory://p", level := 1, last := some 5, output := 9,
      jobs_pos := by decide, job_nonneg := by decide, job_lt := by decide,
      block_pos := by decide, range_ordered := by rintro _ ⟨⟩; decide }
    let a : Aggregation := ⟨⟨.graya, .uint8⟩, .weightedAverage, 1, 0, 5, 9⟩
    let schedule : List (Fin 2) := .replicate 4 1 ++ .replicate 5 0 ++ [1] ++ .replicate 5 0
    let crew := (c.crew ⟨1, by decide⟩ 2 p).run schedule
    crew.programs 1 = .fail .writeOpen ∧ (∃ x, crew.programs 0 = .done x) ∧
      ∃ b, crew.plate.tiles[a.tile ⟨0, 0⟩ 9]? = some b ∧ Averages a [⟨3, tile⟩] b := by
  intro tile p c a schedule
  have fits : Fits c p a := ⟨rfl, Reducer.ofName_standard, by decide, rfl, rfl, rfl, rfl⟩
  have visited : (⟨0, 0⟩ : Cell) ∈ (c.share ⟨1, by decide⟩ (0 : Fin 2)).cells := by decide +kernel
  have stack : a.stack p.tiles ⟨0, 0⟩ = [⟨3, tile⟩] := by decide +kernel
  -- What the theorem says of any crew that came this far; which crew it is does not matter.
  have outcome (crew : Crew 2 Summary)
      (safe : a.Safe p (fun j => (c.share ⟨1, by decide⟩ j).cells) crew)
      (lost : crew.turns.any (fun t =>
        decide (t.job = 1 ∧ t.call = .writeRequest ∧ t.accepted = false)) = true)
      (ended : (match crew.programs 0 with
        | .done _ => true
        | _ => false) = true) :
      crew.programs 1 = .fail .writeOpen ∧ (∃ x, crew.programs 0 = .done x) ∧
        ∃ b, crew.plate.tiles[a.tile ⟨0, 0⟩ 9]? = some b ∧ Averages a [⟨3, tile⟩] b := by
    obtain ⟨t, turn, whose⟩ := List.any_eq_true.mp lost
    split at ended
    · rename_i x finished
      obtain ⟨b, averages, _, stored⟩ :=
        safe.finished 0 x finished ⟨0, 0⟩ visited (by rw [stack]; nofun)
      rw [stack] at averages
      exact ⟨(safe.lost 1 ⟨t, turn, of_decide_eq_true whose⟩).1, ⟨x, finished⟩, b, stored, averages⟩
    · cases ended
  obtain ⟨safe, _⟩ := crew_safe (p := p) rfl c ⟨1, by decide⟩ schedule
  exact outcome _ (safe a fits) (by decide +kernel) (by decide +kernel)

end TileComposite.Config
