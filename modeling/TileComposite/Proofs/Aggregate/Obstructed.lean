import TileComposite.Proofs.Aggregate.Blocked
import TileComposite.Proofs.Aggregate.Conduct
import TileComposite.Proofs.Plate.Moments

/-! Aggregations beside a write that somebody has left open. An aggregation updates and completes
only a write that it requested itself, so that one run after another leaves the tiles and the
open write alone. Each run passes over empty cells, and ends at the first other one. -/
namespace TileComposite
variable {α β σ : Type}

namespace Program
variable {m : Program α} {f : α → Program β}

/-- The program with its failure as a result. -/
def attempt : Program α → Program (Except Failure α)
  | done x => done (.ok x)
  | fail e => done (.error e)
  | call c next => call c fun reply => (next reply).attempt
  | report p next => report p next.attempt

theorem run_attempt (plate : Plate σ) (m : Program α) (s : Session σ) :
    m.attempt.run plate s = (.ok (m.run plate s).1, (m.run plate s).2) := by
  induction m generalizing s with
  | done | fail => rfl
  | call c next ih => exact ih _ _
  | report p next ih => exact ih _

theorem exchanges_attempt (plate : Plate σ) (m : Program α) (s : σ) :
    m.attempt.exchanges plate s = m.exchanges plate s := by
  induction m generalizing s with
  | done | fail => rfl
  | call c next ih => exact congrArg (_ :: ·) (ih _ _)
  | report p next ih => exact ih s

/-- The program writes nothing before a request for a write was accepted. -/
def Guarded : Program α → Prop
  | done _ | fail _ => True
  | call (.search ..) next | call (.read ..) next => ∀ reply, (next reply).Guarded
  | call .writeRequest next => ∀ e, (next (.error e)).Guarded
  | call (.writeUpdate ..) _ | call .writeComplete _ => False
  | report _ next => next.Guarded

theorem guarded_ofExcept (r : Except Failure α) : (ofExcept r).Guarded := by
  cases r <;> trivial

theorem Guarded.bind (first : m.Guarded) (second : ∀ x, (f x).Guarded) : (m.bind f).Guarded := by
  induction m with
  | done x => exact second x
  | fail e => trivial
  | call c next ih =>
    cases c with
    | search | read => exact fun reply => ih reply (first reply)
    | writeRequest => exact fun e => ih (.error e) (first e)
    | writeUpdate | writeComplete => cases first
  | report p next ih => exact ih first

theorem Guarded.attempt (guarded : m.Guarded) : m.attempt.Guarded := by
  induction m with
  | done | fail => trivial
  | call c next ih =>
    cases c with
    | search | read => exact fun reply => ih reply (guarded reply)
    | writeRequest => exact fun e => ih (.error e) (guarded e)
    | writeUpdate | writeComplete => cases guarded
  | report p next ih => exact ih guarded

end Program

namespace Aggregation

/-- Passes one after another, each whatever became of those before it. -/
def processEach : List (Aggregation × List WorkUnit) → Program (List (Except Failure Summary))
  | [] => .done []
  | (a, units) :: runs => do
    let r ← (a.process units).attempt
    let rs ← processEach runs
    .done (r :: rs)

/-- A pass beside the open write of `p`, by its calls and its result. It succeeds with nothing
reduced, or ends at the first of its cells that has versions: because of the open write if they
agree, and else as their load does, with a failure of the plate. -/
inductive Obstructed (a : Aggregation) (p : MemoryPlate) (units : List WorkUnit) :
    List Call → Except Failure Summary → Prop where
  | idle : (∀ cell ∈ units.flatMap WorkUnit.cells, a.stack p.tiles cell = []) →
      Obstructed a p units ((units.flatMap WorkUnit.cells).map a.request) (.ok (skippedAll units))
  | refused {before cell after xs} :
      units.flatMap WorkUnit.cells = before ++ cell :: after →
      (∀ c ∈ before, a.stack p.tiles c = []) → a.stack p.tiles cell ≠ [] →
      Agrees a.pixel (a.stack p.tiles cell) → a.Visit cell xs (.error .writeOpen) →
      Obstructed a p units (before.map a.request ++ xs.map Exchange.call) (.error .writeOpen)
  | unloaded {before cell after xs e} :
      units.flatMap WorkUnit.cells = before ++ cell :: after →
      (∀ c ∈ before, a.stack p.tiles c = []) →
      Blames a.pixel cell (a.stack p.tiles cell) e → e.category = .store →
      a.Visit cell xs (.error e) →
      Obstructed a p units (before.map a.request ++ xs.map Exchange.call) (.error e)

/-- The first cell of the pass that has versions has flat ones that agree. -/
def ComesToFlat (a : Aggregation) (p : MemoryPlate) (units : List WorkUnit) : Prop :=
  ∃ before cell after, units.flatMap WorkUnit.cells = before ++ cell :: after ∧
    (∀ c ∈ before, a.stack p.tiles c = []) ∧ Agrees a.pixel (a.stack p.tiles cell) ∧
    Flat (a.stack p.tiles cell)

/-- The pass comes to a cell of which something is to be told that cannot be written: that it has
no versions, or what they are blamed for. -/
def ComesToUntold (a : Aggregation) (p : MemoryPlate) (units : List WorkUnit) : Prop :=
  ∃ before cell after, units.flatMap WorkUnit.cells = before ++ cell :: after ∧
    (∀ c ∈ before, a.stack p.tiles c = []) ∧
    (a.stack p.tiles cell = [] ∧ ¬a.Searchable cell ∨
      ∃ e, Blames a.pixel cell (a.stack p.tiles cell) e ∧ ¬e.isLegible = true)

variable {a : Aggregation} {p : MemoryPlate} {cell : Cell} {cells before : List Cell}
  {units : List WorkUnit} {xs : List Exchange} {s : Session MemoryPlate} {m : Program α}

/-- Beside an open write a guarded program changes nothing, at no moment. -/
theorem moments_guarded (guarded : m.Guarded) (opened : p.staged ≠ none)
    (same : OnlyLogged p s.state) : ∀ t ∈ m.moments memoryPlate s, OnlyLogged p t.state := by
  induction m generalizing s with
  | done | fail => exact nofun
  | call c next ih =>
    cases c with
    | search | read =>
      exact List.forall_mem_cons.mpr ⟨same.logged _, ih _ (guarded _) (same.logged _)⟩
    | writeRequest =>
      rw [Program.moments, same.respond_request opened]
      exact List.forall_mem_cons.mpr ⟨same.logged _, ih _ (guarded _) (same.logged _)⟩
    | writeUpdate | writeComplete => cases guarded
  | report r next ih => exact List.forall_mem_cons.mpr ⟨same, ih guarded same⟩

theorem run_guarded (guarded : m.Guarded) (opened : p.staged ≠ none)
    (same : OnlyLogged p s.state) : OnlyLogged p (m.run memoryPlate s).2.state := by
  rw [Program.run_eq_getLastD]
  rcases List.mem_cons.mp List.getLastD_mem_cons with last | later
  · rwa [last]
  · exact moments_guarded guarded opened same _ later

theorem guarded_query (cell : Cell) : (a.query cell).Guarded := by
  rintro (e | found)
  · dsimp only
    split <;> trivial
  · trivial

/-- After its request has failed nothing more of a write is tried. -/
theorem guarded_commit (cell : Cell) (b : Buffer) : (a.commit cell b).Guarded := fun _ => trivial

theorem guarded_processCells (cells : List Cell) (s : Summary) :
    (a.processCells cells s).Guarded :=
  processCells_closed Program.Guarded Program.guarded_ofExcept Program.Guarded.bind guarded_query
    (fun _ => Program.guarded_ofExcept) guarded_commit cells s

theorem guarded_process (units : List WorkUnit) : (a.process units).Guarded := by
  have units_guarded (total i : Nat) (s : Summary) : (a.processFrom total i units s).Guarded := by
    induction units generalizing i s with
    | nil => trivial
    | cons unit units ih => exact (guarded_processCells unit.cells s).bind fun s => ih (i + 1) s
  exact (units_guarded ..).bind fun _ => trivial

/-! ### Calls beside an open write -/

theorem Visit.calls_skipped {n : Nat} (visit : a.Visit cell xs (.ok n)) (skipped : n = 0) :
    xs.map Exchange.call = [a.request cell] := by
  cases visit with
  | empty | notFound => rfl
  | reduced some_ids => exact absurd (List.eq_nil_of_length_eq_zero skipped) some_ids

theorem calls_empties (inside : 0 ≤ a.level ∧ a.level < p.levels)
    (skips : ∀ cell ∈ cells, a.Skips p cell) (counted : Summary)
    (same : OnlyLogged p s.state) :
    ((a.processCells cells counted).exchanges memoryPlate s.state).map Exchange.call =
      cells.map a.request := by
  induction cells generalizing s counted with
  | nil => rfl
  | cons cell cells ih =>
    obtain ⟨first, others⟩ := List.forall_mem_cons.mp skips
    obtain ⟨passed, kept⟩ := leads_skipped inside first s same
    have talk := Program.converses_run memoryPlate (a.processCell cell) s
    rw [processCells_cons, Program.exchanges_bind, List.map_append, List.map_cons]
    cases ran : (a.processCell cell).run memoryPlate s with | mk r t =>
    rw [ran] at passed kept talk
    cases passed
    rw [ih others (counted.visit 0) kept]
    obtain visit | ⟨_, failed⟩ := converses_processCell talk
    · rw [visit.calls_skipped rfl]
      rfl
    · cases failed

/-- A pass that ends at a cell has only searched the cells before it, which it skipped. -/
theorem calls_stopped (inside : 0 ≤ a.level ∧ a.level < p.levels)
    (skips : ∀ c ∈ before, a.Skips p c) {e : Failure}
    (failed : (a.processCell cell).Leads memoryPlate (OnlyLogged p) (OnlyLogged p) (.error e))
    (after : List Cell) (counted : Summary) (same : OnlyLogged p s.state) :
    ∃ xs, Program.Converses (a.processCell cell) xs (.error e) ∧
      ((a.processCells (before ++ cell :: after) counted).exchanges memoryPlate s.state).map
        Exchange.call = before.map a.request ++ xs.map Exchange.call := by
  obtain ⟨passed, kept⟩ := leads_empties inside skips counted s same
  have earlier := calls_empties inside skips counted same
  rw [processCells_append, Program.exchanges_bind, List.map_append, earlier]
  cases ran : (a.processCells before counted).run memoryPlate s with | mk r t =>
  rw [ran] at passed kept
  cases passed
  have talk := Program.converses_run memoryPlate (a.processCell cell) t
  rw [(failed t kept).1] at talk
  refine ⟨_, talk, congrArg (before.map a.request ++ ·) ?_⟩
  cases ended : (a.processCell cell).run memoryPlate t with | mk r u =>
  obtain rfl : r = .error e := (congrArg Prod.fst ended).symm.trans (failed t kept).1
  dsimp only
  rw [processCells_cons, Program.exchanges_bind, ended, List.append_nil]

/-! ### Runs one after another -/

/-- Only the first cell that has versions decides whether a pass comes to a property that cells
which are skipped do not have. -/
theorem comes_iff {after : List Cell} {P : Cell → Prop}
    (split : units.flatMap WorkUnit.cells = before ++ cell :: after)
    (skips : ∀ c ∈ before, a.Skips p c) (nonempty : a.stack p.tiles cell ≠ [])
    (free : ∀ c, a.Skips p c → ¬P c) :
    (∃ before cell after, units.flatMap WorkUnit.cells = before ++ cell :: after ∧
      (∀ c ∈ before, a.stack p.tiles c = []) ∧ P cell) ↔ P cell := by
  constructor
  · rintro ⟨before', cell', after', split', empties', holds⟩
    obtain reached | passed := mem_of_split (split.symm.trans split')
    · rcases List.mem_append.mp reached with earlier | last
      · exact absurd (empties' cell earlier) nonempty
      · cases List.mem_singleton.mp last
        exact holds
    · exact absurd holds (free cell' (skips cell' passed))
  · exact fun holds => ⟨before, cell, after, split, fun c member => (skips c member).1, holds⟩

theorem Sound.not_flat (sound : a.Sound p.tiles cell) :
    ¬(Agrees a.pixel (a.stack p.tiles cell) ∧ Flat (a.stack p.tiles cell)) :=
  fun flat => sound.solid flat.2

theorem Sound.not_untold (sound : a.Sound p.tiles cell) :
    ¬(a.stack p.tiles cell = [] ∧ ¬a.Searchable cell ∨
      ∃ e, Blames a.pixel cell (a.stack p.tiles cell) e ∧ ¬e.isLegible = true) := by
  rintro (⟨empty, untold⟩ | ⟨e, blamed, _⟩)
  · exact untold (sound.searchable empty)
  · exact blamed.disagrees sound.agrees

/-- A pass over sound cells comes to nothing of the kind. -/
theorem comes_to_nothing (sound : ∀ c ∈ units.flatMap WorkUnit.cells, a.Sound p.tiles c) :
    ¬a.ComesToFlat p units ∧ ¬a.ComesToUntold p units := by
  constructor
  · rintro ⟨before, cell, after, split, _, flat⟩
    exact (sound cell (split ▸ List.mem_append_right _ List.mem_cons_self)).not_flat flat
  · rintro ⟨before, cell, after, split, _, untold⟩
    exact (sound cell (split ▸ List.mem_append_right _ List.mem_cons_self)).not_untold untold

/-- A cell that fails was visited, unless it got stuck at flat tiles. -/
theorem visit_of_ne {e : Failure} (talk : Program.Converses (a.processCell cell) xs (.error e))
    (other : e ≠ .unequalPlanes) : a.Visit cell xs (.error e) := by
  obtain visit | ⟨_, same⟩ := converses_processCell talk
  · exact visit
  · exact absurd (Except.error.inj same) other

theorem Obstructed.isStore {calls : List Call} {e : Failure}
    (obstructed : a.Obstructed p units calls (.error e)) : e.category.isStore = true := by
  cases obstructed with
  | refused => rfl
  | unloaded _ _ _ store =>
    rw [store]
    rfl

/-- What stops a pass at a cell with versions is as it has to be, unless the versions are flat or
cannot be told. -/
theorem obstructed_stopped {before after : List Cell} {e : Failure}
    (split : units.flatMap WorkUnit.cells = before ++ cell :: after)
    (skips : ∀ c ∈ before, a.Skips p c) (stops : a.Stops p.tiles cell e)
    (talk : Program.Converses (a.processCell cell) xs (.error e)) :
    a.Obstructed p units (before.map a.request ++ xs.map Exchange.call) (.error e) ↔
      ¬a.ComesToFlat p units ∧ ¬a.ComesToUntold p units := by
  have empties (c : Cell) (member : c ∈ before) : a.stack p.tiles c = [] := (skips c member).1
  cases stops with
  | blamed blamed =>
    have nonempty : a.stack p.tiles cell ≠ [] := fun empty =>
      blamed.disagrees (agrees_of_empty empty)
    have unmet : ¬a.ComesToFlat p units := fun flat => blamed.disagrees
      ((comes_iff split skips nonempty fun _ skips => skips.sound.not_flat).mp flat).1
    rw [and_iff_right unmet, ComesToUntold,
      comes_iff split skips nonempty fun _ skips => skips.sound.not_untold]
    constructor
    · rintro obstructed (⟨empty, _⟩ | ⟨e', blamed', untold⟩)
      · exact nonempty empty
      · have legible := Failure.legible_of_isStore obstructed.isStore
        exact untold ((blamed.legible_iff blamed').mp legible)
    · intro told
      have legible : e.isLegible = true := by
        by_contra untold
        exact told (.inr ⟨e, blamed, untold⟩)
      refine .unloaded split empties blamed (blamed.category_iff.mpr legible)
        (visit_of_ne talk ?_)
      rintro rfl
      cases blamed
  | flat agrees flat =>
    exact iff_of_false (fun obstructed => nomatch obstructed.isStore)
      fun solid => solid.1 ⟨before, cell, after, split, empties, agrees, flat⟩
  | missing empty untold =>
    refine iff_of_false (fun obstructed => untold ?_) fun told =>
      told.2 ⟨before, cell, after, split, empties, .inl ⟨empty, untold⟩⟩
    exact legible_missing.mp (Failure.legible_of_isStore obstructed.isStore)

/-- A pass is obstructed just if it comes neither to flat tiles that agree nor to what cannot be
told. -/
theorem process_obstructed (inside : 0 ≤ a.level ∧ a.level < p.levels) (opened : p.staged ≠ none)
    (units : List WorkUnit) (same : OnlyLogged p s.state) :
    a.Obstructed p units (((a.process units).exchanges memoryPlate s.state).map Exchange.call)
      ((a.process units).run memoryPlate s).1 ↔
      ¬a.ComesToFlat p units ∧ ¬a.ComesToUntold p units := by
  have calls : (a.process units).exchanges memoryPlate s.state =
      (a.processCells (units.flatMap WorkUnit.cells) { units := units.length }).exchanges
        memoryPlate s.state := by
    rw [← Program.exchanges_silent, process_silent, Program.exchanges_silent]
  obtain ⟨skips, leads⟩ | ⟨before, cell, after, e, split, skips, kept, held, failed, leads⟩ :=
    process_opened inside opened units
  · rw [(leads s same).1, calls, calls_empties inside skips _ same]
    exact iff_of_true (.idle fun c member => (skips c member).1)
      (comes_to_nothing fun c member => (skips c member).sound)
  obtain ⟨xs, talk, called⟩ := calls_stopped inside skips failed after
    { units := units.length } same
  rw [(leads s same).1, calls, split, called]
  obtain stops | ⟨sound, _, rfl⟩ := held
  · exact obstructed_stopped split skips stops talk
  · have nonempty : a.stack p.tiles cell ≠ [] := fun empty => kept ⟨empty, sound.searchable empty⟩
    rw [ComesToFlat, comes_iff split skips nonempty fun _ skips => skips.sound.not_flat,
      ComesToUntold, comes_iff split skips nonempty fun _ skips => skips.sound.not_untold]
    have empties (c : Cell) (member : c ∈ before) : a.stack p.tiles c = [] := (skips c member).1
    exact iff_of_true (.refused split empties nonempty sound.agrees (visit_of_ne talk nofun))
      ⟨sound.not_flat, sound.not_untold⟩

theorem guarded_processEach (runs : List (Aggregation × List WorkUnit)) :
    (processEach runs).Guarded := by
  induction runs with
  | nil => trivial
  | cons run runs ih =>
    exact (guarded_process run.2).attempt.bind fun _ => ih.bind fun _ => trivial

section
variable (plate : Plate σ) (a : Aggregation) (units : List WorkUnit)
  (runs : List (Aggregation × List WorkUnit)) (t : Session σ)

theorem processEach_cons : processEach ((a, units) :: runs) =
    (a.process units).attempt.bind fun r => (processEach runs).bind fun rs => .done (r :: rs) := rfl

/-- Whatever becomes of the first run, the others follow. -/
theorem run_processEach_cons : ((processEach ((a, units) :: runs)).run plate t).1 =
    ((processEach runs).run plate ((a.process units).run plate t).2).1.map
      (((a.process units).run plate t).1 :: ·) := by
  rw [processEach_cons, Program.run_bind, Program.run_attempt]
  dsimp only
  rw [Program.run_bind]
  obtain ⟨rs, u⟩ := (processEach runs).run plate ((a.process units).run plate t).2
  cases rs <;> rfl

theorem exchanges_processEach_cons : (processEach ((a, units) :: runs)).exchanges plate t.state =
    (a.process units).exchanges plate t.state ++
      (processEach runs).exchanges plate ((a.process units).run plate t).2.state := by
  rw [processEach_cons, Program.exchanges_bind, Program.exchanges_attempt, Program.run_attempt]
  dsimp only
  rw [Program.exchanges_bind]
  refine congrArg (_ ++ ·) ?_
  split <;> exact List.append_nil _

end

theorem processEach_told {runs : List (Aggregation × List WorkUnit)} (opened : p.staged ≠ none)
    (inside : ∀ run ∈ runs, 0 ≤ run.1.level ∧ run.1.level < p.levels)
    (same : OnlyLogged p s.state) :
    ∃ told : List (List Call × Except Failure Summary),
      ((processEach runs).run memoryPlate s).1 = .ok (told.map Prod.snd) ∧
      ((processEach runs).exchanges memoryPlate s.state).map Exchange.call =
        told.flatMap Prod.fst ∧
      List.Forall₂ (fun run one => run.1.Obstructed p run.2 one.1 one.2 ↔
        ¬run.1.ComesToFlat p run.2 ∧ ¬run.1.ComesToUntold p run.2) runs told := by
  induction runs generalizing s with
  | nil => exact ⟨[], rfl, rfl, .nil⟩
  | cons run runs ih =>
    obtain ⟨a, units⟩ := run
    obtain ⟨here, others⟩ := List.forall_mem_cons.mp inside
    have first := process_obstructed here opened units same
    have kept := run_guarded (guarded_process (a := a) units) opened same
    obtain ⟨told, result, calls, ends⟩ := ih others kept
    refine ⟨(((a.process units).exchanges memoryPlate s.state).map Exchange.call,
      ((a.process units).run memoryPlate s).1) :: told, ?_, ?_, .cons first ends⟩
    · rw [run_processEach_cons, result]
      rfl
    · rw [exchanges_processEach_cons, List.map_append, calls]
      rfl

/-- However many runs come after an open write was left, it and the tiles are at every moment
as they were. A run is obstructed just if it comes neither to flat tiles that agree nor to what
cannot be told. -/
theorem processEach_obstructed (opened : p.staged ≠ none)
    {runs : List (Aggregation × List WorkUnit)}
    (inside : ∀ run ∈ runs, 0 ≤ run.1.level ∧ run.1.level < p.levels) :
    let run := (processEach runs).run memoryPlate { state := p }
    (∀ t ∈ (processEach runs).moments memoryPlate { state := p },
      t.state.tiles = p.tiles ∧ t.state.staged = p.staged) ∧
    run.2.state.tiles = p.tiles ∧ run.2.state.staged = p.staged ∧
    ∃ told : List (List Call × Except Failure Summary), run.1 = .ok (told.map Prod.snd) ∧
      run.2.calls = told.flatMap Prod.fst ∧
      List.Forall₂ (fun run one => run.1.Obstructed p run.2 one.1 one.2 ↔
        ¬run.1.ComesToFlat p run.2 ∧ ¬run.1.ComesToUntold p run.2) runs told := by
  intro run
  have same : OnlyLogged p (Session.mk p #[]).state := rfl
  have unchanged {q : MemoryPlate} (kept : OnlyLogged p q) :
      q.tiles = p.tiles ∧ q.staged = p.staged := by
    rw [kept]
    exact ⟨rfl, rfl⟩
  have guarded := guarded_processEach runs
  obtain ⟨told, result, calls, ends⟩ := processEach_told opened inside same
  obtain ⟨tiles, staged⟩ := unchanged (run_guarded guarded opened same)
  refine ⟨fun t moment => unchanged (moments_guarded guarded opened same t moment), tiles, staged,
    told, result, ?_, ends⟩
  rw [Program.calls_run, calls]
  rfl

/-- Of two runs beside a staged tile one finds nothing, and one is refused its write. The tile
can never be read. -/
theorem processEach_obstructed_twice :
    let tile : Buffer := ⟨.uint8, [1, 1, 4], .replicate 4 (.finite 1)⟩
    let p : MemoryPlate := {
      levels := 1, format := .member .rgba, channel := .member .uint8,
      tiles := TileMap.apply ∅ [(⟨0, 1, 0, 1⟩, tile)], staged := some [(⟨0, 0, 0, 9⟩, tile)] }
    let a : Aggregation := ⟨⟨.rgba, .uint8⟩, .weightedAverage, 0, 0, 5, 9⟩
    let runs : List (Aggregation × List WorkUnit) :=
      [(a, [⟨0, 0, 0, 1, 1, by decide, by decide⟩]), (a, [⟨0, 0, 0, 2, 1, by decide, by decide⟩])]
    (∀ t ∈ (processEach runs).moments memoryPlate { state := p },
      t.state.get? ⟨0, 0, 0, 9⟩ = none) ∧
    ∃ told : List (List Call × Except Failure Summary),
      ((processEach runs).run memoryPlate { state := p }).1 = .ok (told.map Prod.snd) ∧
      List.Forall₂ (fun run one => run.1.Obstructed p run.2 one.1 one.2) runs told := by
  intro tile p a runs
  have opened : p.staged ≠ none := by decide
  have inside : ∀ run ∈ runs, 0 ≤ run.1.level ∧ run.1.level < p.levels := by decide
  have empty : a.stack p.tiles ⟨0, 0⟩ = [] := by decide +kernel
  have stored : a.stack p.tiles ⟨1, 0⟩ = [⟨1, tile⟩] := by decide +kernel
  have sound : ∀ cell ∈ [(⟨0, 0⟩ : Cell), ⟨1, 0⟩], a.Sound p.tiles cell := by
    rw [List.forall_mem_cons, List.forall_mem_singleton]
    refine ⟨sound_of_empty empty (by decide +kernel),
      sound_of_rows 0 1 4 (by decide +kernel) ?_ (by rw [stored]; decide)⟩
    rw [stored, List.forall_mem_singleton]
    exact ⟨_, rfl⟩
  have free {units : List WorkUnit} (among : units.flatMap WorkUnit.cells ⊆ [⟨0, 0⟩, ⟨1, 0⟩]) :
      ¬a.ComesToFlat p units ∧ ¬a.ComesToUntold p units :=
    comes_to_nothing fun c member => sound c (among member)
  obtain ⟨kept, _, _, told, result, _, ends⟩ := processEach_obstructed opened inside
  constructor
  · intro t moment
    rw [MemoryPlate.get?, (kept t moment).1]
    decide +kernel
  · obtain ⟨one, others, first, rest, rfl⟩ := List.forall₂_cons_left_iff.mp ends
    obtain ⟨two, others, second, none_left, rfl⟩ := List.forall₂_cons_left_iff.mp rest
    obtain rfl := List.forall₂_nil_left_iff.mp none_left
    exact ⟨_, result, .cons (first.mpr (free (by decide)))
      (.cons (second.mpr (free (by decide))) .nil)⟩

/-- Flat tiles that agree end a run before it finds out about the open write. -/
theorem flat_tile_unobstructed :
    let p : MemoryPlate := {
      levels := 1, format := .member .graya, channel := .member .uint8,
      tiles := TileMap.apply ∅ [(⟨0, 0, 0, 1⟩, ⟨.uint8, [0, 3, 2], #[]⟩)], staged := some [] }
    let a : Aggregation := ⟨⟨.graya, .uint8⟩, .weightedAverage, 0, 0, 5, 9⟩
    let units : List WorkUnit := [⟨0, 0, 0, 1, 1, by decide, by decide⟩]
    p.staged ≠ none ∧ (0 ≤ a.level ∧ a.level < p.levels) ∧
      units.flatMap WorkUnit.cells = [⟨0, 0⟩] ∧ a.stack p.tiles ⟨0, 0⟩ ≠ [] ∧
      Agrees a.pixel (a.stack p.tiles ⟨0, 0⟩) ∧
      ((a.process units).run memoryPlate { state := p }).1 ≠ .error .writeOpen := by
  intro p a units
  have stack : a.stack p.tiles ⟨0, 0⟩ = [⟨1, ⟨.uint8, [0, 3, 2], #[]⟩⟩] := by decide +kernel
  refine ⟨by decide, by decide, by decide, ?_, ?_, by decide +kernel⟩
  · rw [stack]
    exact List.cons_ne_nil _ _
  · rw [stack]
    refine ⟨?_, by decide⟩
    rw [List.forall_mem_singleton]
    exact ⟨_, rfl⟩

end Aggregation
end TileComposite
