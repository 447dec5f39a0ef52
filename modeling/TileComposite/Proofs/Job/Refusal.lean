import TileComposite.Proofs.Aggregate.Blocked
import TileComposite.Proofs.Job.Fit
import TileComposite.Proofs.Pixel.Declared

/-! Jobs that are refused. A job either fits a plate or fails one of five checks, in their
order, before its first call. Once it fits, nothing but the plate can fail, save for flat tiles
that come before anything else holds up the pass, and for integers that are too long for what
is to be said or logged. -/
namespace TileComposite

/-- The reducer goes by the name, whatever the name's case and the blanks around it. -/
def Reducer.Named (r : Reducer) (name : String) : Prop :=
  Text.lower (String.ofList (Text.trim Text.isBlank name.toList)) = r.key

theorem Reducer.ofName_cases (name : String) :
    (∃ r : Reducer, r.Named name ∧ ofName (.scalar (.text name)) = .ok r) ∨
    (∀ r : Reducer, ¬r.Named name) ∧
      ofName (.scalar (.text name)) = .error (.unknownReducer name) := by
  have shown : Value.shown? (.scalar (.text name)) = some name := rfl
  unfold ofName
  rw [shown]
  by_cases named : weightedAverage.Named name
  · exact .inl ⟨_, named, if_pos (congrArg some named)⟩
  · exact .inr ⟨fun | .weightedAverage => named, if_neg (mt Option.some.inj named)⟩

namespace Config

/-- The first of the five checks that the job fails on the plate, as a failure. -/
inductive Refused (c : Config) (p : MemoryPlate) : Failure → Prop where
  | url : c.url = "" → Refused c p .urlRequired
  | last : c.url ≠ "" → c.last = none → Refused c p .endRequired
  | function : c.url ≠ "" → c.last ≠ none → (∀ r : Reducer, ¬r.Named c.function) →
      Refused c p (.unknownReducer c.function)
  | level : c.url ≠ "" → c.last ≠ none → (∃ r : Reducer, r.Named c.function) →
      ¬(0 ≤ c.level ∧ c.level < p.levels) → Refused c p (.levelNotInPlate c.level c.url p.levels)
  | pixels {e} : c.url ≠ "" → c.last ≠ none → (∃ r : Reducer, r.Named c.function) →
      (0 ≤ c.level ∧ c.level < p.levels) → PixelType.Unsupported p.format p.channel e →
      Refused c p e

/-- The failures of jobs that are not refused. -/
inductive Late : Failure → Prop where
  | plate {e} : e.category.isStore = true → Late e
  | flat : Late .unequalPlanes
  | unlogged : Late .unlogged
  | illegible {e} : ¬e.isLegible = true → Late e

/-- The failure is one of a job or of the plate. -/
def Told (e : Failure) : Prop :=
  (e.category = .argument ∨ e.category = .unsupported) ∨ e.category.isStore = true

/-- What can end the job is a failure of a job or of the plate: all that is to be said or logged
can be written when the job comes to it, and no flat tiles are the first to hold up the pass. -/
structure Accountable (c : Config) (p : MemoryPlate) : Prop where
  refusals : ∀ e, Refused c p e → e.isLegible = true
  logged : ∀ a, Fits c p a → c.Loggable
  units : ∀ a, Fits c p a → ∀ done unit rest, c.units = done ++ unit :: rest →
    (∀ x ∈ done.flatMap WorkUnit.cells, a.Clears p x) → unit.Labelled
  cells : ∀ a, Fits c p a → ∀ before cell after, c.cells = before ++ cell :: after →
    (∀ x ∈ before, a.Clears p x) → a.Answerable p.tiles cell

/-- The checks that a run makes of its parts pass: the level has a grid, every block of the
grid has bounds in order, and the job has its share of the blocks. -/
structure Divides (c : Config) : Prop where
  size : levelSize c.level = .ok (Nat.pow 2 c.level.toNat)
  bounds : ∀ colMin ∈ c.blockSize.starts (Nat.pow 2 c.level.toNat),
    ∀ rowMin ∈ c.blockSize.starts (Nat.pow 2 c.level.toNat),
      ∃ u ∈ c.blockSize.blocks (Nat.pow 2 c.level.toNat) c.level,
        WorkUnit.ofBounds c.level colMin rowMin
          (min (colMin + c.block) (Nat.pow 2 c.level.toNat))
          (min (rowMin + c.block) (Nat.pow 2 c.level.toNat)) = .ok u
  units : c.blockSize.unitsForSlot c.level c.slot = .ok c.units

variable {c : Config} {p : MemoryPlate} {a : Aggregation} {e : Failure}

theorem Refused.kind (refused : Refused c p e) : e.kind = .argument ∨ e.kind = .unsupported := by
  cases refused with
  | pixels _ _ _ _ unsupported => exact .inr unsupported.kind
  | url | last | function | level => exact .inl rfl

theorem Refused.category_iff (refused : Refused c p e) :
    e.category = .argument ∨ e.category = .unsupported ↔ e.isLegible = true := by
  constructor
  · rintro (argument | unsupported)
    · exact Failure.legible argument
    · exact Failure.legible unsupported
  · intro legible
    rw [Failure.category_of_legible legible]
    exact refused.kind

/-! ### The checks of a job -/

theorem requireComplete_eq {l : Int} (url : c.url ≠ "") (last : c.last = some l) :
    c.requireComplete = .ok l := by
  have nonempty : ¬c.url.isEmpty = true := by rwa [String.isEmpty_iff]
  rw [requireComplete, if_neg nonempty, last]

theorem ofConfig_of_named {l : Int} {r : Reducer} (complete : c.requireComplete = .ok l)
    (named : Reducer.ofName (.scalar (.text c.function)) = .ok r) :
    Job.ofConfig c = .ok ⟨c, l, r⟩ := by
  rw [Job.ofConfig, complete, named]
  rfl

theorem ofConfig_of_unnamed {l : Int} (complete : c.requireComplete = .ok l)
    (unnamed : Reducer.ofName (.scalar (.text c.function)) = .error e) :
    Job.ofConfig c = .error e := by
  rw [Job.ofConfig, complete, unnamed]
  rfl

theorem runJobLogged_unready (failed : Job.ofConfig c = .error e) :
    runJobLogged memoryPlate c p = (.error e, { state := p }) := by rw [runJobLogged, failed]

theorem runJobLogged_unplanned {job : Job} (made : Job.ofConfig c = .ok job)
    (failed : job.plan p.levels p.format p.channel = .error e) :
    runJobLogged memoryPlate c p = (.error e, { state := p }) := by
  have failed : job.plan (memoryPlate.levels p) (memoryPlate.format p) (memoryPlate.channel p) =
      .error e := failed
  rw [runJobLogged, made]
  change job.runLogged memoryPlate p = _
  rw [Job.runLogged, failed]

/-- A refused job fails with its refusal, calls nothing and leaves the plate as it is. -/
theorem Refused.runJobLogged_eq (refused : Refused c p e) :
    runJobLogged memoryPlate c p = (.error e, { state := p }) := by
  cases refused with
  | url empty =>
    refine runJobLogged_unready ?_
    rw [Job.ofConfig, requireComplete, if_pos (String.isEmpty_iff.mpr empty)]
    rfl
  | last url none =>
    have nonempty : ¬c.url.isEmpty = true := by rwa [String.isEmpty_iff]
    refine runJobLogged_unready ?_
    rw [Job.ofConfig, requireComplete, if_neg nonempty, none]
    rfl
  | function url last unnamed =>
    obtain ⟨l, last⟩ := Option.ne_none_iff_exists'.mp last
    obtain ⟨r, named, _⟩ | ⟨_, unknown⟩ := Reducer.ofName_cases c.function
    · exact absurd named (unnamed r)
    · exact runJobLogged_unready (ofConfig_of_unnamed (requireComplete_eq url last) unknown)
  | level url last named outside =>
    obtain ⟨l, last⟩ := Option.ne_none_iff_exists'.mp last
    obtain ⟨r, _, found⟩ | ⟨unnamed, _⟩ := Reducer.ofName_cases c.function
    · refine runJobLogged_unplanned (ofConfig_of_named (requireComplete_eq url last) found) ?_
      rw [Job.plan, Job.checkLevel, if_neg outside]
      rfl
    · exact absurd named (not_exists.mpr unnamed)
  | pixels url last named inside unsupported =>
    obtain ⟨l, last⟩ := Option.ne_none_iff_exists'.mp last
    obtain ⟨r, _, found⟩ | ⟨unnamed, _⟩ := Reducer.ofName_cases c.function
    · refine runJobLogged_unplanned (ofConfig_of_named (requireComplete_eq url last) found) ?_
      rw [Job.plan, Job.checkLevel, if_pos inside, unsupported.resolve_eq]
      rfl
    · exact absurd named (not_exists.mpr unnamed)

theorem refused_or_fits (c : Config) (p : MemoryPlate) :
    (∃ e, Refused c p e) ∨ ∃ a, Fits c p a := by
  by_cases url : c.url = ""
  · exact .inl ⟨_, .url url⟩
  cases last : c.last with
  | none => exact .inl ⟨_, .last url last⟩
  | some l =>
    have given : c.last ≠ none := Option.ne_none_iff_exists'.mpr ⟨l, last⟩
    obtain ⟨r, named, found⟩ | ⟨unnamed, _⟩ := Reducer.ofName_cases c.function
    · by_cases inside : 0 ≤ c.level ∧ c.level < p.levels
      · obtain ⟨e, _, unsupported⟩ | ⟨t, _, supported, _⟩ :=
          PixelType.resolve_cases p.format p.channel
        · exact .inl ⟨e, .pixels url given ⟨r, named⟩ inside unsupported⟩
        · exact .inr ⟨⟨t, r, c.level, c.first, l, c.output⟩, requireComplete_eq url last, found,
            inside, supported, rfl, rfl, rfl⟩
      · exact .inl ⟨_, .level url given ⟨r, named⟩ inside⟩
    · exact .inl ⟨_, .function url given unnamed⟩

theorem Fits.some_named (fits : Fits c p a) : ∃ r : Reducer, r.Named c.function := by
  obtain ⟨r, named, _⟩ | ⟨_, unknown⟩ := Reducer.ofName_cases c.function
  · exact ⟨r, named⟩
  · cases unknown.symm.trans fits.named

/-- A job that fits passes each of the five checks. -/
theorem Fits.passes (fits : Fits c p a) :
    c.url ≠ "" ∧ c.last ≠ none ∧ (∃ r : Reducer, r.Named c.function) ∧
      (0 ≤ c.level ∧ c.level < p.levels) ∧
      ∃ t ∈ PixelType.supported, p.format.Means PixelFormat.name t.format ∧
        p.channel.Means ChannelType.name t.channel := by
  obtain ⟨url, last⟩ := requireComplete_ok_iff.mp ⟨_, fits.complete⟩
  exact ⟨url, last, fits.some_named, fits.inside, PixelType.resolve_ok_iff.mp ⟨_, fits.supported⟩⟩

theorem Refused.not_fits (refused : Refused c p e) : ¬Fits c p a := by
  intro fits
  obtain ⟨url, last, ⟨r, named⟩, inside, supported⟩ := fits.passes
  cases refused with
  | url empty => exact url empty
  | last _ none => exact last none
  | function _ _ unnamed => exact unnamed r named
  | level _ _ _ outside => exact outside inside
  | pixels _ _ _ _ unsupported => exact unsupported.not_named supported

theorem refused_iff : (∃ e, Refused c p e) ↔
    c.url = "" ∨ c.last = none ∨ (∀ r : Reducer, ¬r.Named c.function) ∨
      ¬(0 ≤ c.level ∧ c.level < p.levels) ∨
      ¬∃ t ∈ PixelType.supported, p.format.Means PixelFormat.name t.format ∧
        p.channel.Means ChannelType.name t.channel := by
  constructor
  · rintro ⟨e, refused⟩
    cases refused with
    | url empty => exact .inl empty
    | last _ none => exact .inr (.inl none)
    | function _ _ unnamed => exact .inr (.inr (.inl unnamed))
    | level _ _ _ outside => exact .inr (.inr (.inr (.inl outside)))
    | pixels _ _ _ _ unsupported => exact .inr (.inr (.inr (.inr unsupported.not_named)))
  · intro fails
    obtain refused | ⟨a, fits⟩ := refused_or_fits c p
    · exact refused
    · obtain ⟨url, last, ⟨r, named⟩, inside, supported⟩ := fits.passes
      obtain empty | none | unnamed | outside | unsupported := fails
      · exact absurd empty url
      · exact absurd none last
      · exact absurd named (unnamed r)
      · exact absurd inside outside
      · exact absurd supported unsupported

/-! ### Jobs that fit -/

/-- A job that fits and can begin its log gets to its end, to a unit whose label cannot be
written, or to the first cell that holds it up. -/
theorem Fits.runJobLogged_ends (fits : Fits c p a) (loggable : c.Loggable) :
    let outcome := (runJobLogged memoryPlate c p).1
    ((∀ u ∈ c.units, u.Labelled) ∧ (∀ cell ∈ c.cells, a.Clears p cell) ∧
      ∃ result, outcome = .ok result) ∨
    (∃ done unit rest, c.units = done ++ unit :: rest ∧ ¬unit.Labelled ∧
      (∀ cell ∈ done.flatMap WorkUnit.cells, a.Clears p cell) ∧ outcome = .error .unlogged) ∨
    ∃ done rest before cell after e, c.units = done ++ rest ∧ (∀ u ∈ done, u.Labelled) ∧
      done.flatMap WorkUnit.cells = before ++ cell :: after ∧ (∀ x ∈ before, a.Clears p x) ∧
      ¬a.Clears p cell ∧ a.HeldUp p cell e ∧ outcome = .error e := by
  rw [fits.runJobLogged_eq loggable]
  dsimp only
  obtain ⟨labelled, clears, total, result⟩ | ⟨done, unit, rest, split, unlabelled, clears, result⟩ |
    ⟨done, rest, before, cell, after, e, split, labelled, place, clears, blocks, held, result⟩ :=
    Aggregation.processLogged_ends fits.level_inside c.nodup_cells
  · rw [result]
    exact .inl ⟨labelled, clears, _, rfl⟩
  · rw [result]
    exact .inr (.inl ⟨done, unit, rest, split, unlabelled, clears, rfl⟩)
  · rw [result]
    exact .inr (.inr ⟨done, rest, before, cell, after, e, split, labelled, place, clears, blocks,
      held, rfl⟩)

/-- The job is refused, cannot be logged, or is held up by a cell. -/
theorem fails_cases (failed : (runJobLogged memoryPlate c p).1 = .error e) :
    Refused c p e ∨ ∃ a, Fits c p a ∧ (e = .unlogged ∨ ∃ cell, a.HeldUp p cell e) := by
  obtain ⟨e', refused⟩ | ⟨a, fits⟩ := refused_or_fits c p
  · rw [refused.runJobLogged_eq] at failed
    cases failed
    exact .inl refused
  · refine .inr ⟨a, fits, ?_⟩
    by_cases loggable : c.Loggable
    · obtain ⟨_, _, result, succeeded⟩ | ⟨_, _, _, _, _, _, unlogged⟩ |
        ⟨_, _, _, cell, _, e', _, _, _, _, _, held, failed'⟩ := fits.runJobLogged_ends loggable
      · cases failed.symm.trans succeeded
      · cases failed.symm.trans unlogged
        exact .inl rfl
      · cases failed.symm.trans failed'
        exact .inr ⟨cell, held⟩
    · rw [fits.runJobLogged_unlogged loggable] at failed
      cases failed
      exact .inl rfl

theorem late_of_heldUp {cell : Cell} (held : a.HeldUp p cell e) : Late e := by
  obtain store | ⟨_, _, rfl⟩ | illegible := held.category
  · exact .plate store
  · exact .flat
  · exact .illegible illegible

theorem late_of_fails (failed : (runJobLogged memoryPlate c p).1 = .error e)
    (unrefused : ¬Refused c p e) : Late e := by
  obtain refused | ⟨a, _, rfl | ⟨cell, held⟩⟩ := fails_cases failed
  · exact absurd refused unrefused
  · exact .unlogged
  · exact late_of_heldUp held

/-! ### What the failures are -/

theorem Late.not_refusal (late : Late e) :
    ¬(e.category = .argument ∨ e.category = .unsupported) := by
  cases late with
  | plate store =>
    rintro (argument | unsupported)
    · rw [argument] at store
      contradiction
    · rw [unsupported] at store
      contradiction
  | flat | unlogged => decide
  | illegible illegible =>
    rw [Failure.category_of_illegible illegible]
    decide

theorem not_told_unlogged : ¬Told .unlogged := by
  unfold Told
  decide

theorem Refused.told_iff (refused : Refused c p e) : Told e ↔ e.isLegible = true := by
  refine ⟨fun told => ?_, fun legible => .inl (refused.category_iff.mpr legible)⟩
  exact told.elim refused.category_iff.mp Failure.legible_of_isStore

theorem told_of_heldUp {cell : Cell} (held : a.HeldUp p cell e) :
    Told e ↔ a.Answerable p.tiles cell :=
  ⟨fun told => held.isStore_iff.mp (told.resolve_left (late_of_heldUp held).not_refusal),
    fun answerable => .inr (held.isStore_iff.mpr answerable)⟩

/-- What has a property throughout comes before a first place without it. -/
theorem subset_of_split {α : Type} {P : α → Prop} {done rest before after : List α} {x : α}
    (holds : ∀ y ∈ done, P y) (fails : ¬P x) (split : done ++ rest = before ++ x :: after) :
    done ⊆ before := by
  obtain ⟨between, rfl, _⟩ | ⟨between, rfl, tail⟩ := List.append_eq_append_iff.mp split
  · exact List.subset_append_left _ _
  · cases between with
    | nil =>
      rw [List.append_nil]
      exact List.Subset.refl _
    | cons y between =>
      cases tail
      exact absurd (holds x (List.mem_append_right _ List.mem_cons_self)) fails

theorem Refused.accountable_iff (refused : Refused c p e) : c.Accountable p ↔ Told e := by
  rw [refused.told_iff]
  refine ⟨fun accountable => accountable.refusals e refused, fun legible => ?_⟩
  refine ⟨fun e' refused' => ?_, fun a fits => absurd fits refused.not_fits,
    fun a fits => absurd fits refused.not_fits, fun a fits => absurd fits refused.not_fits⟩
  have same := refused.runJobLogged_eq.symm.trans refused'.runJobLogged_eq
  cases congrArg Prod.fst same
  exact legible

theorem Fits.accountable_iff (fits : Fits c p a) : c.Accountable p ↔ c.Loggable ∧
    (∀ done unit rest, c.units = done ++ unit :: rest →
      (∀ x ∈ done.flatMap WorkUnit.cells, a.Clears p x) → unit.Labelled) ∧
    ∀ before cell after, c.cells = before ++ cell :: after → (∀ x ∈ before, a.Clears p x) →
      a.Answerable p.tiles cell := by
  refine ⟨fun h => ⟨h.logged a fits, h.units a fits, h.cells a fits⟩, ?_⟩
  rintro ⟨loggable, units, cells⟩
  refine ⟨fun e refused => absurd fits refused.not_fits, fun _ _ => loggable, ?_, ?_⟩
  · intro b fits'
    cases fits.unique fits'
    exact units
  · intro b fits'
    cases fits.unique fits'
    exact cells

/-- Whether a job is accountable is found out at the first cell that holds it up, unless it comes
to a unit without a label before. -/
theorem Fits.accountable_iff_answerable (fits : Fits c p a) (loggable : c.Loggable)
    {done rest : List WorkUnit} {before after : List Cell} {cell : Cell}
    (split : c.units = done ++ rest) (labelled : ∀ u ∈ done, u.Labelled)
    (place : done.flatMap WorkUnit.cells = before ++ cell :: after)
    (clears : ∀ x ∈ before, a.Clears p x) (blocks : ¬a.Clears p cell) :
    c.Accountable p ↔ a.Answerable p.tiles cell := by
  have whole : c.cells = before ++ cell :: (after ++ rest.flatMap WorkUnit.cells) := by
    rw [cells, split, List.flatMap_append, place, List.append_assoc, List.cons_append]
  rw [fits.accountable_iff]
  refine ⟨fun ⟨_, _, cells⟩ => cells before cell _ whole clears,
    fun answerable => ⟨loggable, ?_, ?_⟩⟩
  · intro done' unit rest' split' clears'
    -- A unit without a label comes after those that have one, the cell among them.
    by_contra unlabelled
    have earlier := subset_of_split labelled unlabelled (split.symm.trans split')
    have here : cell ∈ done.flatMap WorkUnit.cells :=
      place ▸ List.mem_append_right _ List.mem_cons_self
    obtain ⟨u, member, inside⟩ := List.mem_flatMap.mp here
    exact blocks (clears' cell (List.mem_flatMap.mpr ⟨u, earlier member, inside⟩))
  · intro before' cell' after' split' clears'
    -- The cell comes before the one that holds up the pass, or is that cell.
    obtain reached | passed := mem_of_split (whole.symm.trans split')
    · obtain earlier | here := List.mem_append.mp reached
      · exact absurd (clears' cell earlier) blocks
      · cases List.mem_singleton.mp here
        exact answerable
    · exact (clears cell' passed).1.answerable

/-- All failures of a job are those of a job or of the plate just when the job is accountable. -/
theorem accountable_iff :
    c.Accountable p ↔ ∀ e, (runJobLogged memoryPlate c p).1 = .error e → Told e := by
  have failing {e : Failure} (failed : (runJobLogged memoryPlate c p).1 = .error e) :
      (∀ e', (runJobLogged memoryPlate c p).1 = .error e' → Told e') ↔ Told e := by
    refine ⟨fun told => told e failed, fun told e' failed' => ?_⟩
    cases failed.symm.trans failed'
    exact told
  obtain ⟨e, refused⟩ | ⟨a, fits⟩ := refused_or_fits c p
  · rw [failing (congrArg Prod.fst refused.runJobLogged_eq), refused.accountable_iff]
  by_cases loggable : c.Loggable
  · obtain ⟨labelled, clears, result, succeeded⟩ |
      ⟨done, unit, rest, split, unlabelled, clears, failed⟩ |
      ⟨done, rest, before, cell, after, e, split, labelled, place, clears, blocks, held, failed⟩ :=
      fits.runJobLogged_ends loggable
    · refine iff_of_true (fits.accountable_iff.mpr ⟨loggable, ?_, ?_⟩) fun e failed => ?_
      · intro done unit rest split _
        exact labelled unit (split ▸ List.mem_append_right _ List.mem_cons_self)
      · intro before cell after split _
        exact (clears cell (split ▸ List.mem_append_right _ List.mem_cons_self)).1.answerable
      · cases succeeded.symm.trans failed
    · rw [failing failed]
      refine iff_of_false (fun accountable => ?_) not_told_unlogged
      exact unlabelled (accountable.units a fits done unit rest split clears)
    · rw [failing failed, told_of_heldUp held]
      exact fits.accountable_iff_answerable loggable split labelled place clears blocks
  · rw [failing (congrArg Prod.fst (fits.runJobLogged_unlogged loggable))]
    exact iff_of_false (fun accountable => loggable (accountable.logged a fits)) not_told_unlogged

theorem divides (nonneg : 0 ≤ c.level) : c.Divides where
  size := levelSize_eq nonneg
  bounds colMin col rowMin row := by
    have some_block : (c.blockSize.block? _ c.level colMin rowMin).isSome :=
      BlockSize.block?_isSome col row
    obtain ⟨u, made⟩ := Option.isSome_iff_exists.mp some_block
    have member := BlockSize.mem_blocks.mpr ⟨rowMin, row, colMin, col, made⟩
    obtain ⟨rfl, rfl, colMax, rowMax⟩ := BlockSize.block?_eq made
    have edge : c.blockSize.edge = c.block := rfl
    rw [edge] at colMax rowMax
    refine ⟨u, member, ?_⟩
    rw [← colMax, ← rowMax, ← BlockSize.level_of_mem_blocks member]
    exact dif_pos ⟨u.cols_ordered, u.rows_ordered⟩
  units := unitsForSlot_eq nonneg

theorem slot_checked (c : Config) : Slot.ofJob c.job c.jobs = .ok c.slot := by
  have enough : ¬c.jobs < 1 := Int.not_lt.mpr c.jobs_pos
  rw [Slot.ofJob, if_neg enough, dif_pos ⟨c.job_nonneg, c.job_lt⟩]
  rfl

/-- A job is refused just when it fails one of five checks: before its first call, with what
the first of them says. The checks of its parts pass. Its other failures are failures of the
plate, unless there are flat tiles or integers that cannot be written. -/
theorem runJobLogged_refused (c : Config) (p : MemoryPlate) :
    let run := runJobLogged memoryPlate c p
    ((∃ e, Refused c p e) ↔
      c.url = "" ∨ c.last = none ∨ (∀ r : Reducer, ¬r.Named c.function) ∨
        ¬(0 ≤ c.level ∧ c.level < p.levels) ∨
        ¬∃ t ∈ PixelType.supported, p.format.Means PixelFormat.name t.format ∧
          p.channel.Means ChannelType.name t.channel) ∧
    (∀ e, Refused c p e → run.1 = .error e ∧ run.2.events = #[] ∧ run.2.state = p) ∧
    (∀ e, run.1 = .error e → (e.category = .argument ∨ e.category = .unsupported ↔
      Refused c p e ∧ e.isLegible = true)) ∧
    (Slot.ofJob c.job c.jobs = .ok c.slot ∧ BlockSize.ofEdge c.block = .ok c.blockSize ∧
      (0 ≤ c.level → c.Divides)) ∧
    (∀ e, run.1 = .error e → ¬Refused c p e → Late e) ∧
    ((∀ e, run.1 = .error e → Told e) ↔ c.Accountable p) := by
  intro run
  refine ⟨refused_iff, fun e refused => ?_, fun e failed => ⟨fun category => ?_, ?_⟩,
    ⟨c.slot_checked, dif_pos c.block_pos, divides⟩, fun e => late_of_fails, accountable_iff.symm⟩
  · rw [show run = _ from refused.runJobLogged_eq]
    exact ⟨rfl, rfl, rfl⟩
  · have refused : Refused c p e := by
      by_contra unrefused
      exact (late_of_fails failed unrefused).not_refusal category
    exact ⟨refused, refused.category_iff.mp category⟩
  · rintro ⟨refused, legible⟩
    exact refused.category_iff.mpr legible

/-- A job that no check refuses fails on a tile without rows, and not with a failure of the
plate. -/
theorem flat_tile_unrefused :
    let p : MemoryPlate := {
      levels := 1, format := .member .graya, channel := .member .uint8,
      tiles := TileMap.apply ∅ [(⟨0, 0, 0, 1⟩, ⟨.uint8, [0, 3, 2], #[]⟩)] }
    let c : Config := {
      url := "memory://p", level := 0, last := some 5,
      jobs_pos := by decide, job_nonneg := by decide, job_lt := by decide,
      block_pos := by decide, range_ordered := by rintro _ ⟨⟩; decide }
    ∃ e, (runJobLogged memoryPlate c p).1 = .error e ∧ e.category ≠ .argument ∧
      e.category ≠ .unsupported ∧ e.category.isStore = false := by
  intro p c
  have named : Reducer.ofName (.scalar (.text c.function)) = .ok .weightedAverage :=
    Reducer.ofName_standard
  let a : Aggregation := ⟨⟨.graya, .uint8⟩, .weightedAverage, 0, 0, 5, 2000⟩
  have fits : Fits c p a := ⟨rfl, named, by decide, rfl, rfl, rfl, rfl⟩
  have ended : ((a.processLogged c.units).run memoryPlate { state := p }).1 =
      .error .unequalPlanes := by decide +kernel
  refine ⟨.unequalPlanes, ?_, by decide, by decide, rfl⟩
  rw [fits.runJobLogged_eq (by decide +kernel)]
  dsimp only
  rw [ended]
  rfl

end Config
end TileComposite
