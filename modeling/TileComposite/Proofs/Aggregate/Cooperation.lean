import TileComposite.Proofs.Aggregate.Pursuit
import TileComposite.Proofs.Plate.Crew

/-! Programs that reduce cells of their own on one plate, call by call in any order. Only one
of them has a write open at a time, and nobody else stages a tile in it, so that the plate never
holds more than composites of the initial tiles, one for each cell that was committed. -/
namespace TileComposite
namespace Aggregation
open Crew
variable {n : Nat} {α : Type} (a : Aggregation) (p : MemoryPlate) (cells : Fin n → List Cell)

/-- No cell is dealt to two programs, or twice to one. -/
structure Dealt : Prop where
  distinct : ∀ j, (cells j).Nodup
  apart : ∀ i j, i ≠ j → (cells i).Disjoint (cells j)

/-- A program has reduced the first of its cells, and committed their composites. It pursues
the others, which nobody has committed. -/
structure Progresses (crew : Crew n α) (committed : List Cell) (j : Fin n)
    (done todo : List Cell) : Prop where
  split : cells j = done ++ todo
  pursues : a.Pursues p todo (crew.batch j) (crew.programs j)
  fresh : ∀ cell ∈ todo, cell ∉ committed
  reduced : ∀ cell ∈ done, a.stack p.tiles cell ≠ [] → cell ∈ committed ∧
    ∃ b, a.composite? p.tiles cell = some b ∧ crew.Committed j (a.tile cell a.output) b

/-- The plate holds the composites of the committed cells, the open write is that of the last
accepted request, and every program progresses with cells of its own. -/
structure Cooperates (crew : Crew n α) (committed : List Cell) : Prop where
  levels_eq : crew.plate.levels = p.levels
  tiles_eq : crew.plate.tiles = a.composited p.tiles committed
  held : crew.plate.staged ≠ none → crew.requester ≠ none
  staged : ∀ updates, crew.plate.staged = some updates → ∀ w ∈ updates,
    ∃ t ∈ crew.sinceRequest, crew.requester = some t.job ∧ t.accepted = true ∧
      t.call = .writeUpdate w.1 w.2
  progresses : ∀ j, ∃ done todo, a.Progresses p cells crew committed j done todo
  lost : ∀ j, crew.LostRace j → crew.programs j = .fail .writeOpen

variable {a p cells} {crew : Crew n α} {committed new done todo gone rest : List Cell}
  {i j : Fin n} {plate : MemoryPlate} {m : Program α} {added : List (Turn n)} {t : Turn n}

/-- The steps of one program leave the progress of another alone. -/
theorem Progresses.other (progress : a.Progresses p cells crew committed i done todo)
    (dealt : Dealt cells) (other : i ≠ j) (own : new ⊆ cells j)
    (batch : (crew.moved j m plate added).batch i = crew.batch i) :
    a.Progresses p cells (crew.moved j m plate added) (committed ++ new) i done todo where
  split := progress.split
  pursues := by
    rw [batch, moved_other other]
    exact progress.pursues
  fresh cell member := by
    rw [List.mem_append, not_or]
    refine ⟨progress.fresh cell member, fun mine => dealt.apart i j other ?_ (own mine)⟩
    rw [progress.split]
    exact List.mem_append_right _ member
  reduced cell member nonempty := by
    obtain ⟨early, b, made, written⟩ := progress.reduced cell member nonempty
    exact ⟨List.mem_append_left _ early, b, made, written.moved⟩

/-- A program passes over cells that have no versions, or whose composites it committed. -/
theorem Progresses.onward (progress : a.Progresses p cells crew committed j done todo)
    (dealt : Dealt cells) (passed : todo = gone ++ rest) (own : new ⊆ gone)
    (reduced : ∀ cell ∈ gone, a.stack p.tiles cell ≠ [] → cell ∈ new ∧
      ∃ b, a.composite? p.tiles cell = some b ∧
        (crew.moved j m plate added).Committed j (a.tile cell a.output) b)
    (pursues : a.Pursues p rest ((crew.moved j m plate added).batch j) m) :
    a.Progresses p cells (crew.moved j m plate added) (committed ++ new) j (done ++ gone)
      rest where
  split := by rw [progress.split, passed, List.append_assoc]
  pursues := by
    rw [moved_self]
    exact pursues
  fresh cell member := by
    have distinct := dealt.distinct j
    rw [progress.split, passed] at distinct
    have later := List.disjoint_of_nodup_append (List.Nodup.of_append_right distinct)
    rw [List.mem_append, not_or]
    exact ⟨progress.fresh cell (passed ▸ List.mem_append_right _ member),
      fun mine => later (own mine) member⟩
  reduced cell member nonempty := by
    obtain early | late := List.mem_append.mp member
    · obtain ⟨early, b, made, written⟩ := progress.reduced cell early nonempty
      exact ⟨List.mem_append_left _ early, b, made, written.moved⟩
    · obtain ⟨mine, written⟩ := reduced cell late nonempty
      exact ⟨List.mem_append_right _ mine, written⟩

/-- What a step of one program has to keep, so that the others can go on. -/
theorem Cooperates.step (h : a.Cooperates p cells crew committed) (dealt : Dealt cells)
    (active : crew.programs j ≠ .fail .writeOpen) (levels : plate.levels = crew.plate.levels)
    (tiles : plate.tiles = a.composited p.tiles (committed ++ new)) (own : new ⊆ cells j)
    (mine : ∀ t ∈ added, t.job = j)
    (refused : ∀ t ∈ added, t.call = .writeRequest → t.accepted = false → m = .fail .writeOpen)
    (held : plate.staged ≠ none → (crew.moved j m plate added).requester ≠ none)
    (staged : ∀ updates, plate.staged = some updates → ∀ w ∈ updates,
      ∃ t ∈ (crew.moved j m plate added).sinceRequest,
        (crew.moved j m plate added).requester = some t.job ∧ t.accepted = true ∧
          t.call = .writeUpdate w.1 w.2)
    (batches : ∀ i ≠ j, (crew.moved j m plate added).batch i = crew.batch i)
    (progress : a.Progresses p cells (crew.moved j m plate added) (committed ++ new) j done todo) :
    a.Cooperates p cells (crew.moved j m plate added) (committed ++ new) where
  levels_eq := levels.trans h.levels_eq
  tiles_eq := tiles
  held := held
  staged := staged
  progresses i := by
    by_cases same : i = j
    · subst same
      exact ⟨done, todo, progress⟩
    · obtain ⟨done, todo, others⟩ := h.progresses i
      exact ⟨done, todo, others.other dealt same own (batches i same)⟩
  lost i := by
    rintro ⟨t, turn, rfl, asks, lost⟩
    obtain late | early := List.mem_append.mp turn
    · rw [mine t late, moved_self]
      exact refused t late asks lost
    · have failed := h.lost t.job ⟨t, early, rfl, asks, lost⟩
      have other : t.job ≠ j := fun same => active (same ▸ failed)
      rw [moved_other other, failed]

/-- A step that leaves the tiles and the open write alone. It may pass over cells without
versions. -/
theorem Cooperates.quiet (h : a.Cooperates p cells crew committed) (dealt : Dealt cells)
    (active : crew.programs j ≠ .fail .writeOpen) (levels : plate.levels = crew.plate.levels)
    (tiles : plate.tiles = crew.plate.tiles) (staged : plate.staged = crew.plate.staged)
    (turns : ∀ t ∈ added, t.job = j ∧ t.opens = false ∧
      (t.call = .writeRequest → m = .fail .writeOpen))
    (progress : a.Progresses p cells crew committed j done todo) (passed : todo = gone ++ rest)
    (empty : ∀ cell ∈ gone, a.stack p.tiles cell = [])
    (pursues : a.Pursues p rest (crew.batch j) m) :
    a.Cooperates p cells (crew.moved j m plate added) committed := by
  have closed : ∀ t ∈ added, t.opens = false := fun t member => (turns t member).2.1
  have same : plate.tiles = a.composited p.tiles (committed ++ []) := by
    rw [tiles, h.tiles_eq, List.append_nil]
  rw [← batch_moved closed staged] at pursues
  have onward := progress.onward dealt passed (List.nil_subset gone)
    (fun cell member nonempty => absurd (empty cell member) nonempty) pursues
  have stepped := h.step dealt active levels same (List.nil_subset (cells j))
    (fun t member => (turns t member).1) (fun t member asks _ => (turns t member).2.2 asks)
    (by rw [requester_moved closed, staged]; exact h.held)
    (by
      intro updates opened w member
      obtain ⟨t, turn, whose⟩ := h.staged updates (staged ▸ opened) w member
      rw [requester_moved closed, sinceRequest_moved closed]
      exact ⟨t, List.mem_append_right _ turn, whose⟩)
    (fun i _ => batch_moved closed staged i) onward
  rwa [List.append_nil] at stepped

/-- A step of the only program that may have a write open. -/
theorem Cooperates.writes (h : a.Cooperates p cells crew committed) (dealt : Dealt cells)
    (active : crew.programs j ≠ .fail .writeOpen) (levels : plate.levels = crew.plate.levels)
    (tiles : plate.tiles = a.composited p.tiles (committed ++ new))
    (free : ∀ i ≠ j, crew.batch i = none) (mine : t.job = j) (accepted : t.accepted = true)
    (holds : (crew.moved j m plate [t]).requester = some j)
    (staged : ∀ updates, plate.staged = some updates → ∀ w ∈ updates,
      t.opens = false ∧ t.call = .writeUpdate w.1 w.2)
    (progress : a.Progresses p cells crew committed j done todo) (passed : todo = new ++ rest)
    (made : ∀ cell ∈ new, ∃ b, a.composite? p.tiles cell = some b ∧
      (crew.moved j m plate [t]).Committed j (a.tile cell a.output) b)
    (pursues : a.Pursues p rest plate.staged m) :
    a.Cooperates p cells (crew.moved j m plate [t]) (committed ++ new) := by
  have owns : (crew.moved j m plate [t]).batch j = plate.staged := batch_self holds
  rw [← owns] at pursues
  have onward := progress.onward dealt passed (List.Subset.refl new)
    (fun cell member _ => ⟨member, made cell member⟩) pursues
  have own : new ⊆ cells j := by
    rw [progress.split, passed]
    exact fun cell member => List.mem_append_right _ (List.mem_append_left _ member)
  refine h.step dealt active levels tiles own (List.forall_mem_singleton.mpr mine) ?_ ?_ ?_ ?_
    onward
  · refine List.forall_mem_singleton.mpr fun _ refused => ?_
    rw [accepted] at refused
    cases refused
  · rw [holds]
    exact fun _ => nofun
  · intro updates opened w member
    obtain ⟨quiet, call⟩ := staged updates opened w member
    refine ⟨t, ?_, by rw [holds, mine], accepted, call⟩
    rw [sinceRequest_moved (List.forall_mem_singleton.mpr quiet)]
    exact List.mem_cons_self
  · intro i other
    rw [batch_of_ne holds other, free i other]

/-- A program that has no write open opens one. -/
theorem Cooperates.opened {cell : Cell} (h : a.Cooperates p cells crew committed)
    (dealt : Dealt cells) (progress : a.Progresses p cells crew committed j done (cell :: todo))
    {next : Except Failure Unit → Program α} (program : crew.programs j = .call .writeRequest next)
    (pursues : a.Pursues p (cell :: todo) (some []) (next (.ok ())))
    (closed : crew.plate.staged = none) :
    a.Cooperates p cells (crew.advance j) (committed ++ []) := by
  rw [advance_call program (MemoryPlate.respond_request_closed closed)]
  refine h.writes dealt (by rw [program]; nofun) rfl ?_
    (fun i _ => batch_of_closed closed i) rfl rfl rfl ?_ progress (List.nil_append _).symm
    (List.forall_mem_nil _) pursues
  · rw [List.append_nil]
    exact h.tiles_eq
  · rintro _ ⟨⟩ w ⟨⟩

/-- A tile is staged in the program's own write. -/
theorem Cooperates.updated {cell : Cell} (h : a.Cooperates p cells crew committed)
    (inside : 0 ≤ a.level ∧ a.level < p.levels) (dealt : Dealt cells)
    (progress : a.Progresses p cells crew committed j done (cell :: todo))
    {next : Except Failure Unit → Program α} {b : Buffer}
    (program : crew.programs j = .call (.writeUpdate (a.tile cell a.output) b) next)
    (pursues : a.Pursues p (cell :: todo) (some [(a.tile cell a.output, b)]) (next (.ok ())))
    (owns : crew.batch j = some []) :
    a.Cooperates p cells (crew.advance j) (committed ++ []) := by
  obtain ⟨holds, staged⟩ := held_of_batch owns
  have inside' : 0 ≤ a.level ∧ a.level < crew.plate.levels := h.levels_eq ▸ inside
  rw [advance_call program (MemoryPlate.respond_update_inside staged inside')]
  refine h.writes dealt (by rw [program]; nofun) rfl ?_
    (fun i other => batch_of_ne holds other) rfl rfl ?_ ?_ progress (List.nil_append _).symm
    (List.forall_mem_nil _) pursues
  · rw [List.append_nil]
    exact h.tiles_eq
  · rw [requester_moved (List.forall_mem_singleton.mpr rfl), holds]
  · rintro _ ⟨⟩ w (_ | ⟨_, ⟨⟩⟩)
    exact ⟨rfl, rfl⟩

/-- The composite becomes visible, and the write is closed. -/
theorem Cooperates.completed {cell : Cell} (h : a.Cooperates p cells crew committed)
    (dealt : Dealt cells) (progress : a.Progresses p cells crew committed j done (cell :: todo))
    {next : Except Failure Unit → Program α} {b : Buffer}
    (program : crew.programs j = .call .writeComplete next)
    (made : a.composite? p.tiles cell = some b) (pursues : a.Pursues p todo none (next (.ok ())))
    (owns : crew.batch j = some [(a.tile cell a.output, b)]) :
    a.Cooperates p cells (crew.advance j) (committed ++ [cell]) := by
  obtain ⟨holds, staged⟩ := held_of_batch owns
  rw [advance_call program (MemoryPlate.respond_complete_open staged)]
  have placed : crew.plate.tiles.apply [(a.tile cell a.output, b)] =
      a.composited p.tiles (committed ++ [cell]) := by
    rw [composited_append, made, h.tiles_eq]
    rfl
  refine h.writes dealt (by rw [program]; nofun) rfl placed
    (fun i other => batch_of_ne holds other) rfl rfl ?_ nofun progress List.singleton_append.symm
    ?_ pursues
  · rw [requester_moved (List.forall_mem_singleton.mpr rfl), holds]
  · refine List.forall_mem_singleton.mpr ⟨b, made, _, List.mem_cons_self, rfl, rfl, ?_⟩
    exact (TileMap.getElem?_insert ..).trans (if_pos rfl)

theorem Fixed.not_request {cell : Cell} {c : Call} {reply : Except Failure c.Reply}
    (fixed : a.Fixed p cell c reply) : c.method ≠ .writeRequest := by
  intro requests
  obtain asks | asks := fixed.asks <;> cases requests.symm.trans asks

/-- The turn of a call that is no request opens nothing and loses no race. -/
theorem Fixed.turn {cell : Cell} {c : Call} {reply : Except Failure c.Reply}
    (fixed : a.Fixed p cell c reply) (accepted : Bool) (before after : TileMap) :
    ∀ t ∈ [Turn.mk j c accepted before after], t.job = j ∧ t.opens = false ∧
      (t.call = .writeRequest → m = .fail .writeOpen) := by
  rw [List.forall_mem_singleton]
  refine ⟨rfl, ?_, fun requests => absurd (congrArg Call.method requests) fixed.not_request⟩
  rw [Turn.opens, decide_eq_false fixed.not_request, Bool.and_false]

/-- Every step of a crew that cooperates keeps it cooperating. -/
theorem Cooperates.advance (h : a.Cooperates p cells crew committed)
    (inside : 0 ≤ a.level ∧ a.level < p.levels) (dealt : Dealt cells) (j : Fin n) :
    ∃ committed, a.Cooperates p cells (crew.advance j) committed := by
  obtain ⟨done, todo, progress⟩ := h.progresses j
  have pursues := progress.pursues
  generalize program : crew.programs j = m at pursues
  generalize owns : crew.batch j = batch at pursues
  -- Nobody has committed the cell at hand, so that its versions are still those of `p`.
  have settled (cell : Cell) (here : cell ∉ committed) :
      a.stack crew.plate.tiles cell = a.stack p.tiles cell := by
    rw [h.tiles_eq]
    exact stack_composited here
  cases pursues with
  | finished x =>
    rw [advance_done program]
    exact ⟨committed, h⟩
  | failed e =>
    rw [advance_fail program]
    exact ⟨committed, h⟩
  | reported r next =>
    rw [advance_report program]
    rw [← owns] at next
    exact ⟨committed, h.quiet dealt (by rw [program]; nofun) rfl rfl rfl (List.forall_mem_nil _)
      progress (List.nil_append _).symm (List.forall_mem_nil _) next⟩
  | @asked cell _ _ _ _ fixed next =>
    have here := progress.fresh cell List.mem_cons_self
    rw [advance_call program (fixed.responds _ h.levels_eq (settled cell here))]
    rw [← owns] at next
    exact ⟨committed, h.quiet dealt (by rw [program]; nofun) rfl rfl rfl (fixed.turn _ _ _)
      progress (List.nil_append _).symm (List.forall_mem_nil _) next⟩
  | @skipped cell _ _ _ _ fixed empty next =>
    have here := progress.fresh cell List.mem_cons_self
    rw [advance_call program (fixed.responds _ h.levels_eq (settled cell here))]
    rw [← owns] at next
    exact ⟨committed, h.quiet dealt (by rw [program]; nofun) rfl rfl rfl (fixed.turn _ _ _)
      progress List.singleton_append.symm (List.forall_mem_singleton.mpr empty) next⟩
  | @requesting cell todo after refuses next =>
    cases opened : crew.plate.staged with
    | none => exact ⟨_, h.opened dealt progress program next opened⟩
    | some updates =>
      rw [advance_call program (MemoryPlate.respond_request_open opened)]
      -- The race is lost: another program has its write open, and keeps it.
      have failed : a.Pursues p (cell :: todo) (crew.batch j) (after (.error .writeOpen)) := by
        rw [owns, refuses]
        exact .failed _
      have turn : ∀ t ∈ [Turn.mk j .writeRequest false crew.plate.tiles crew.plate.tiles],
          t.job = j ∧ t.opens = false ∧
            (t.call = .writeRequest → after (.error .writeOpen) = .fail .writeOpen) :=
        List.forall_mem_singleton.mpr ⟨rfl, rfl, fun _ => refuses _⟩
      exact ⟨committed, h.quiet dealt (by rw [program]; nofun) rfl rfl rfl turn progress
        (List.nil_append _).symm (List.forall_mem_nil _) failed⟩
  | updating made next =>
    exact ⟨_, h.updated inside dealt progress program next owns⟩
  | completing made next =>
    exact ⟨_, h.completed dealt progress program made next owns⟩

theorem Cooperates.run (h : a.Cooperates p cells crew committed)
    (inside : 0 ≤ a.level ∧ a.level < p.levels) (dealt : Dealt cells) (schedule : List (Fin n)) :
    ∃ committed, a.Cooperates p cells (crew.run schedule) committed := by
  induction schedule generalizing crew committed with
  | nil => exact ⟨committed, h⟩
  | cons j schedule ih =>
    obtain ⟨_, next⟩ := h.advance inside dealt j
    exact ih next

/-- Programs that have yet to begin cooperate. -/
theorem cooperates_start (closed : p.staged = none) {programs : Fin n → Program α}
    (pursues : ∀ j, a.Pursues p (cells j) none (programs j)) :
    a.Cooperates p cells ⟨p, programs, []⟩ [] where
  levels_eq := rfl
  tiles_eq := rfl
  held opened := absurd closed opened
  staged updates opened := by rw [closed] at opened; cases opened
  progresses j := by
    refine ⟨[], cells j, rfl, ?_, fun _ _ => nofun, nofun⟩
    rw [batch_of_closed closed]
    exact pursues j
  lost j := by
    rintro ⟨t, ⟨⟩, _⟩

/-! ### What holds at any time -/

variable (a p cells) in
/-- What a crew that works on the cells of its programs has done to the plate `p` so far. -/
structure Safe (crew : Crew n α) : Prop where
  /-- Under the output transaction is what was there, or the average of the initial versions. -/
  outputs : ∀ cell, crew.plate.tiles[a.tile cell a.output]? = p.tiles[a.tile cell a.output]? ∨
    ∃ b, crew.plate.tiles[a.tile cell a.output]? = some b ∧ Averages a (a.stack p.tiles cell) b
  others : ∀ id : TileId, ¬(id.level = a.level ∧ id.transaction = a.output) →
    crew.plate.tiles[id]? = p.tiles[id]?
  /-- At most one tile is staged, by the program whose request was the last to be accepted. -/
  staged : ∀ updates, crew.plate.staged = some updates →
    ∃ j, crew.requester = some j ∧ updates.length ≤ 1 ∧ ∀ w ∈ updates, w.1.cell ∈ cells j ∧
      ∃ t ∈ crew.sinceRequest, t.job = j ∧ t.accepted = true ∧ t.call = .writeUpdate w.1 w.2
  finished : ∀ j x, crew.programs j = .done x → ∀ cell ∈ cells j, a.stack p.tiles cell ≠ [] →
    ∃ b, Averages a (a.stack p.tiles cell) b ∧ crew.Committed j (a.tile cell a.output) b ∧
      crew.plate.tiles[a.tile cell a.output]? = some b
  /-- What is new at a program's cells, it has committed. -/
  own : ∀ j, ∀ cell ∈ cells j,
    crew.plate.tiles[a.tile cell a.output]? ≠ p.tiles[a.tile cell a.output]? →
      ∃ b, crew.Committed j (a.tile cell a.output) b
  lost : ∀ j, crew.LostRace j → crew.programs j = .fail .writeOpen ∧
    ∀ later earlier, crew.turns = later ++ earlier →
      (∀ t ∈ later, t.job = j → t.commits = false) →
        ∀ t ∈ later, t.job = j → t.after = t.before

theorem Cooperates.safe (h : a.Cooperates p cells crew committed) (steady : crew.Steady) :
    a.Safe p cells crew where
  outputs cell := by
    rw [h.tiles_eq, getElem?_output]
    split
    · cases made : a.composite? p.tiles cell with
      | none => exact .inl rfl
      | some b => exact .inr ⟨b, rfl, averages_of_composite made⟩
    · exact .inl rfl
  others id apart := by
    rw [h.tiles_eq, getElem?_composited, if_neg fun ⟨level, output, _⟩ => apart ⟨level, output⟩]
  staged updates opened := by
    have held : crew.requester ≠ none := h.held (by rw [opened]; nofun)
    obtain ⟨j, requester⟩ := Option.ne_none_iff_exists'.mp held
    obtain ⟨done, todo, progress⟩ := h.progresses j
    have owns : crew.batch j = some updates := (batch_self requester).trans opened
    obtain ⟨few, theirs⟩ := progress.pursues.staged owns
    refine ⟨j, requester, few, fun w member => ⟨?_, ?_⟩⟩
    · rw [progress.split]
      exact List.mem_append_right _ (theirs w member)
    · obtain ⟨t, turn, whose, accepted, call⟩ := h.staged updates opened w member
      exact ⟨t, turn, Option.some.inj (whose.symm.trans requester), accepted, call⟩
  finished j x ended cell member nonempty := by
    obtain ⟨done, todo, progress⟩ := h.progresses j
    have pursues := progress.pursues
    rw [ended] at pursues
    rw [progress.split, pursues.of_done, List.append_nil] at member
    obtain ⟨early, b, made, written⟩ := progress.reduced cell member nonempty
    refine ⟨b, averages_of_composite made, written, ?_⟩
    rw [h.tiles_eq, getElem?_output, if_pos early, made]
    rfl
  own j cell member changed := by
    obtain ⟨done, todo, progress⟩ := h.progresses j
    rw [h.tiles_eq, getElem?_output] at changed
    rw [progress.split] at member
    obtain early | late := List.mem_append.mp member
    · by_cases empty : a.stack p.tiles cell = []
      · have none_made : a.composite? p.tiles cell = none := if_pos empty
        rw [none_made, Option.none_or, ite_self] at changed
        exact absurd rfl changed
      · obtain ⟨_, b, _, written⟩ := progress.reduced cell early empty
        exact ⟨b, written⟩
    · rw [if_neg (progress.fresh cell late)] at changed
      exact absurd rfl changed
  lost j race := by
    refine ⟨h.lost j race, fun later earlier split idle t member mine => ?_⟩
    exact steady t (split ▸ List.mem_append_left _ member) (idle t member mine)

end Aggregation
end TileComposite
