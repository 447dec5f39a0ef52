import TileComposite.Proofs.Aggregate.Conduct
import TileComposite.Proofs.Job.Fit

/-! Running again after earlier passes. Where the output transaction is outside of the range
that is read, composites never become versions, so that every cell comes to the same in each
pass, however far earlier passes got and whatever they visited. -/
namespace TileComposite.Aggregation
variable (a : Aggregation)

/-- No composite lies in the range that is read. -/
def Apart : Prop := ¬(a.first ≤ a.output ∧ a.output ≤ a.last)

/-- Among the exchanges is a whole write of the cell's composite. -/
def Committed (xs : List Exchange) (cell : Cell) : Prop := ∃ b, a.writes cell b <:+: xs

/-- Passes over any units lead from one plate to another, with these exchanges. A pass that
fails leads to what it leaves. -/
inductive Reached (p : MemoryPlate) : List Exchange → MemoryPlate → Prop where
  | start : Reached p [] p
  | pass {xs q} (units : List WorkUnit) : Reached p xs q →
      Reached p (xs ++ (a.process units).exchanges memoryPlate q)
        ((a.process units).run memoryPlate { state := q }).2.state

/-- On the plate the cells `before` are reduced, and then the cell fails. -/
def FailsAt (p : MemoryPlate) (before : List Cell) (cell : Cell) (e : Failure) : Prop :=
  ∃ s session, (a.processCells before {}).run memoryPlate { state := p } = (.ok s, session) ∧
    ((a.processCell cell).run memoryPlate session).1 = .error e

/-- Wherever composites of the initial tiles are stored, the cell is reduced. -/
def Passes (p : MemoryPlate) (cell : Cell) : Prop :=
  ∃ n, (a.composite? p.tiles cell ≠ none → n ≠ 0) ∧
    ∀ done, Settles p (a.composited p.tiles done) (a.processCell cell) (.ok n)
      (a.composited p.tiles (done ++ [cell]))

/-- Wherever composites of the initial tiles are stored, the cell fails. -/
def Fails (p : MemoryPlate) (cell : Cell) (e : Failure) : Prop :=
  ∀ done, Settles p (a.composited p.tiles done) (a.processCell cell) (.error e)
    (a.composited p.tiles done)

variable {a} {p q : MemoryPlate} {initial : TileMap} {cell : Cell}
  {cells done before after : List Cell} {e : Failure} {s : Session MemoryPlate}

/-! ### Cells -/

/-- Composites outside of the range leave the versions of every cell alone. -/
theorem stack_composited_apart (apart : a.Apart) (initial : TileMap) (done : List Cell)
    (cell : Cell) : a.stack (a.composited initial done) cell = a.stack initial cell := by
  apply TileMap.stack_congr
  intro t lower upper
  rw [getElem?_composited, if_neg]
  rintro ⟨_, written, _⟩
  exact apart (written ▸ ⟨lower, upper⟩)

theorem passes_or_fails (apart : a.Apart) (p : MemoryPlate) (cell : Cell) :
    a.Passes p cell ∨ ∃ e, a.Fails p cell e := by
  by_cases inside : 0 ≤ a.level ∧ a.level < p.levels
  · have same (done : List Cell) := stack_composited_apart apart p.tiles done cell
    by_cases sound : a.Sound p.tiles cell
    · refine .inl ⟨(a.stack p.tiles cell).length, fun made none => made ?_, fun done => ?_⟩
      · exact if_pos (List.length_eq_zero_iff.mp none)
      · rw [composited_append]
        exact settles_sound inside (same done) sound
    · obtain ⟨e, _, fails⟩ := settles_unsound inside sound
      exact .inr ⟨e, fun done => fails _ (same done)⟩
  · exact .inr ⟨_, fun done => settles_outside inside _ cell⟩

theorem first_failing (apart : a.Apart) (p : MemoryPlate) (cells : List Cell) :
    (∀ cell ∈ cells, a.Passes p cell) ∨
      ∃ before cell after e, cells = before ++ cell :: after ∧
        (∀ cell ∈ before, a.Passes p cell) ∧ a.Fails p cell e := by
  obtain all | ⟨before, cell, after, split, earlier, fails⟩ := all_or_first (a.Passes p) cells
  · exact .inl all
  · obtain ⟨e, failing⟩ := (passes_or_fails apart p cell).resolve_left fails
    exact .inr ⟨before, cell, after, e, split, earlier, failing⟩

/-! ### Passes -/

theorem settles_passing (passing : ∀ cell ∈ cells, a.Passes p cell) (counted : Summary) :
    ∃ total, ∀ done, Settles p (a.composited p.tiles done) (a.processCells cells counted)
      (.ok total) (a.composited p.tiles (done ++ cells)) := by
  induction cells generalizing counted with
  | nil =>
    refine ⟨counted, fun done => ?_⟩
    rw [List.append_nil]
    exact Settles.done counted
  | cons cell cells ih =>
    obtain ⟨⟨n, _, first⟩, others⟩ := List.forall_mem_cons.mp passing
    obtain ⟨total, rest⟩ := ih others (counted.visit n)
    refine ⟨total, fun done => ?_⟩
    rw [List.append_cons]
    exact (first done).bind (rest (done ++ [cell]))

/-- Every cell that was reduced, and has versions, was committed. -/
theorem committed_of_passing (passing : ∀ cell ∈ cells, a.Passes p cell)
    (rests : Rests p (a.composited p.tiles done) s.state) (later : List Cell) (counted : Summary)
    (member : cell ∈ cells) (made : a.composite? p.tiles cell ≠ none) :
    a.Committed ((a.processCells (cells ++ later) counted).exchanges memoryPlate s.state) cell := by
  induction cells generalizing done s counted with
  | nil => cases member
  | cons first cells ih =>
    obtain ⟨⟨n, some_read, settles⟩, others⟩ := List.forall_mem_cons.mp passing
    obtain ⟨result, rests'⟩ := settles done s rests
    have talk := Program.converses_run memoryPlate (a.processCell first) s
    have split : (a.processCells (first :: cells ++ later) counted).exchanges memoryPlate s.state =
        (a.processCell first).exchanges memoryPlate s.state ++
          (a.processCells (cells ++ later) (counted.visit n)).exchanges memoryPlate
            ((a.processCell first).run memoryPlate s).2.state := by
      refine (Program.exchanges_bind memoryPlate (a.processCell first) _ s).trans ?_
      generalize (a.processCell first).run memoryPlate s = run at result
      obtain ⟨_, t⟩ := run
      subst result
      rfl
    rw [split]
    obtain _ | ⟨_, member⟩ := member
    · rw [result] at talk
      obtain visit | ⟨_, same⟩ := converses_processCell talk
      · obtain ⟨b, written⟩ := visit.writes (some_read made)
        exact ⟨b, written.isInfix.trans (List.prefix_append ..).isInfix⟩
      · cases same
    · obtain ⟨b, written⟩ := ih others rests' (counted.visit n) member
      exact ⟨b, written.trans (List.suffix_append ..).isInfix⟩

theorem settles_failing_pass (passing : ∀ cell ∈ before, a.Passes p cell) (fails : a.Fails p cell e)
    (after : List Cell) (counted : Summary) (done : List Cell) :
    Settles p (a.composited p.tiles done) (a.processCells (before ++ cell :: after) counted)
      (.error e) (a.composited p.tiles (done ++ before)) := by
  obtain ⟨total, passed⟩ := settles_passing passing counted
  rw [processCells_append]
  exact (passed done).bind (fails (done ++ before)).bind_error

theorem failsAt_of_fails (passing : ∀ cell ∈ before, a.Passes p cell) (fails : a.Fails p cell e)
    (rests : Rests p (a.composited p.tiles done) q) : a.FailsAt q before cell e := by
  obtain ⟨total, passed⟩ := settles_passing passing {}
  obtain ⟨result, rests'⟩ := passed done { state := q } rests
  exact ⟨total, _, Prod.ext result rfl, (fails _ _ rests').1⟩

/-- How far a pass gets, and what it comes to, is the same wherever composites of the initial
tiles are stored already. -/
theorem settles_resumed (apart : a.Apart) (p : MemoryPlate) (units : List WorkUnit) :
    ∃ part later result, units.flatMap WorkUnit.cells = part ++ later ∧
      (∀ cell ∈ part, a.Passes p cell) ∧
      (∀ done, Settles p (a.composited p.tiles done) (a.process units) result
        (a.composited p.tiles (done ++ part))) ∧
      ((∃ total, result = .ok total ∧ later = []) ∨
        ∃ cell after e, result = .error e ∧ later = cell :: after ∧ a.Fails p cell e) := by
  obtain passing | ⟨before, cell, after, e, split, passing, fails⟩ :=
    first_failing apart p (units.flatMap WorkUnit.cells)
  · obtain ⟨total, passed⟩ := settles_passing passing (a.tally units.length p.tiles [])
    exact ⟨_, [], .ok total, (List.append_nil _).symm, passing,
      fun done => settles_process_iff.mpr (passed done), .inl ⟨total, rfl, rfl⟩⟩
  · refine ⟨before, cell :: after, .error e, split, passing, fun done => ?_,
      .inr ⟨cell, after, e, rfl, rfl, fails⟩⟩
    have stopped := settles_failing_pass passing fails after (a.tally units.length p.tiles []) done
    rw [← split] at stopped
    exact settles_process_iff.mpr stopped

/-- Earlier passes leave composites of the initial tiles, and those they leave they committed. -/
theorem Reached.rests {xs : List Exchange} (closed : p.staged = none) (apart : a.Apart)
    (reached : a.Reached p xs q) :
    ∃ done, Rests p (a.composited p.tiles done) q ∧
      ∀ cell ∈ done, a.composite? p.tiles cell ≠ none → a.Committed xs cell := by
  induction reached with
  | start => exact ⟨[], Rests.self closed, nofun⟩
  | @pass xs q units _ ih =>
    -- The pass adds the composites of the cells that it got through, and of no others.
    obtain ⟨done, rests, committed⟩ := ih
    obtain ⟨part, later, result, split, passing, settles, _⟩ := settles_resumed apart p units
    refine ⟨done ++ part, (settles done { state := q } rests).2, ?_⟩
    intro cell member made
    obtain early | late := List.mem_append.mp member
    · obtain ⟨b, written⟩ := committed cell early made
      exact ⟨b, written.trans (List.prefix_append ..).isInfix⟩
    · have same : (a.process units).exchanges memoryPlate q =
          (a.processCells (part ++ later) { units := units.length }).exchanges memoryPlate q := by
        rw [← Program.exchanges_silent, process_silent, Program.exchanges_silent, split]
      obtain ⟨b, written⟩ := committed_of_passing passing (s := { state := q }) rests later
        { units := units.length } late made
      rw [same]
      exact ⟨b, written.trans (List.suffix_append ..).isInfix⟩

/-- Cells that are composited twice, or have no composite, do not count. -/
theorem composited_covered
    (covered : ∀ cell ∈ done, a.composite? initial cell ≠ none → cell ∈ cells) :
    a.composited initial (done ++ cells) = a.composited initial cells := by
  apply Std.ExtTreeMap.ext_getElem?
  intro id
  rw [getElem?_composited, getElem?_composited]
  by_cases member : id.cell ∈ cells
  · simp only [List.mem_append, member, or_true]
  · by_cases made : a.composite? initial id.cell = none
    · simp only [made, Option.none_or, ite_self]
    · have fresh : id.cell ∉ done := fun early => member (covered id.cell early made)
      simp only [List.mem_append, member, fresh, or_false]

/-- Running the same units twice leaves what running them once leaves. -/
theorem process_twice (closed : p.staged = none) (apart : a.Apart) (units : List WorkUnit) :
    ∃ tiles, Rests p tiles ((a.process units).run memoryPlate { state := p }).2.state ∧
      ∀ s, Rests p tiles s →
        ((a.process units).run memoryPlate { state := s }).2.state.tiles = tiles := by
  obtain ⟨part, _, _, _, _, settles, _⟩ := settles_resumed apart p units
  refine ⟨a.composited p.tiles part, (settles [] { state := p } (Rests.self closed)).2, ?_⟩
  intro s rests
  rw [(settles part { state := s } rests).2.tiles_eq]
  exact composited_covered fun _ member _ => member

/-- A pass after earlier ones fails just when it would have failed without them, at the same
cell and with the same failure. If it succeeds and covers what they committed, it leaves the
same tiles. A pass, or a job, that runs twice leaves the tiles that it leaves when it runs
once. -/
theorem process_resumed {xs : List Exchange} (closed : p.staged = none) (apart : a.Apart)
    (reached : a.Reached p xs q) (units : List WorkUnit) :
    let first := (a.process units).run memoryPlate { state := p }
    let again := (a.process units).run memoryPlate { state := q }
    again.1 = first.1 ∧
      (∀ e, first.1 = .error e → ∃ before cell after,
        units.flatMap WorkUnit.cells = before ++ cell :: after ∧
          a.FailsAt p before cell e ∧ a.FailsAt q before cell e) ∧
      (∀ total, first.1 = .ok total →
        (∀ cell, a.Committed xs cell → cell ∈ units.flatMap WorkUnit.cells) →
        again.2.state.tiles = first.2.state.tiles) ∧
      ((a.process units).run memoryPlate { state := first.2.state }).2.state.tiles =
        first.2.state.tiles ∧
      ∀ c, Config.Fits c p a →
        (runJob memoryPlate c (runJob memoryPlate c p).2.state).2.state.tiles =
          (runJob memoryPlate c p).2.state.tiles := by
  intro first again
  obtain ⟨part, later, result, split, passing, settles, ended⟩ := settles_resumed apart p units
  obtain ⟨done, rests, committed⟩ := reached.rests closed apart
  obtain ⟨resultFirst, restsFirst⟩ := settles [] { state := p } (Rests.self closed)
  obtain ⟨resultAgain, restsAgain⟩ := settles done { state := q } rests
  obtain ⟨tiles, restsOnce, twice⟩ := process_twice closed apart units
  refine ⟨resultAgain.trans resultFirst.symm, ?_, ?_, ?_, ?_⟩
  · intro e failed
    obtain ⟨_, ok, _⟩ | ⟨cell, after, e', error, rfl, fails⟩ := ended
    · cases ok.symm.trans (resultFirst.symm.trans failed)
    · cases error.symm.trans (resultFirst.symm.trans failed)
      have initially : Rests p (a.composited p.tiles []) p := Rests.self closed
      exact ⟨part, cell, after, split, failsAt_of_fails passing fails initially,
        failsAt_of_fails passing fails rests⟩
  · intro total succeeded covered
    obtain ⟨_, _, rfl⟩ | ⟨_, _, e, error, _⟩ := ended
    · rw [restsAgain.tiles_eq, restsFirst.tiles_eq]
      rw [split, List.append_nil] at covered
      exact composited_covered fun cell member made => covered cell (committed cell member made)
    · cases error.symm.trans (resultFirst.symm.trans succeeded)
  · exact (twice _ restsOnce).trans restsOnce.tiles_eq.symm
  · intro c fits
    obtain ⟨tiles, restsOnce, twice⟩ := process_twice closed apart c.units
    have once : (runJob memoryPlate c p).2 =
        ((a.process c.units).run memoryPlate { state := p }).2 := by
      rw [fits.runJob_eq]
    rw [once, (fits.of_rests restsOnce).runJob_eq]
    exact (twice _ restsOnce).trans restsOnce.tiles_eq.symm

/-- A pass that failed at its second cell has committed the first. After it the same pass fails
as before, and a pass over the first cell alone leaves what it leaves without it. -/
theorem process_resumed_interrupted :
    let tile (element : ElementType) : Buffer := ⟨element, [1, 0, 2], #[]⟩
    let p : MemoryPlate := {
      levels := 1, format := .member .graya, channel := .member .uint8,
      tiles := TileMap.apply ∅ [(⟨0, 0, 0, 1⟩, tile .uint8), (⟨0, 0, 1, 1⟩, tile .int16)] }
    let a : Aggregation := ⟨⟨.graya, .uint8⟩, .weightedAverage, 0, 0, 5, 9⟩
    let both : List WorkUnit := [⟨0, 0, 0, 1, 2, by decide, by decide⟩]
    let units : List WorkUnit := [⟨0, 0, 0, 1, 1, by decide, by decide⟩]
    let e : Failure := .rejectedTile 0 1 1 (.unreadableElement .int16 a.pixel)
    ∃ xs q, a.Reached p xs q ∧ q.tiles[a.tile ⟨0, 0⟩ 9]?.isSome ∧
      ((a.process both).run memoryPlate { state := q }).1 = .error e ∧
      ((a.process units).run memoryPlate { state := q }).2.state.tiles =
        ((a.process units).run memoryPlate { state := p }).2.state.tiles := by
  intro tile p a both units e
  have apart : a.Apart := by
    unfold Apart
    decide
  have failed : ((a.process both).run memoryPlate { state := p }).1 = .error e := by decide +kernel
  have succeeded : ((a.process units).run memoryPlate { state := p }).1 = .ok ⟨1, 1, 1, 0, 1⟩ := by
    decide +kernel
  have writes : ((a.process both).exchanges memoryPlate p).all (fun x => match x.call with
      | .writeUpdate id _ => decide (id.cell = ⟨0, 0⟩)
      | _ => true) = true := by
    decide +kernel
  have covered : ∀ cell, a.Committed ([] ++ (a.process both).exchanges memoryPlate p) cell →
      cell ∈ units.flatMap WorkUnit.cells := by
    rintro cell ⟨b, written⟩
    have update := written.subset (List.mem_cons_of_mem _ List.mem_cons_self)
    have here := of_decide_eq_true (List.all_eq_true.mp writes _ update)
    exact List.mem_singleton.mpr here
  have reached : a.Reached p ([] ++ (a.process both).exchanges memoryPlate p)
      ((a.process both).run memoryPlate { state := p }).2.state := .pass both .start
  refine ⟨_, _, reached, by decide +kernel, ?_, ?_⟩
  · obtain ⟨same, _⟩ := process_resumed rfl apart reached both
    exact same.trans failed
  · obtain ⟨_, _, tiles, _⟩ := process_resumed rfl apart reached units
    exact tiles _ succeeded covered

end TileComposite.Aggregation
