import TileComposite.Proofs.Aggregate.Runs
import TileComposite.Proofs.Aggregate.Passes
import TileComposite.Proofs.Plate.Exchanges

/-! How an aggregation conducts itself towards a plate, whatever the plate replies. A cell
takes one search alone, or a search, a read of every record in the order of the records, and
the three phases of one write. The first failure is the last exchange or comes right after
it: nothing is called again, and the failure is the result. -/
namespace TileComposite.Aggregation
open Program (Converses)
variable (a : Aggregation) (cell : Cell)

/-- A search that found some records. -/
def found (ids : List TileId) : Exchange := ⟨a.request cell, .ok (some ids)⟩

/-- Reads of versions of the cell, each answered by the version's buffer. -/
def reads (stack : List Version) : List Exchange :=
  stack.map fun v => ⟨.read (a.tile cell v.transaction) true, .ok v.buffer⟩

/-- The three phases of a write under the output transaction, all accepted. -/
def writes (b : Buffer) : List Exchange :=
  [⟨.writeRequest, .ok ()⟩, ⟨.writeUpdate (a.tile cell a.output) b, .ok ()⟩,
    ⟨.writeComplete, .ok ()⟩]

/-- The versions have the transactions of the records, in their order. -/
def Follows (stack : List Version) (ids : List TileId) : Prop :=
  stack.map (·.transaction) = ids.map (·.transaction)

/-- The pixel type accepts every version. -/
def Accepted (stack : List Version) : Prop :=
  ∀ v ∈ stack, ∃ b, a.pixel.validate v.buffer = .ok b

/-- The reads of the records end early: one fails, or returns a buffer that is rejected. -/
inductive Breaks : List TileId → List Exchange → Failure → Prop where
  | unread {earlier id later stack e} : Follows stack earlier → a.Accepted stack →
      Breaks (earlier ++ id :: later)
        (a.reads cell stack ++ [⟨.read (a.tile cell id.transaction) true, .error e⟩]) e
  | rejected {earlier id later stack b cause} : Follows stack earlier → a.Accepted stack →
      a.pixel.validate b = .error cause →
      Breaks (earlier ++ id :: later) (a.reads cell (stack ++ [⟨id.transaction, b⟩]))
        (.rejectedTile cell.col cell.row id.transaction cause)

/-- The exchanges over one cell, with the number of its versions or the failure. -/
inductive Visit : List Exchange → Except Failure Nat → Prop where
  | empty {ids : Option (List TileId)} : ids.getD [] = [] →
      Visit [⟨a.request cell, .ok ids⟩] (.ok 0)
  | notFound {e : Failure} : e.category = .tileNotFound →
      Visit [⟨a.request cell, .error e⟩] (.ok 0)
  | reduced {ids stack b} : ids ≠ [] → Follows stack ids → Averages a stack b →
      Visit (a.found cell ids :: (a.reads cell stack ++ a.writes cell b)) (.ok ids.length)
  | unsearched {e : Failure} : e.category ≠ .tileNotFound →
      Visit [⟨a.request cell, .error e⟩] (.error e)
  | unloaded {ids xs e} : a.Breaks cell ids xs e → Visit (a.found cell ids :: xs) (.error e)
  /-- Versions that are all accepted can be blamed for their shapes only. -/
  | unequal {ids stack e} : Follows stack ids → a.Accepted stack →
      Blames a.pixel cell stack e → Visit (a.found cell ids :: a.reads cell stack) (.error e)
  | unwritten {ids stack b before x after e} : ids ≠ [] → Follows stack ids →
      Averages a stack b → a.writes cell b = before ++ x :: after →
      Visit (a.found cell ids :: (a.reads cell stack ++ (before ++ [⟨x.call, .error e⟩])))
        (.error e)

/-- The exchanges over cells in their order, counting on from a summary. -/
inductive Conducts : List Cell → Summary → List Exchange → Except Failure Summary → Prop where
  | finished {s} : Conducts [] s [] (.ok s)
  | visited {cell cells s xs n ys r} : a.Visit cell xs (.ok n) →
      Conducts cells (s.visit n) ys r → Conducts (cell :: cells) s (xs ++ ys) r
  | ended {cell cells s xs e} : a.Visit cell xs (.error e) →
      Conducts (cell :: cells) s xs (.error e)

/-- The last exchanges are the reads of a cell whose versions agree, but are flat. -/
def Stuck (cell : Cell) (xs : List Exchange) : Prop :=
  ∃ ids stack, ids ≠ [] ∧ Follows stack ids ∧ Agrees a.pixel stack ∧ Flat stack ∧
    xs = a.found cell ids :: a.reads cell stack

/-- A pass over cells ends without cause in the exchanges: it gets stuck at flat tiles. -/
def EndsStuck (cells : List Cell) (s : Summary) (xs : List Exchange)
    (r : Except Failure Summary) : Prop :=
  r = .error .unequalPlanes ∧ ∃ before cell after earlier last s',
    cells = before ++ cell :: after ∧ xs = earlier ++ last ∧
      a.Conducts before s earlier (.ok s') ∧ a.Stuck cell last

variable {a} {cell} {ids : List TileId} {id : TileId} {xs : List Exchange}

/-! ### Loading -/

theorem Follows.cons {stack : List Version} (follows : Follows stack ids) (id : TileId)
    (b : Buffer) : Follows (⟨id.transaction, b⟩ :: stack) (id :: ids) :=
  congrArg (id.transaction :: ·) follows

theorem Accepted.cons {stack : List Version} {b b' : Buffer} {t : Int}
    (accepted : a.pixel.validate b = .ok b') (all : a.Accepted stack) :
    a.Accepted (⟨t, b⟩ :: stack) :=
  List.forall_mem_cons.mpr ⟨⟨b', accepted⟩, all⟩

theorem Breaks.cons {b b' : Buffer} {e : Failure} (accepted : a.pixel.validate b = .ok b')
    (breaks : a.Breaks cell ids xs e) :
    a.Breaks cell (id :: ids) (⟨.read (a.tile cell id.transaction) true, .ok b⟩ :: xs) e := by
  cases breaks with
  | unread follows all => exact .unread (follows.cons id b) (all.cons accepted)
  | rejected follows all refused =>
    exact .rejected (follows.cons id b) (all.cons accepted) refused

theorem converses_readVersion {r : Except Failure Buffer}
    (talk : Converses (a.readVersion cell id) xs r) :
    (∃ e, xs = [⟨.read (a.tile cell id.transaction) true, .error e⟩] ∧ r = .error e) ∨
      ∃ b, xs = [⟨.read (a.tile cell id.transaction) true, .ok b⟩] ∧
        r = a.accept cell id.transaction b := by
  obtain ⟨e, rfl, first⟩ | ⟨ys, b, zs, rfl, first, second⟩ := talk.of_bind
  · exact .inl ⟨e, first.of_require, rfl⟩
  · obtain ⟨rfl, rfl⟩ := second.of_ofExcept
    obtain rfl := first.of_require
    exact .inr ⟨b, rfl, rfl⟩

theorem accept_ok {t : Int} {b b' : Buffer} (accepted : .ok b' = a.accept cell t b) :
    a.pixel.validate b = .ok b' := by
  unfold accept at accepted
  cases judged : a.pixel.validate b with
  | ok => rw [judged] at accepted; cases accepted; rfl
  | error => rw [judged] at accepted; cases accepted

theorem accept_error {t : Int} {b : Buffer} {e : Failure} (refused : .error e = a.accept cell t b) :
    ∃ cause, a.pixel.validate b = .error cause ∧
      e = .rejectedTile cell.col cell.row t cause := by
  unfold accept at refused
  cases judged : a.pixel.validate b with
  | ok => rw [judged] at refused; cases refused
  | error cause => rw [judged] at refused; cases refused; exact ⟨cause, rfl, rfl⟩

/-- Either every record is read and its buffer accepted, or the reads end early. -/
theorem converses_readVersions {r : Except Failure (List Buffer)}
    (talk : Converses (a.readVersions cell ids) xs r) :
    (∃ stack buffers, Follows stack ids ∧ a.Accepted stack ∧ xs = a.reads cell stack ∧
      a.accepted cell stack = .ok buffers ∧ r = .ok buffers) ∨
    ∃ e, a.Breaks cell ids xs e ∧ r = .error e := by
  induction ids generalizing xs r with
  | nil =>
    cases talk
    exact .inl ⟨[], [], rfl, nofun, rfl, rfl, rfl⟩
  | cons id ids ih =>
    obtain ⟨e, rfl, first⟩ | ⟨_, b', _, rfl, first, rest⟩ := talk.of_bind
    · refine .inr ⟨e, ?_, rfl⟩
      obtain ⟨_, rfl, same⟩ | ⟨b, rfl, failed⟩ := converses_readVersion first
      · cases same
        exact @Breaks.unread a cell [] id ids [] _ rfl nofun
      · obtain ⟨cause, refused, rfl⟩ := accept_error failed
        exact @Breaks.rejected a cell [] id ids [] b cause rfl nofun refused
    · obtain ⟨_, _, same⟩ | ⟨b, rfl, accepted⟩ := converses_readVersion first
      · cases same
      have valid := accept_ok accepted
      obtain ⟨e, rfl, others⟩ | ⟨_, bs, _, rfl, others, last⟩ := rest.of_bind
      · obtain ⟨_, _, _, _, _, _, same⟩ | ⟨_, breaks, same⟩ := ih others
        · cases same
        · cases same
          exact .inr ⟨e, breaks.cons valid, rfl⟩
      · obtain ⟨stack, buffers, follows, all, rfl, passed, same⟩ | ⟨_, _, same⟩ := ih others
        · cases same
          cases last
          refine .inl ⟨⟨id.transaction, b⟩ :: stack, b' :: bs, follows.cons id b, all.cons valid,
            ?_, ?_, rfl⟩
          · rw [List.append_nil]
            rfl
          · rw [Aggregation.accepted, ← accepted, passed]
            rfl
        · cases same

/-- What is read and accepted has the composite of its versions. -/
theorem converses_compose {r : Except Failure Buffer}
    (talk : Converses ((a.load cell ids).bind fun buffers =>
      .ofExcept (a.reducer.reduce a.pixel buffers)) xs r) :
    (∃ stack, Follows stack ids ∧ a.Accepted stack ∧ xs = a.reads cell stack ∧
      r = a.compose cell stack) ∨
    ∃ e, a.Breaks cell ids xs e ∧ r = .error e := by
  have steps : ((a.load cell ids).bind fun buffers =>
      .ofExcept (a.reducer.reduce a.pixel buffers)) =
      (a.readVersions cell ids).bind fun buffers =>
        .ofExcept (sameSize cell buffers >>= fun _ => a.reducer.reduce a.pixel buffers) := by
    refine (Program.bind_assoc _ _ _).trans (congrArg _ (funext fun buffers => ?_))
    cases sameSize cell buffers <;> rfl
  rw [steps] at talk
  obtain ⟨e, rfl, early⟩ | ⟨_, buffers, _, rfl, loaded, last⟩ := talk.of_bind
  · obtain ⟨_, _, _, _, _, _, same⟩ | ⟨_, breaks, same⟩ := converses_readVersions early
    · cases same
    · cases same
      exact .inr ⟨e, breaks, rfl⟩
  · obtain ⟨stack, _, follows, all, rfl, passed, same⟩ | ⟨_, _, same⟩ :=
      converses_readVersions loaded
    · cases same
      obtain ⟨rfl, rfl⟩ := last.of_ofExcept
      exact .inl ⟨stack, follows, all, List.append_nil _, (compose_accepted cell passed).symm⟩
    · cases same

/-! ### One cell -/

theorem converses_query {r : Except Failure (List TileId)}
    (talk : Converses (a.query cell) xs r) :
    (∃ found, xs = [⟨a.request cell, .ok found⟩] ∧ r = .ok (found.getD [])) ∨
    ∃ e, xs = [⟨a.request cell, .error e⟩] ∧
      r = if e.category = .tileNotFound then .ok [] else .error e := by
  unfold query at talk
  cases talk with
  | @call _ _ reply _ _ rest =>
    cases reply with
    | ok found =>
      cases rest
      exact .inl ⟨found, rfl, rfl⟩
    | error e =>
      refine .inr ⟨e, ?_⟩
      dsimp only at rest
      split at rest
      · cases rest
        exact ⟨rfl, (if_pos ‹_›).symm⟩
      · cases rest
        exact ⟨rfl, (if_neg ‹_›).symm⟩

/-- A write is done, or ends at its first phase that fails. -/
theorem converses_commit {b : Buffer} {r : Except Failure Unit}
    (talk : Converses (a.commit cell b) xs r) :
    (xs = a.writes cell b ∧ r = .ok ()) ∨
    ∃ before x after e, a.writes cell b = before ++ x :: after ∧
      xs = before ++ [⟨x.call, .error e⟩] ∧ r = .error e := by
  obtain ⟨e, rfl, first⟩ | ⟨_, _, _, rfl, first, later⟩ := talk.of_bind
  · exact .inr ⟨[], _, _, e, rfl, first.of_require, rfl⟩
  obtain rfl := first.of_require
  obtain ⟨e, rfl, second⟩ | ⟨_, _, _, rfl, second, third⟩ := later.of_bind
  · obtain rfl := second.of_require
    exact .inr ⟨[⟨.writeRequest, .ok ()⟩], _, _, e, rfl, rfl, rfl⟩
  obtain rfl := second.of_require
  obtain rfl := third.of_require
  cases r with
  | ok => exact .inl ⟨rfl, rfl⟩
  | error e =>
    exact .inr ⟨[⟨.writeRequest, .ok ()⟩, ⟨.writeUpdate (a.tile cell a.output) b, .ok ()⟩], _, [],
      e, rfl, rfl, rfl⟩

theorem Follows.nonempty {stack : List Version} (follows : Follows stack ids)
    (some_ids : ids ≠ []) : stack ≠ [] := by
  rintro rfl
  exact some_ids (List.map_eq_nil_iff.mp follows.symm)

/-- After a search that found records, the cell is reduced or the failure is visible, unless
the loaded tiles are flat. -/
theorem visit_found {r : Except Failure Nat} (some_ids : ids ≠ [])
    (talk : Converses ((((a.load cell ids).bind fun buffers =>
      .ofExcept (a.reducer.reduce a.pixel buffers)).bind (a.commit cell)).bind fun _ =>
        .done ids.length) xs r) :
    a.Visit cell (a.found cell ids :: xs) r ∨
      a.Stuck cell (a.found cell ids :: xs) ∧ r = .error .unequalPlanes := by
  rw [Program.bind_assoc] at talk
  obtain ⟨e, rfl, early⟩ | ⟨_, b, _, rfl, composed, rest⟩ := talk.of_bind
  · obtain ⟨stack, follows, all, rfl, same⟩ | ⟨_, breaks, same⟩ := converses_compose early
    · obtain ⟨b, made, _⟩ | ⟨e', made, blamed⟩ | ⟨made, agrees, flat⟩ :=
        compose_cases (a := a) cell (follows.nonempty some_ids)
      · cases same.trans made
      · cases same.trans made
        exact .inl (.unequal follows all blamed)
      · cases same.trans made
        exact .inr ⟨⟨ids, stack, some_ids, follows, agrees, flat, rfl⟩, rfl⟩
    · cases same
      exact .inl (.unloaded breaks)
  · obtain ⟨stack, follows, all, rfl, same⟩ | ⟨_, _, same⟩ := converses_compose composed
    · have averages : Averages a stack b := by
        obtain ⟨b', made, averages⟩ | ⟨_, made, _⟩ | ⟨made, _, _⟩ :=
          compose_cases (a := a) cell (follows.nonempty some_ids)
        · cases same.trans made
          exact averages
        · cases same.trans made
        · cases same.trans made
      obtain ⟨e, rfl, cut⟩ | ⟨_, _, _, rfl, written, last⟩ := rest.of_bind
      · obtain ⟨_, same⟩ | ⟨before, x, after, _, split, rfl, same⟩ := converses_commit cut
        · cases same
        · cases same
          exact .inl (.unwritten some_ids follows averages split)
      · obtain ⟨rfl, _⟩ | ⟨_, _, _, _, _, _, same⟩ := converses_commit written
        · cases last
          rw [List.append_nil]
          exact .inl (.reduced some_ids follows averages)
        · cases same
    · cases same

/-- The exchanges over a cell are a visit, unless they get stuck at flat tiles. -/
theorem converses_processCell {r : Except Failure Nat}
    (talk : Converses (a.processCell cell) xs r) :
    a.Visit cell xs r ∨ a.Stuck cell xs ∧ r = .error .unequalPlanes := by
  rw [processCell_eq] at talk
  obtain ⟨e, rfl, search⟩ | ⟨_, ids, ys, rfl, search, rest⟩ := talk.of_bind
  · obtain ⟨_, _, same⟩ | ⟨e', rfl, same⟩ := converses_query search
    · cases same
    · split at same
      · cases same
      · cases same
        exact .inl (.unsearched ‹_›)
  · obtain ⟨records, rfl, same⟩ | ⟨e, rfl, same⟩ := converses_query search
    · cases same
      cases listed : records.getD [] with
      | nil =>
        rw [listed] at rest
        cases rest
        exact .inl (.empty listed)
      | cons id ids =>
        obtain rfl : records = some (id :: ids) := by
          cases records with
          | none => cases listed
          | some => exact congrArg some listed
        exact visit_found (List.cons_ne_nil id ids) rest
    · split at same
      · cases same
        cases rest
        exact .inl (.notFound ‹_›)
      · cases same

/-- A visit that read versions, and succeeded, ends in a whole write. -/
theorem Visit.writes {n : Nat} (visit : a.Visit cell xs (.ok n)) (some_read : n ≠ 0) :
    ∃ b, a.writes cell b <:+ xs := by
  cases visit with
  | empty | notFound => exact absurd rfl some_read
  | @reduced ids stack b => exact ⟨b, (List.suffix_append ..).trans (List.suffix_cons ..)⟩

/-! ### Passes -/

theorem converses_processCells {cells : List Cell} {s : Summary} {r : Except Failure Summary}
    (talk : Converses (a.processCells cells s) xs r) :
    a.Conducts cells s xs r ∨ a.EndsStuck cells s xs r := by
  -- On the cells in order. A pass that is stuck at a later cell has one more visit before it.
  induction cells generalizing s xs with
  | nil =>
    cases talk
    exact .inl .finished
  | cons cell cells ih =>
    obtain ⟨e, rfl, first⟩ | ⟨ys, n, zs, rfl, first, rest⟩ := talk.of_bind
    · obtain visit | ⟨stuck, same⟩ := converses_processCell first
      · exact .inl (.ended visit)
      · cases same
        exact .inr ⟨rfl, [], cell, cells, [], xs, s, rfl, rfl, .finished, stuck⟩
    · obtain visit | ⟨_, same⟩ := converses_processCell first
      · obtain conduct | ⟨failed, before, c, after, earlier, last, s', rfl, rfl, earlier', stuck⟩ :=
          ih rest
        · exact .inl (.visited visit conduct)
        · exact .inr ⟨failed, cell :: before, c, after, ys ++ earlier, last, s', rfl,
            (List.append_assoc ..).symm, .visited visit earlier', stuck⟩
      · cases same

/-- A pass that fails by planes of unequal size, and for a cause, was refused a call. -/
theorem Conducts.last_refused {cells : List Cell} {s : Summary}
    (conduct : a.Conducts cells s xs (.error .unequalPlanes)) :
    ∃ earlier x, xs = earlier ++ [x] ∧ x.accepted = false := by
  generalize failed : Except.error Failure.unequalPlanes = r at conduct
  induction conduct with
  | finished => cases failed
  | @visited _ _ _ xs _ _ _ _ _ ih =>
    obtain ⟨earlier, x, rfl, refused⟩ := ih failed
    exact ⟨xs ++ earlier, x, (List.append_assoc ..).symm, refused⟩
  | ended visit =>
    cases failed
    cases visit with
    | unsearched => exact ⟨[], _, rfl, rfl⟩
    | @unloaded ids _ _ breaks =>
      cases breaks with
      | unread => exact ⟨_ :: _, _, rfl, rfl⟩
    | unequal _ _ blamed => cases blamed
    | unwritten =>
      exact ⟨_ :: (_ ++ _), _, congrArg (_ :: ·) (List.append_assoc ..).symm, rfl⟩

theorem Stuck.last_accepted (stuck : a.Stuck cell xs) {earlier ys : List Exchange} {x : Exchange}
    (last : earlier ++ xs = ys ++ [x]) : x.accepted = true := by
  obtain ⟨ids, stack, _, _, _, _, rfl⟩ := stuck
  have all : ∀ y ∈ a.found cell ids :: a.reads cell stack, y.accepted = true := by
    rintro y (_ | ⟨_, member⟩)
    · rfl
    · obtain ⟨v, _, rfl⟩ := List.mem_map.mp member
      rfl
  apply all
  have final := congrArg List.getLast? last
  rw [List.getLast?_append_of_ne_nil _ (List.cons_ne_nil _ _), List.getLast?_concat] at final
  exact List.mem_of_getLast? final

/-- On any plate a pass keeps to the protocol, and its failures have their causes in what the
plate replied, just when it does not get stuck at flat tiles. -/
theorem process_conducts {σ : Type} (plate : Plate σ) (a : Aggregation) (units : List WorkUnit)
    (state : σ) :
    let run := (a.process units).run plate { state }
    let exchanges := (a.process units).exchanges plate state
    let cells := units.flatMap WorkUnit.cells
    run.2.calls = exchanges.map Exchange.call ∧
      (a.Conducts cells { units := units.length } exchanges run.1 ↔
        ¬a.EndsStuck cells { units := units.length } exchanges run.1) := by
  intro run exchanges cells
  refine ⟨Program.calls_run plate (a.process units) { state }, ?_, ?_⟩
  -- A pass that is stuck ends in an accepted read, one that fails with a cause in a refused call.
  · rintro conduct ⟨failed, _, _, _, earlier, last, _, _, split, _, stuck⟩
    rw [failed] at conduct
    obtain ⟨earlier', x, split', refused⟩ := conduct.last_refused
    cases (stuck.last_accepted (split.symm.trans split')).symm.trans refused
  · intro free
    have talk := Program.converses_run plate (a.process units) { state }
    rw [← Converses.silent_iff, process_silent, Converses.silent_iff] at talk
    exact (converses_processCells talk).resolve_right free

/-- After the reads of two flat tiles that agree no write is requested, although every reply
was accepted. -/
theorem flat_tiles_end_stuck :
    let p : MemoryPlate := {
      levels := 1, format := .member .graya, channel := .member .uint8,
      tiles := TileMap.apply ∅
        [(⟨0, 0, 0, 1⟩, ⟨.uint8, [0, 3, 2], #[]⟩), (⟨0, 0, 0, 2⟩, ⟨.uint8, [0, 3, 2], #[]⟩)] }
    let a : Aggregation := ⟨⟨.graya, .uint8⟩, .weightedAverage, 0, 0, 5, 9⟩
    let units : List WorkUnit := [⟨0, 0, 0, 1, 1, by decide, by decide⟩]
    ¬a.Conducts (units.flatMap WorkUnit.cells) { units := units.length }
      ((a.process units).exchanges memoryPlate p)
      ((a.process units).run memoryPlate { state := p }).1 := by
  intro p a units conduct
  have failed : ((a.process units).run memoryPlate { state := p }).1 = .error .unequalPlanes := by
    decide +kernel
  have last : ((a.process units).exchanges memoryPlate p).getLast?.map Exchange.accepted =
      some true := by
    decide +kernel
  rw [failed] at conduct
  obtain ⟨earlier, x, split, refused⟩ := conduct.last_refused
  rw [split, List.getLast?_concat, Option.map_some, refused] at last
  cases last

end TileComposite.Aggregation
