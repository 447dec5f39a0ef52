import TileComposite.Proofs.Aggregate.Conduct
import TileComposite.Proofs.Plate.Moments

/-! Progress reports of a pass, on any plate. Each unit is reported as it begins, and completion
only after the last one. When a report says that some units are completed, the calls so far are
those over the cells of these units, and every cell was skipped or written. -/
namespace TileComposite.Aggregation
variable {σ : Type} {a : Aggregation} {plate : Plate σ} {cells later : List Cell}
  {xs ys : List Exchange}

/-- The report of a unit as it begins. -/
def starts (total i : Nat) (unit : WorkUnit) : Progress :=
  ⟨total, i, some unit.text, .processing⟩

/-- The reports of units that begin one after another at position `i`, out of `total`. -/
def begun (total i : Nat) (units : List WorkUnit) : List Progress :=
  (units.zipIdx i).map fun (unit, i) => starts total i unit

/-- The first report of a pass over `total` units. -/
def opening (total : Nat) : Progress := ⟨total, 0, none, .processing⟩

/-- The last report of a pass over `total` units. -/
def completion (total : Nat) : Progress := ⟨total, total, none, .complete⟩

/-- The exchanges go over all cells of the units that are done, and fail in the next unit. -/
def FailsWithin (a : Aggregation) (s : Summary) (done : List WorkUnit) (unit : WorkUnit)
    (xs : List Exchange) (e : Failure) : Prop :=
  ∃ s' earlier last, xs = earlier ++ last ∧
    a.Conducts (done.flatMap WorkUnit.cells) s earlier (.ok s') ∧
    (a.Conducts unit.cells s' last (.error e) ∨ a.EndsStuck unit.cells s' last (.error e))

/-- The calls are those of the first of the exchanges `xs`, which go over all cells of the units,
each cell skipped or written. -/
def Finishes (a : Aggregation) (s : Summary) (units : List WorkUnit) (xs : List Exchange)
    (calls : List Call) : Prop :=
  ∃ ys s', ys <+: xs ∧ calls = ys.map Exchange.call ∧
    a.Conducts (units.flatMap WorkUnit.cells) s ys (.ok s')

theorem Conducts.append {s s' : Summary} {r : Except Failure Summary}
    (first : a.Conducts cells s xs (.ok s')) (second : a.Conducts later s' ys r) :
    a.Conducts (cells ++ later) s (xs ++ ys) r := by
  generalize passed : Except.ok s' = r' at first
  induction first with
  | finished =>
    cases passed
    exact second
  | visited visit _ ih =>
    rw [List.append_assoc]
    exact .visited visit (ih passed)
  | ended => cases passed

theorem conducts_ok {s s' : Summary} {t u : Session σ}
    (passed : (a.processCells cells s).run plate t = (.ok s', u)) :
    a.Conducts cells s ((a.processCells cells s).exchanges plate t.state) (.ok s') := by
  have talk := Program.converses_run plate (a.processCells cells s) t
  rw [passed] at talk
  obtain conduct | ⟨failed, _⟩ := converses_processCells talk
  · exact conduct
  · cases failed

/-! ### Cells are worked on quietly -/

theorem quiet_query (cell : Cell) : (a.query cell).Quiet := by
  rintro (e | found)
  · dsimp only
    split <;> trivial
  · trivial

theorem quiet_processCells (cells : List Cell) (s : Summary) : (a.processCells cells s).Quiet :=
  processCells_closed Program.Quiet Program.quiet_ofExcept Program.Quiet.bind quiet_query
    (fun _ => Program.quiet_require _)
    (fun _ _ => (Program.quiet_require _).bind fun _ => (Program.quiet_require _).bind fun _ =>
      Program.quiet_require _) cells s

/-! ### Counts of completed units -/

/-- At none of the sessions fewer units are completed than before, and always some number
from `low` to `high`. -/
structure Counts (low high : Nat) (sessions : List (Session σ)) : Prop where
  bounds : ∀ t ∈ sessions, t.reports ≠ [] ∧ low ≤ t.progress.completed ∧ t.progress.completed ≤ high
  sorted : (sessions.map (·.progress.completed)).Pairwise (· ≤ ·)

namespace Counts
variable {low middle high : Nat} {before after : List (Session σ)}

theorem constant {earlier : List Progress} {p : Progress}
    (reports : ∀ t ∈ before, t.reports = earlier ++ [p]) (lower : low ≤ p.completed)
    (upper : p.completed ≤ high) : Counts low high before := by
  constructor
  · intro t member
    rw [Session.progress_eq (reports t member), reports t member]
    exact ⟨List.append_ne_nil_of_right_ne_nil _ (List.cons_ne_nil _ _), lower, upper⟩
  · rw [List.pairwise_map]
    refine List.pairwise_of_forall_mem_list fun t ht u hu => ?_
    rw [Session.progress_eq (reports t ht), Session.progress_eq (reports u hu)]

theorem append (first : Counts low middle before) (second : Counts middle high after)
    (lower : low ≤ middle) (upper : middle ≤ high) : Counts low high (before ++ after) := by
  constructor
  · rw [List.forall_mem_append]
    constructor
    · intro t member
      obtain ⟨some_report, above, below⟩ := first.bounds t member
      exact ⟨some_report, above, by omega⟩
    · intro t member
      obtain ⟨some_report, above, below⟩ := second.bounds t member
      exact ⟨some_report, by omega, below⟩
  · rw [List.map_append, List.pairwise_append]
    refine ⟨first.sorted, second.sorted, ?_⟩
    simp only [List.forall_mem_map]
    intro t ht u hu
    exact (first.bounds t ht).2.2.trans (second.bounds u hu).2.1

end Counts

/-! ### Units one after another -/

theorem processFrom_cons (total i : Nat) (unit : WorkUnit) (units : List WorkUnit) (s : Summary) :
    a.processFrom total i (unit :: units) s = .report (starts total i unit)
      ((a.processCells unit.cells s).bind (a.processFrom total (i + 1) units)) := rfl

theorem FailsWithin.cons {s s' : Summary} {done : List WorkUnit} {first unit : WorkUnit}
    {e : Failure} (passed : a.Conducts first.cells s xs (.ok s'))
    (fails : a.FailsWithin s' done unit ys e) :
    a.FailsWithin s (first :: done) unit (xs ++ ys) e := by
  obtain ⟨s'', earlier, last, rfl, conduct, failed⟩ := fails
  exact ⟨s'', xs ++ earlier, last, (List.append_assoc ..).symm, passed.append conduct, failed⟩

theorem processFrom_reports (plate : Plate σ) (a : Aggregation) (total i : Nat)
    (units : List WorkUnit) (s : Summary) (t : Session σ) :
    let run := (a.processFrom total i units s).run plate t
    let exchanges := (a.processFrom total i units s).exchanges plate t.state
    (∃ s', run.1 = .ok s' ∧ a.Conducts (units.flatMap WorkUnit.cells) s exchanges (.ok s') ∧
        run.2.reports = t.reports ++ begun total i units) ∨
      ∃ done unit later e, units = done ++ unit :: later ∧ run.1 = .error e ∧
        a.FailsWithin s done unit exchanges e ∧
        run.2.reports = t.reports ++ begun total i (done ++ [unit]) := by
  induction units generalizing i s t with
  | nil => exact .inl ⟨s, rfl, .finished, (List.append_nil _).symm⟩
  | cons unit units ih =>
    let start := t.reported (starts total i unit)
    have reports := (quiet_processCells (a := a) unit.cells s).reports_run plate start
    have talk := Program.converses_run plate (a.processCells unit.cells s) start
    simp only [processFrom_cons, Program.run_report, Program.exchanges_report, Program.run_bind,
      Program.exchanges_bind]
    cases ended : (a.processCells unit.cells s).run plate start with | mk r u =>
    rw [ended] at reports talk
    rw [t.reports_reported] at reports
    cases r with
    | error e =>
      refine .inr ⟨[], unit, units, e, rfl, rfl, ?_, reports⟩
      rw [List.append_nil]
      exact ⟨s, [], _, rfl, .finished, converses_processCells talk⟩
    | ok s' =>
      have first := conducts_ok ended
      obtain ⟨s'', passed, conduct, rest⟩ | ⟨done, last, later, e, rfl, failed, fails, rest⟩ :=
        ih (i + 1) s' u
      · refine .inl ⟨s'', passed, first.append conduct, ?_⟩
        rw [rest, reports, List.append_assoc]
        rfl
      · refine .inr ⟨unit :: done, last, later, e, rfl, failed, fails.cons first, ?_⟩
        rw [rest, reports, List.append_assoc]
        rfl

theorem Finishes.cons {s s' : Summary} {done : List WorkUnit} {first : WorkUnit}
    {calls : List Call} (passed : a.Conducts first.cells s xs (.ok s'))
    (finishes : a.Finishes s' done ys calls) :
    a.Finishes s (first :: done) (xs ++ ys) (xs.map Exchange.call ++ calls) := by
  obtain ⟨zs, s'', early, rfl, conduct⟩ := finishes
  exact ⟨xs ++ zs, s'', (List.prefix_append_right_inj xs).mpr early, List.map_append.symm,
    passed.append conduct⟩

theorem processFrom_finishes {total i : Nat} {units : List WorkUnit} {s : Summary}
    {t u : Session σ} {p : Progress}
    (moment : u ∈ (a.processFrom total i units s).moments plate t)
    (reported : u.announced? = some p) :
    ∃ done later calls, units = done ++ later ∧ p.completed = (i + done.length : Nat) ∧
      u.calls = t.calls ++ calls ∧
      a.Finishes s done ((a.processFrom total i units s).exchanges plate t.state) calls := by
  induction units generalizing i s t with
  | nil => cases moment
  | cons unit units ih =>
    let start := t.reported (starts total i unit)
    have calls := Program.calls_run plate (a.processCells unit.cells s) start
    simp only [processFrom_cons, Program.moments_report, Program.exchanges_report,
      Program.moments_bind, Program.exchanges_bind, List.mem_cons, List.mem_append] at moment ⊢
    cases ended : (a.processCells unit.cells s).run plate start with | mk r t' =>
    rw [ended, t.calls_reported] at calls
    rw [ended] at moment
    obtain rfl | within | afterwards := moment
    · cases (t.announced_reported _).symm.trans reported
      refine ⟨[], unit :: units, [], rfl, rfl, ?_, [], s, List.nil_prefix, rfl, .finished⟩
      rw [t.calls_reported, List.append_nil]
    · have quiet := quiet_processCells (a := a) unit.cells s
      cases (quiet.of_mem_moments within).2.symm.trans reported
    · cases r with
      | error e => cases afterwards
      | ok s' =>
        obtain ⟨done, later, more, rfl, completed, called, finishes⟩ := ih afterwards
        refine ⟨unit :: done, later, _, rfl, ?_, ?_, finishes.cons (conducts_ok ended)⟩
        · rw [completed, List.length_cons, Nat.succ_add_eq_add_succ]
        · rw [called, calls, List.append_assoc]

theorem counts_processFrom (plate : Plate σ) (a : Aggregation) (total i : Nat)
    (units : List WorkUnit) (s : Summary) (t : Session σ) :
    Counts i (i + units.length) ((a.processFrom total i units s).moments plate t) := by
  induction units generalizing i s t with
  | nil => exact ⟨nofun, .nil⟩
  | cons unit units ih =>
    let start := t.reported (starts total i unit)
    have within (high : Nat) (later : i ≤ high) :
        Counts i high (start :: (a.processCells unit.cells s).moments plate start) := by
      have reports : ∀ u ∈ start :: (a.processCells unit.cells s).moments plate start,
          u.reports = t.reports ++ [starts total i unit] := by
        rw [List.forall_mem_cons]
        refine ⟨t.reports_reported _, fun u member => ?_⟩
        have quiet := quiet_processCells (a := a) unit.cells s
        exact (quiet.of_mem_moments member).1.trans (t.reports_reported _)
      exact .constant reports (Int.le_refl _) (Int.ofNat_le.mpr later)
    rw [processFrom_cons, Program.moments_report, List.length_cons]
    cases ended : (a.processCells unit.cells s).run plate start with | mk r t' =>
    cases r with
    | error e =>
      rw [Program.moments_bind_error ended]
      exact within _ (by omega)
    | ok s' =>
      have later := ih (i + 1) s' t'
      rw [Nat.succ_add_eq_add_succ] at later
      rw [Program.moments_bind_ok ended, ← List.cons_append]
      exact (within (i + 1) (by omega)).append later (by omega) (by omega)

/-! ### A whole pass -/

theorem process_eq (units : List WorkUnit) :
    a.process units = .report (opening units.length)
      ((a.processFrom units.length 0 units { units := units.length }).bind fun summary =>
        .report (completion units.length) (.done summary)) := rfl

theorem process_ok {units : List WorkUnit} {s t : Session σ} {summary : Summary}
    (passed : (a.processFrom units.length 0 units { units := units.length }).run plate
      (s.reported (opening units.length)) = (.ok summary, t)) :
    (a.process units).run plate s = (.ok summary, t.reported (completion units.length)) := by
  rw [process_eq, Program.run_report, Program.run_bind, passed]
  rfl

theorem process_error {units : List WorkUnit} {s t : Session σ} {e : Failure}
    (failed : (a.processFrom units.length 0 units { units := units.length }).run plate
      (s.reported (opening units.length)) = (.error e, t)) :
    (a.process units).run plate s = (.error e, t) := by
  rw [process_eq, Program.run_report, Program.run_bind, failed]

/-- No calls are made but those over the units. -/
theorem process_exchanges (plate : Plate σ) (units : List WorkUnit) (s : Session σ) :
    (a.process units).exchanges plate s.state =
      (a.processFrom units.length 0 units { units := units.length }).exchanges plate
        (s.reported (opening units.length)).state := by
  rw [process_eq, Program.exchanges_report, Program.exchanges_bind]
  split <;> exact List.append_nil _

theorem of_mem_process {units : List WorkUnit} {s t : Session σ}
    (moment : t ∈ (a.process units).moments plate s) :
    t = s.reported (opening units.length) ∨
      t ∈ (a.processFrom units.length 0 units { units := units.length }).moments plate
        (s.reported (opening units.length)) ∨
      ∃ summary u, (a.processFrom units.length 0 units { units := units.length }).run plate
        (s.reported (opening units.length)) = (.ok summary, u) ∧
        t = u.reported (completion units.length) := by
  rw [process_eq, Program.moments_report, Program.moments_bind, List.mem_cons,
    List.mem_append] at moment
  refine moment.imp_right (Or.imp_right fun last => ?_)
  split at last
  · exact ⟨_, _, ‹_›, List.mem_singleton.mp last⟩
  · cases last

theorem process_finishes {units : List WorkUnit} {s t : Session σ} {p : Progress}
    (moment : t ∈ (a.process units).moments plate s) (reported : t.announced? = some p) :
    ∃ done later calls, units = done ++ later ∧ p.completed = done.length ∧
      t.calls = s.calls ++ calls ∧
      a.Finishes { units := units.length } done ((a.process units).exchanges plate s.state)
        calls := by
  let start := s.reported (opening units.length)
  let body := a.processFrom units.length 0 units { units := units.length }
  obtain rfl | within | ⟨summary, u, passed, rfl⟩ := of_mem_process moment
  · cases (s.announced_reported _).symm.trans reported
    refine ⟨[], units, [], rfl, rfl, ?_, [], _, List.nil_prefix, rfl, .finished⟩
    rw [s.calls_reported, List.append_nil]
  · obtain ⟨done, later, calls, split, completed, called, finishes⟩ :=
      processFrom_finishes within reported
    rw [Nat.zero_add] at completed
    rw [s.calls_reported] at called
    rw [process_exchanges]
    exact ⟨done, later, calls, split, completed, called, finishes⟩
  · cases (u.announced_reported _).symm.trans reported
    have calls := Program.calls_run plate body start
    rw [passed, s.calls_reported] at calls
    obtain ⟨_, _, conduct, _⟩ | ⟨_, _, _, _, _, failed, _⟩ :=
      processFrom_reports plate a units.length 0 units { units := units.length } start
    · rw [process_exchanges]
      refine ⟨units, [], _, (List.append_nil _).symm, rfl, ?_, _, _, List.prefix_rfl, rfl, conduct⟩
      rw [u.calls_reported, calls]
    · rw [passed] at failed
      cases failed

theorem counts_process (plate : Plate σ) (a : Aggregation) (units : List WorkUnit)
    (s : Session σ) : Counts 0 units.length ((a.process units).moments plate s) := by
  let start := s.reported (opening units.length)
  have first : Counts 0 0 [start] :=
    .constant (List.forall_mem_singleton.mpr (s.reports_reported _)) (Int.le_refl _)
      (Int.le_refl _)
  have within := counts_processFrom plate a units.length 0 units { units := units.length } start
  rw [Nat.zero_add] at within
  have begun := first.append within (Nat.le_refl _) (Nat.zero_le _)
  rw [process_eq, Program.moments_report, Program.moments_bind, ← List.cons_append]
  refine begun.append ?_ (Nat.zero_le _) (Nat.le_refl _)
  split
  · rename_i t _
    exact .constant (List.forall_mem_singleton.mpr (t.reports_reported _)) (Int.le_refl _)
      (Int.le_refl _)
  · exact ⟨nofun, .nil⟩

/-- On any plate each unit is reported as it begins, and completion last, just if the pass
succeeds. At each report the calls so far are those over the cells of the units that it counts
as completed, of which there are never fewer than before. -/
theorem process_reports (plate : Plate σ) (a : Aggregation) (units : List WorkUnit)
    (s : Session σ) :
    let run := (a.process units).run plate s
    let exchanges := (a.process units).exchanges plate s.state
    let moments := (a.process units).moments plate s
    let n := units.length
    ((∃ summary, run.1 = .ok summary ∧
        run.2.reports = s.reports ++ opening n :: begun n 0 units ++ [completion n]) ∨
      ∃ done unit later e, units = done ++ unit :: later ∧ run.1 = .error e ∧
        a.FailsWithin { units := n } done unit exchanges e ∧
        run.2.reports = s.reports ++ opening n :: begun n 0 (done ++ [unit])) ∧
    (∀ t ∈ moments, ∀ p, t.announced? = some p → t.progress = p ∧
      ∃ done later calls, units = done ++ later ∧ p.completed = done.length ∧
        t.calls = s.calls ++ calls ∧ a.Finishes { units := n } done exchanges calls) ∧
    (∀ t ∈ moments, t.reports.getLast? = some t.progress ∧ t.progress.completed ≤ n) ∧
    (moments.map (·.progress.completed)).Pairwise (· ≤ ·) := by
  intro run exchanges moments n
  have counts := counts_process plate a units s
  refine ⟨?_, fun t moment p reported => ?_, ?_, counts.sorted⟩
  · have result := processFrom_reports plate a n 0 units { units := n } (s.reported (opening n))
    rw [← process_exchanges] at result
    cases ended : (a.processFrom n 0 units { units := n }).run plate (s.reported (opening n)) with
    | mk r t =>
    rw [ended, s.reports_reported] at result
    obtain ⟨summary, rfl, _, reports⟩ | ⟨done, unit, later, e, split, rfl, fails, reports⟩ := result
    · refine .inl ⟨summary, congrArg Prod.fst (process_ok ended), ?_⟩
      rw [show run = _ from process_ok ended, t.reports_reported, reports, List.append_assoc s.reports]
      rfl
    · refine .inr ⟨done, unit, later, e, split, congrArg Prod.fst (process_error ended), fails, ?_⟩
      rw [show run = _ from process_error ended, reports, List.append_assoc]
      rfl
  · exact ⟨Session.progress_of_announced reported, process_finishes moment reported⟩
  · intro t moment
    obtain ⟨some_report, _, upper⟩ := counts.bounds t moment
    refine ⟨?_, upper⟩
    rw [Session.progress, List.getLast?_eq_some_getLast some_report, Option.getD_some]

/-- The second of two units has flat tiles, and is the last one reported. -/
example :
    let p : MemoryPlate := {
      levels := 1, format := .member .graya, channel := .member .uint8,
      tiles := TileMap.apply ∅ [(⟨0, 1, 0, 1⟩, ⟨.uint8, [0, 3, 2], #[]⟩)] }
    let a : Aggregation := ⟨⟨.graya, .uint8⟩, .weightedAverage, 0, 0, 5, 9⟩
    let unit (col : Int) : WorkUnit := ⟨0, col, 0, col + 1, 1, by omega, by decide⟩
    ((a.process [unit 0, unit 1]).run memoryPlate { state := p }).2.reports =
      [opening 2, starts 2 0 (unit 0), starts 2 1 (unit 1)] := by
  decide +kernel

end TileComposite.Aggregation
