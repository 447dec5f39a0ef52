import Mathlib.Data.List.Pairwise
import TileComposite.Job.Config
import TileComposite.Proofs.Failure
import TileComposite.Proofs.Message

/-! Settings of plain data. Data whose names are all known and whose values have the right
types gives settings, with the standard ones for what is missing, and other data gives none.
Settings make a configuration just when they fit together. Names that are not known are sorted
for the message that refuses them, which names of different kinds cannot be. No refusal is one of
a wrong argument if an integer that it quotes is too long. A configuration is complete if a run
can start with it. -/
namespace TileComposite

open Text (Writable)

/-! ### Order of names -/

namespace Scalar

/-- Kinds of names that have an order among themselves. -/
inductive Rank where
  | number | text | bytes | date
  | moment (zoned : Bool)

/-- The kind of a name. Null has an order with no name. -/
def rank? : Scalar → Option Rank
  | null => none
  | bool _ | int _ | float _ => some .number
  | text _ => some .text
  | bytes _ => some .bytes
  | date _ => some .date
  | moment m => some (.moment m.offset.isSome)

/-- The names can be told to be in order or not. -/
def Ordered (x y : Scalar) : Prop := x.rank? ≠ none ∧ x.rank? = y.rank?

theorem lt_ok_iff (x y : Scalar) : (∃ b, x.lt y = .ok b) ↔ Ordered x y := by
  cases x <;> cases y <;> simp [lt, number?, Ordered, rank?]
  case moment.moment m n =>
    by_cases same : m.offset.isSome = n.offset.isSome
    · simpa [Moment.comparable, same] using (Int.lt_or_le m.instant n.instant).symm
    · simp [Moment.comparable, same]

end Scalar

namespace Settings

/-! ### Settings that fit together -/

/-- The job has a place among its jobs, a block is not empty and the range of transactions is
not inverted. -/
structure Consistent (s : Settings) : Prop where
  jobs_pos : 1 ≤ s.jobs
  job_nonneg : 0 ≤ s.job
  job_lt : s.job < s.jobs
  block_pos : 1 ≤ s.block
  range_ordered : ∀ l ∈ s.last, s.first ≤ l

variable {s : Settings} {c : Config} {e : Failure}

theorem check_consistent (consistent : s.Consistent) : ∃ c, s.check = .ok c ∧ c.toSettings = s := by
  have enough : ¬s.jobs < 1 := Int.not_lt.mpr consistent.jobs_pos
  have some_cells : ¬s.block < 1 := Int.not_lt.mpr consistent.block_pos
  rw [check, dif_neg enough, dif_pos ⟨consistent.job_nonneg, consistent.job_lt⟩, dif_neg some_cells]
  split
  · exact ⟨_, rfl, rfl⟩
  · rename_i last given
    rw [dif_pos (consistent.range_ordered last given)]
    exact ⟨_, rfl, rfl⟩

/-- The integers of the complaint about settings that do not fit together can be written. -/
structure Told (s : Settings) : Prop where
  jobs : s.jobs < 1 → Writable s.jobs
  job : 1 ≤ s.jobs → ¬(0 ≤ s.job ∧ s.job < s.jobs) → Writable (s.jobs - 1) ∧ Writable s.job
  block : 0 ≤ s.job → s.job < s.jobs → s.block < 1 → Writable s.block
  range : 0 ≤ s.job → s.job < s.jobs → 1 ≤ s.block →
    ∀ l ∈ s.last, l < s.first → Writable l ∧ Writable s.first

theorem Consistent.told (consistent : s.Consistent) : s.Told where
  jobs few := absurd consistent.jobs_pos (Int.not_le.mpr few)
  job _ outside := absurd ⟨consistent.job_nonneg, consistent.job_lt⟩ outside
  block _ _ void := absurd consistent.block_pos (Int.not_le.mpr void)
  range _ _ _ l given inverted :=
    absurd (consistent.range_ordered l given) (Int.not_le.mpr inverted)

/-- The first complaint about settings that do not fit together. -/
inductive Unfit (s : Settings) : Failure → Prop where
  | jobs : s.jobs < 1 → Unfit s (.jobCountTooSmall s.jobs)
  | job : 1 ≤ s.jobs → ¬(0 ≤ s.job ∧ s.job < s.jobs) → Unfit s (.jobBeyondCount s.job s.jobs)
  | block : 0 ≤ s.job → s.job < s.jobs → s.block < 1 → Unfit s (.blockTooSmall s.block)
  | range {last} : 0 ≤ s.job → s.job < s.jobs → 1 ≤ s.block → s.last = some last →
      last < s.first → Unfit s (.invertedRange s.first last)

theorem Unfit.kind (unfit : Unfit s e) : e.kind = .argument := by cases unfit <;> rfl

/-- No two complaints can be the first, so what can be told is read off the one that is. -/
theorem Unfit.legible_iff (unfit : Unfit s e) : e.isLegible = true ↔ s.Told := by
  cases unfit with
  | jobs few =>
    rw [Failure.isLegible_unquoted rfl, Failure.integers, List.forall_mem_singleton]
    exact ⟨fun writable => ⟨fun _ => writable, by omega, by omega, by omega⟩,
      fun told => told.jobs few⟩
  | job enough outside =>
    have both : (∀ n ∈ [s.jobs - 1, s.job], Writable n) ↔
        Writable (s.jobs - 1) ∧ Writable s.job := by simp
    rw [Failure.isLegible_unquoted rfl, Failure.integers, both]
    exact ⟨fun writable => ⟨by omega, fun _ _ => writable, by omega, by omega⟩,
      fun told => told.job enough outside⟩
  | block nonneg lt void =>
    rw [Failure.isLegible_unquoted rfl, Failure.integers, List.forall_mem_singleton]
    exact ⟨fun writable => ⟨by omega, by omega, fun _ _ _ => writable, by omega⟩,
      fun told => told.block nonneg lt void⟩
  | @range last nonneg lt filled given inverted =>
    have both : (∀ n ∈ [last, s.first], Writable n) ↔ Writable last ∧ Writable s.first := by simp
    rw [Failure.isLegible_unquoted rfl, Failure.integers, both]
    refine ⟨fun writable => ⟨by omega, by omega, by omega, fun _ _ _ l member _ => ?_⟩,
      fun told => told.range nonneg lt filled last given inverted⟩
    cases given.symm.trans member
    exact writable

theorem check_inconsistent (inconsistent : ¬s.Consistent) :
    ∃ e, s.check = .error e ∧ Unfit s e := by
  rw [check]
  by_cases few : s.jobs < 1
  · rw [dif_pos few]
    exact ⟨_, rfl, .jobs few⟩
  rw [dif_neg few]
  by_cases placed : 0 ≤ s.job ∧ s.job < s.jobs
  · rw [dif_pos placed]
    by_cases void : s.block < 1
    · rw [dif_pos void]
      exact ⟨_, rfl, .block placed.1 placed.2 void⟩
    rw [dif_neg void]
    have inverted : ¬∀ l ∈ s.last, s.first ≤ l := fun ordered =>
      inconsistent ⟨by omega, placed.1, placed.2, by omega, ordered⟩
    split
    · rename_i none
      refine absurd (fun l member => ?_) inverted
      rw [none] at member
      cases member
    · rename_i last given
      have greater : ¬s.first ≤ last := fun ordered =>
        inverted fun l member => Option.some.inj (given.symm.trans member) ▸ ordered
      rw [dif_neg greater]
      exact ⟨_, rfl, .range placed.1 placed.2 (by omega) given (by omega)⟩
  · rw [dif_neg placed]
    exact ⟨_, rfl, .job (by omega) placed⟩

/-- What is wrong with settings is a wrong argument, if it can be told. -/
theorem check_raises (s : Settings) : Raises s.check fun e =>
    e.kind = .argument ∧ ¬s.Consistent ∧ (e.isLegible = true ↔ s.Told) := by
  intro e failed
  by_cases consistent : s.Consistent
  · obtain ⟨c, made, _⟩ := check_consistent consistent
    cases failed.symm.trans made
  · obtain ⟨e', failed', unfit⟩ := check_inconsistent consistent
    cases failed.symm.trans failed'
    exact ⟨unfit.kind, consistent, unfit.legible_iff⟩

theorem check_argument_iff : (∀ e, s.check = .error e → e.category = .argument) ↔ s.Told := by
  by_cases consistent : s.Consistent
  · obtain ⟨c, made, _⟩ := check_consistent consistent
    refine iff_of_true (fun e failed => ?_) consistent.told
    cases made.symm.trans failed
  · obtain ⟨e, failed, unfit⟩ := check_inconsistent consistent
    rw [failed, ← unfit.legible_iff]
    simp [Failure.category_eq_kind unfit.kind]

theorem check_ok_iff : s.check = .ok c ↔ s.Consistent ∧ c.toSettings = s := by
  constructor
  · intro made
    by_cases consistent : s.Consistent
    · obtain ⟨c', made', same⟩ := check_consistent consistent
      cases made.symm.trans made'
      exact ⟨consistent, same⟩
    · obtain ⟨e, failed, _⟩ := check_inconsistent consistent
      cases made.symm.trans failed
  · rintro ⟨consistent, rfl⟩
    obtain ⟨c', made, same⟩ := check_consistent consistent
    rw [made]
    cases c
    cases c'
    cases same
    rfl

/-! ### Settings that data gives -/

namespace Fields
variable {f : Fields} {key : String}

/-- The data gives the settings: all its names are known, and each setting has the value under
its name, or is the standard one if there is no such name. -/
structure Gives (f : Fields) (s : Settings) : Prop where
  known : ∀ k ∈ f.names, ∃ name ∈ keys, Scalar.sameKey (.text name) k = true
  given : ∀ name v, (Scalar.text name, v) ∈ s.entries →
    f.value? name = some v ∨ f.value? name = none ∧ (Scalar.text name, v) ∈ entries {}

/-- Every name and every value of the data has a literal. -/
structure Quotable (f : Fields) : Prop where
  names : ∀ k ∈ f.names, k.literal?.isSome = true
  values : ∀ name v, f.value? name = some v → v.literal?.isSome = true

/-- A wrong argument, which can be told if the data can be quoted. -/
def Refuses (f : Fields) (e : Failure) : Prop :=
  e.kind = .argument ∧ (f.Quotable → e.isLegible = true)

theorem Refuses.argument_iff (refuses : f.Refuses e) :
    e.category = .argument ↔ e.isLegible = true :=
  Failure.category_eq_kind refuses.1

theorem Refuses.argument (refuses : f.Refuses e) (quotable : f.Quotable) :
    e.category = .argument :=
  refuses.argument_iff.mpr (refuses.2 quotable)

theorem asInt_cases (key : String) (v : Value) :
    (∃ n, v = .scalar (.int n) ∧ asInt key v = .ok n) ∨
    (∀ n, v ≠ .scalar (.int n)) ∧ asInt key v = .error (.notInteger key v.literal?) := by
  unfold asInt
  split
  · exact .inl ⟨_, rfl, rfl⟩
  · rename_i other
    exact .inr ⟨other, rfl⟩

theorem int_ok_iff {default n : Int} : f.int key default = .ok n ↔
    f.value? key = some (.scalar (.int n)) ∨ f.value? key = none ∧ n = default := by
  unfold int
  cases f.value? key with
  | none => simp [eq_comm]
  | some v =>
    obtain ⟨m, rfl, read⟩ | ⟨other, read⟩ := asInt_cases key v
    · simp [read]
    · simp [read, other]

theorem int_raises (key : String) (default : Int) :
    Raises (f.int key default) f.Refuses := by
  intro e failed
  unfold int at failed
  split at failed
  · contradiction
  · rename_i v given
    obtain ⟨n, _, read⟩ | ⟨_, read⟩ := asInt_cases key v
    · cases read.symm.trans failed
    · cases read.symm.trans failed
      exact ⟨rfl, fun quotable =>
        (Failure.isLegible_quoting rfl rfl).mpr (quotable.values key v given)⟩

theorem Gives.int_eq (gives : f.Gives s) {n default : Int}
    (member : (Scalar.text key, Value.scalar (.int n)) ∈ s.entries)
    (standard : ∀ v, (Scalar.text key, v) ∈ entries {} ↔ v = .scalar (.int default)) :
    f.int key default = .ok n := by
  refine int_ok_iff.mpr ?_
  simpa [standard] using gives.given key _ member

theorem optionalInt_ok_iff {o : Option Int} : f.optionalInt key = .ok o ↔
    f.value? key = some ((o.map fun n => Value.scalar (.int n)).getD (.scalar .null)) ∨
      f.value? key = none ∧ o = none := by
  unfold optionalInt
  split
  · rename_i none
    simp [none, eq_comm]
  · rename_i null
    cases o with
    | none => simp [null]
    | some n => simp [null]
  · rename_i v not_null given
    rw [given]
    obtain ⟨m, rfl, read⟩ | ⟨other, read⟩ := asInt_cases key v
    · rw [read]
      change Except.ok (some m) = Except.ok o ↔ _
      cases o with
      | none => simp
      | some n => simp
    · rw [read]
      change Except.error (Failure.notInteger key v.literal?) = Except.ok o ↔ _
      cases o with
      | none => simpa using not_null
      | some n => simpa using other n

theorem Gives.optionalInt_eq (gives : f.Gives s) :
    f.optionalInt "end_trans_id" = .ok s.last := by
  have given := gives.given "end_trans_id" _ (by simp [entries]; rfl)
  refine optionalInt_ok_iff.mpr ?_
  cases last : s.last with
  | none => simpa [entries, last] using given
  | some l => simpa [entries, last] using given

theorem optionalInt_raises (key : String) :
    Raises (f.optionalInt key) f.Refuses := by
  intro e failed
  unfold optionalInt at failed
  split at failed
  · contradiction
  · contradiction
  · rename_i v _ given
    obtain ⟨n, _, read⟩ | ⟨_, read⟩ := asInt_cases key v
    · rw [read] at failed
      cases failed
    · rw [read] at failed
      cases failed
      exact ⟨rfl, fun quotable =>
        (Failure.isLegible_quoting rfl rfl).mpr (quotable.values key v given)⟩

theorem text_ok_iff {default t : String} : f.text key default = .ok t ↔
    f.value? key = some (.scalar (.text t)) ∨ f.value? key = none ∧ t = default := by
  unfold text
  split
  · rename_i none
    simp [none, eq_comm]
  · rename_i s given
    simp [given]
  · rename_i v other given
    simpa [given] using fun same => other t same

theorem Gives.text_eq (gives : f.Gives s) {t default : String}
    (member : (Scalar.text key, Value.scalar (.text t)) ∈ s.entries)
    (standard : ∀ v, (Scalar.text key, v) ∈ entries {} ↔ v = .scalar (.text default)) :
    f.text key default = .ok t := by
  refine text_ok_iff.mpr ?_
  simpa [standard] using gives.given key _ member

theorem text_raises (key default : String) :
    Raises (f.text key default) f.Refuses := by
  intro e failed
  unfold text at failed
  split at failed
  · contradiction
  · contradiction
  · rename_i v _ given
    cases failed
    exact ⟨rfl, fun quotable =>
      (Failure.isLegible_quoting rfl rfl).mpr (quotable.values key v given)⟩

/-! ### Names that are not known -/

theorem unknown_eq_nil : f.unknown = [] ↔
    ∀ k ∈ f.names, ∃ name ∈ keys, Scalar.sameKey (.text name) k = true := by
  simp [unknown, List.filter_eq_nil_iff]

theorem compare_ok_iff {k other : Scalar} :
    discard ((other.lt k).mapError Failure.incomparableKeys) = .ok () ↔
      Scalar.Ordered other k := by
  rw [← Scalar.lt_ok_iff]
  cases other.lt k with
  | ok b => exact ⟨fun _ => ⟨b, rfl⟩, fun _ => rfl⟩
  | error cause =>
    constructor
    · nofun
    · nofun

theorem compare_error {k other : Scalar} {e : Failure}
    (failed : discard ((other.lt k).mapError Failure.incomparableKeys) = .error e) :
    ∃ cause, e = .incomparableKeys cause := by
  cases order : other.lt k with
  | ok b =>
    rw [order] at failed
    cases failed
  | error cause =>
    rw [order] at failed
    cases failed
    exact ⟨cause, rfl⟩

/-- Unknown names are refused. They cannot even be sorted when two of them have no order. -/
theorem refuseUnknown_cases (f : Fields) :
    (f.unknown = [] ∧ f.refuseUnknown = .ok ()) ∨
    (f.unknown ≠ [] ∧ f.unknown.Pairwise Scalar.Ordered ∧
      ∃ literals, f.refuseUnknown = .error (.unknownKeys literals) ∧
        (f.Quotable → literals.isSome = true)) ∨
    (¬f.unknown.Pairwise Scalar.Ordered ∧
      ∃ cause, f.refuseUnknown = .error (.incomparableKeys cause)) := by
  unfold refuseUnknown
  cases unknown : f.unknown with
  | nil => exact .inl ⟨rfl, rfl⟩
  | cons k ks =>
    obtain ⟨all, passes⟩ | ⟨x, member, e, failed, fails⟩ := forM_cases
      (fun other : Scalar => discard ((other.lt k).mapError Failure.incomparableKeys)) ks
    · have ordered (x : Scalar) (member : x ∈ ks) := compare_ok_iff.mp (all x member)
      refine .inr (.inl ⟨nofun, ?_, ?_⟩)
      · -- Names that have an order with the first one are of its kind.
        refine List.pairwise_cons.mpr ⟨fun x member => ?_, List.pairwise_of_forall_mem_list ?_⟩
        · obtain ⟨some_rank, same⟩ := ordered x member
          exact ⟨same ▸ some_rank, same.symm⟩
        · intro x member y member'
          exact ⟨(ordered x member).1, (ordered x member).2.trans (ordered y member').2.symm⟩
      · dsimp only
        rw [passes]
        refine ⟨_, rfl, fun quotable => isSome_mapM.mpr fun name sorted => quotable.names name ?_⟩
        rw [List.mem_mergeSort, ← unknown] at sorted
        exact (List.mem_filter.mp sorted).1
    · obtain ⟨cause, rfl⟩ := compare_error failed
      refine .inr (.inr ⟨fun ordered => ?_, cause, ?_⟩)
      · obtain ⟨some_rank, same⟩ := List.rel_of_pairwise_cons ordered member
        cases failed.symm.trans (compare_ok_iff.mpr ⟨same ▸ some_rank, same.symm⟩)
      · dsimp only
        rw [fails]
        rfl

end Fields

open Fields in
theorem gives_of_ofFields {f : Fields} (read : ofFields f = .ok s) : f.Gives s := by
  unfold ofFields at read
  obtain ⟨_, known, read⟩ := Except.ok_of_bind read
  obtain ⟨level, level_eq, read⟩ := Except.ok_of_bind read
  obtain ⟨first, first_eq, read⟩ := Except.ok_of_bind read
  obtain ⟨last, last_eq, read⟩ := Except.ok_of_bind read
  obtain ⟨output, output_eq, read⟩ := Except.ok_of_bind read
  obtain ⟨job, job_eq, read⟩ := Except.ok_of_bind read
  obtain ⟨jobs, jobs_eq, read⟩ := Except.ok_of_bind read
  obtain ⟨block, block_eq, read⟩ := Except.ok_of_bind read
  obtain ⟨url, url_eq, read⟩ := Except.ok_of_bind read
  obtain ⟨function, function_eq, read⟩ := Except.ok_of_bind read
  cases read
  refine ⟨?_, fun name v member => ?_⟩
  · obtain ⟨empty, _⟩ | ⟨_, _, _, refused, _⟩ | ⟨_, _, refused⟩ := refuseUnknown_cases f
    · exact unknown_eq_nil.mp empty
    · cases known.symm.trans refused
    · cases known.symm.trans refused
  · rw [int_ok_iff] at level_eq first_eq output_eq job_eq jobs_eq block_eq
    rw [optionalInt_ok_iff] at last_eq
    rw [text_ok_iff] at url_eq function_eq
    simp only [entries, List.mem_cons, Prod.mk.injEq, Scalar.text.injEq, List.not_mem_nil,
      or_false] at member ⊢
    obtain ⟨rfl, rfl⟩ | ⟨rfl, rfl⟩ | ⟨rfl, rfl⟩ | ⟨rfl, rfl⟩ | ⟨rfl, rfl⟩ | ⟨rfl, rfl⟩ |
      ⟨rfl, rfl⟩ | ⟨rfl, rfl⟩ | ⟨rfl, rfl⟩ := member
    · simpa using url_eq
    · simpa using level_eq
    · simpa using first_eq
    · cases last with
      | none => simpa using last_eq
      | some l => simpa using last_eq
    · simpa using function_eq
    · simpa using output_eq
    · simpa using job_eq
    · simpa using jobs_eq
    · simpa using block_eq

open Fields in
theorem ofFields_of_gives {f : Fields} (gives : f.Gives s) : ofFields f = .ok s := by
  have known : f.refuseUnknown = .ok () := by
    have empty := unknown_eq_nil.mpr gives.known
    rw [refuseUnknown, empty]
  have level : f.int "level" (-1) = .ok s.level :=
    gives.int_eq (by simp [entries]) (by simp [entries])
  have first : f.int "start_trans_id" 0 = .ok s.first :=
    gives.int_eq (by simp [entries]) (by simp [entries])
  have last := gives.optionalInt_eq
  have output : f.int "transaction_id" 2000 = .ok s.output :=
    gives.int_eq (by simp [entries]) (by simp [entries])
  have job : f.int "job_id" 0 = .ok s.job :=
    gives.int_eq (by simp [entries]) (by simp [entries])
  have jobs : f.int "num_jobs" 1 = .ok s.jobs :=
    gives.int_eq (by simp [entries]) (by simp [entries])
  have block : f.int "block_size" 4 = .ok s.block :=
    gives.int_eq (by simp [entries]) (by simp [entries])
  have url : f.text "url" "" = .ok s.url :=
    gives.text_eq (by simp [entries]) (by simp [entries])
  have function : f.text "function" "WeightedAvg" = .ok s.function :=
    gives.text_eq (by simp [entries]) (by simp [entries])
  simp only [ofFields, known, level, first, last, output, job, jobs, block, url, function]
  rfl

/-- Data gives settings just when its names are known and its values have the right types. -/
theorem ofFields_ok_iff {f : Fields} : ofFields f = .ok s ↔ f.Gives s :=
  ⟨gives_of_ofFields, ofFields_of_gives⟩

open Fields in
/-- Data that gives no settings is refused as a wrong argument, unless two unknown names have
no order. -/
theorem ofFields_raises (f : Fields) : Raises (ofFields f) fun e => f.Refuses e ∨
    ¬f.unknown.Pairwise Scalar.Ordered ∧ ∃ cause, e = .incomparableKeys cause := by
  refine Raises.bind (fun e failed => ?_) fun _ _ => ?_
  · obtain ⟨_, known⟩ | ⟨_, _, literals, unknown, quoted⟩ | ⟨unordered, cause, unsorted⟩ :=
      refuseUnknown_cases f
    · cases failed.symm.trans known
    · cases failed.symm.trans unknown
      refine .inl ⟨rfl, fun quotable => (Failure.isLegible_quoting rfl rfl).mpr ?_⟩
      exact Option.isSome_map.trans (quoted quotable)
    · cases failed.symm.trans unsorted
      exact .inr ⟨unordered, cause, rfl⟩
  · -- What is left are values, and a value can only be of a wrong type.
    refine Raises.mono ?_ fun _ => Or.inl
    exact (int_raises _ _).bind fun _ _ => (int_raises _ _).bind fun _ _ =>
      (optionalInt_raises _).bind fun _ _ => (int_raises _ _).bind fun _ _ =>
      (int_raises _ _).bind fun _ _ => (int_raises _ _).bind fun _ _ =>
      (int_raises _ _).bind fun _ _ => (text_raises _ _).bind fun _ _ =>
      (text_raises _ _).bind fun _ _ => nofun

end Settings

/-! ### Complete settings -/

/-- A url and the end of the range are given. -/
def Settings.Complete (s : Settings) : Prop := s.url ≠ "" ∧ s.last ≠ none

namespace Config
variable {c : Config}

theorem requireComplete_ok_iff : (∃ last, c.requireComplete = .ok last) ↔ c.Complete := by
  unfold requireComplete Settings.Complete
  split
  · rename_i empty
    simp [String.isEmpty_iff.mp empty]
  · rename_i nonempty
    rw [String.isEmpty_iff] at nonempty
    cases c.last with
    | none => simp
    | some l => simp [nonempty]

theorem requireComplete_raises (c : Config) :
    Raises c.requireComplete fun e => e.category = .argument := by
  intro e failed
  unfold requireComplete at failed
  split at failed
  · cases failed
    rfl
  · split at failed
    · cases failed
    · cases failed
      rfl

end Config
end TileComposite
