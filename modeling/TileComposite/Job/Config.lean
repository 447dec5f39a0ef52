import TileComposite.Failure
import TileComposite.Value

/-! Configuration of a reduction job. Settings come from plain data, with defaults
for what is missing; they make a configuration when the job has a place among its
jobs, a block is not empty and the range of transactions is not inverted. -/
namespace TileComposite

/-- Settings of a job, checked for nothing but their types. A level of `-1` has
not been chosen. -/
structure Settings where
  url : String := ""
  level : Int := -1
  first : Int := 0
  last : Option Int := none
  function : String := "WeightedAvg"
  output : Int := 2000
  job : Int := 0
  jobs : Int := 1
  block : Int := 4
  deriving DecidableEq

/-- Settings that fit together. -/
structure Config extends Settings where
  jobs_pos : 1 ≤ jobs
  job_nonneg : 0 ≤ job
  job_lt : job < jobs
  block_pos : 1 ≤ block
  range_ordered : ∀ l ∈ last, first ≤ l
  deriving DecidableEq

namespace Settings

/-- The configuration of settings, or the first reason why there is none. -/
def check (s : Settings) : Except Failure Config :=
  if hn : s.jobs < 1 then .error (.jobCountTooSmall s.jobs)
  else if hj : 0 ≤ s.job ∧ s.job < s.jobs then
    if hb : s.block < 1 then .error (.blockTooSmall s.block)
    else match h : s.last with
      | none => .ok ⟨s, by omega, hj.1, hj.2, by omega, by simp [h]⟩
      | some last =>
        if hr : s.first ≤ last then
          .ok ⟨s, by omega, hj.1, hj.2, by omega, by simpa [h] using hr⟩
        else .error (.invertedRange s.first last)
  else .error (.jobBeyondCount s.job s.jobs)

/-- The names that settings have in plain data. -/
def keys : List String :=
  ["url", "level", "start_trans_id", "end_trans_id", "function", "transaction_id", "job_id",
    "num_jobs", "block_size"]

/-- Settings as plain data. -/
def entries (s : Settings) : List (Scalar × Value) :=
  let int (n : Int) : Value := .scalar (.int n)
  let text (t : String) : Value := .scalar (.text t)
  [(.text "url", text s.url), (.text "level", int s.level),
    (.text "start_trans_id", int s.first),
    (.text "end_trans_id", (s.last.map int).getD (.scalar .null)),
    (.text "function", text s.function), (.text "transaction_id", int s.output),
    (.text "job_id", int s.job), (.text "num_jobs", int s.jobs),
    (.text "block_size", int s.block)]

/-! ### Reading plain data

Settings are read from the names that the data gives and from the value under each
setting's name. A value is asked for only when its turn comes. -/

/-- What plain data gives: its names, and the value under a setting's name. -/
structure Fields where
  names : List Scalar
  value? : String → Option Value

def Fields.ofEntries (entries : List (Scalar × Value)) : Fields :=
  ⟨entries.map (·.1), fun key => lookup? entries (.text key)⟩

namespace Fields
variable (f : Fields)

/-- The integer that a value is. Truth values are not integers. -/
def asInt (key : String) : Value → Except Failure Int
  | .scalar (.int n) => .ok n
  | v => .error (.notInteger key v.literal?)

def int (key : String) (default : Int) : Except Failure Int :=
  match f.value? key with
  | none => .ok default
  | some v => asInt key v

/-- An integer setting that may be absent. -/
def optionalInt (key : String) : Except Failure (Option Int) :=
  match f.value? key with
  | none | some (.scalar .null) => .ok none
  | some v => some <$> asInt key v

def text (key : String) (default : String) : Except Failure String :=
  match f.value? key with
  | none => .ok default
  | some (.scalar (.text s)) => .ok s
  | some v => .error (.notText key v.literal?)

/-- The names of no setting. -/
def unknown : List Scalar :=
  f.names.filter fun k => !keys.any fun name => Scalar.sameKey (.text name) k

/-- Refuses unknown names, in ascending order. -/
def refuseUnknown : Except Failure Unit :=
  match f.unknown with
  | [] => .ok ()
  | k :: ks => do
    ks.forM fun other => discard ((other.lt k).mapError .incomparableKeys)
    let sorted := (k :: ks).mergeSort fun a b => !((b.lt a).toOption.getD false)
    throw (.unknownKeys (sorted.mapM Scalar.literal?))

end Fields

/-- The settings in plain data. Unknown names are refused first, then the integers
are judged, then the texts. -/
def ofFields (f : Fields) : Except Failure Settings := do
  f.refuseUnknown
  let standard : Settings := {}
  let level ← f.int "level" standard.level
  let first ← f.int "start_trans_id" standard.first
  let last ← f.optionalInt "end_trans_id"
  let output ← f.int "transaction_id" standard.output
  let job ← f.int "job_id" standard.job
  let jobs ← f.int "num_jobs" standard.jobs
  let block ← f.int "block_size" standard.block
  let url ← f.text "url" standard.url
  let function ← f.text "function" standard.function
  return { url, level, first, last, function, output, job, jobs, block }

def ofEntries (entries : List (Scalar × Value)) : Except Failure Settings :=
  ofFields (.ofEntries entries)

end Settings

namespace Config

/-- The configuration without any settings given. -/
def standard : Config := ⟨{}, by decide, by decide, by decide, by decide, by simp⟩

def ofFields (f : Settings.Fields) : Except Failure Config := do
  (← Settings.ofFields f).check

def ofEntries (entries : List (Scalar × Value)) : Except Failure Config :=
  ofFields (.ofEntries entries)

/-- What a run cannot start without: a url, and the end of the range. -/
def requireComplete (c : Config) : Except Failure Int :=
  if c.url.isEmpty then .error .urlRequired
  else match c.last with
    | some last => .ok last
    | none => .error .endRequired

end Config
end TileComposite
