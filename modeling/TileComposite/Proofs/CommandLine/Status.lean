import TileComposite.CommandLine.Command
import TileComposite.Proofs.CommandLine.Overrides
import TileComposite.Proofs.Job.Refusal
import TileComposite.Proofs.Locator.Scheme

/-! The exit status of the command. It is zero just when the job has run to its end, and one
after a failure that is printed, except for some failures that the command lets through: a file
that cannot be read for a reason of its own, a scalar without a value, unknown names without an
order, a host that is refused, flat tiles, and integers that are too long to be written. -/
namespace TileComposite
open CommandLine CommandLine.Ending

variable {e : Failure}

theorem isReported_of_argument (wrong : e.category = .argument) : isReported e = true := by
  rw [isReported, wrong]
  rfl

theorem not_isReported_of_illegible (illegible : ¬e.isLegible = true) : isReported e = false := by
  rw [isReported, Failure.category_of_illegible illegible]
  rfl

/-- What is wrong with an argument is reported, or it cannot be said. -/
theorem isReported_or_illegible (wrong : e.kind = .argument) :
    isReported e = true ∨ ¬e.isLegible = true := by
  by_cases legible : e.isLegible = true
  · exact .inl (isReported_of_argument ((Failure.category_of_legible legible).trans wrong))
  · exact .inr legible

/-! ### Configurations -/

namespace CommandLine.Arguments

/-- The arguments name a file whose failure is neither a wrong argument nor the system's, or what
is wrong with their settings cannot be told. -/
inductive Trips (a : Arguments) (files : Files) : Prop where
  | file {path e} : a.file = some path → path ≠ "" → files path = .error e →
      isReported e = false → Trips a files
  | scalar {path text fault} : a.file = some path → path ≠ "" → files path = .ok text →
      Yaml.read text = .error (.scalar fault) → Trips a files
  | names {path text data entries} : a.file = some path → path ≠ "" → files path = .ok text →
      Yaml.read text = .ok data → Config.sectionOf path data = .ok entries →
      ¬(Config.fieldsOf data entries).unknown.Pairwise Scalar.Ordered → Trips a files
  | fields {path text data entries e} : a.file = some path → path ≠ "" → files path = .ok text →
      Yaml.read text = .ok data → Config.sectionOf path data = .ok entries →
      Settings.ofFields (Config.fieldsOf data entries) = .error e → ¬e.isLegible = true →
      Trips a files
  | settings {s} : a.Base files s → ¬s.Told → Trips a files
  | merged {s} : a.Base files s → s.Consistent → a.Valued → ¬(a.overrides.apply s).Told →
      Trips a files

variable {a : Arguments} {files : Files} {c : Config} {s : Settings}

theorem overlay_raises (a : Arguments) (base : Config) :
    Raises (a.overlay base) fun e => e.kind = .argument := by
  have kind {e : Failure} (wrong : e.category = .argument) : e.kind = .argument :=
    Failure.kind_eq wrong
  refine (a.checkVoided_raises.mono fun _ => kind).bind fun _ _ => ?_
  refine ((Settings.check_raises _).mono fun _ => And.left).bind fun c _ => ?_
  exact (c.requireComplete_raises.mono fun _ => kind).bind fun _ _ => nofun

theorem config_raises (base : a.Base files s) :
    Raises (a.config files) fun e => e.kind = .argument := by
  rw [config_eq base]
  exact (s.check_raises.mono fun _ => And.left).bind fun file _ => a.overlay_raises file

/-- Settings of which not all that is wrong can be told are refused, and it is not reported. -/
theorem config_untold (base : a.Base files s)
    (untold : ¬(s.Told ∧ (s.Consistent → a.Valued → (a.overrides.apply s).Told))) :
    ∃ e, a.config files = .error e ∧ isReported e = false := by
  rw [← config_argument_iff base] at untold
  push Not at untold
  obtain ⟨e, failed, other⟩ := untold
  refine ⟨e, failed, not_isReported_of_illegible fun legible => other ?_⟩
  exact (Failure.category_of_legible legible).trans (config_raises base e failed)

theorem config_of_section {path text : String} {data : Yaml.Data}
    {entries : List (Yaml.Key × Yaml.Datum)} (given : a.file = some path) (nonempty : path ≠ "")
    (found : files path = .ok text) (read : Yaml.read text = .ok data)
    (sectioned : Config.sectionOf path data = .ok entries) :
    a.config files = Config.ofFields (Config.fieldsOf data entries) >>= a.overlay := by
  rw [config_of_file given nonempty, Config.ofFile_eq found read sectioned]

theorem Trips.config_eq (trips : a.Trips files) :
    ∃ e, a.config files = .error e ∧ isReported e = false := by
  cases trips with
  | @file path e given nonempty failed unreported =>
    refine ⟨e, ?_, unreported⟩
    rw [config_of_file given nonempty, Config.ofFile, failed]
    rfl
  | @scalar path text fault given nonempty found failed =>
    refine ⟨.badScalar fault, ?_, by cases fault <;> rfl⟩
    rw [config_of_file given nonempty, Config.ofFile, found]
    change Config.ofText path text >>= _ = _
    rw [Config.ofText, failed]
    rfl
  | @names path text data entries given nonempty found read sectioned unordered =>
    obtain ⟨empty, _⟩ | ⟨_, ordered, _⟩ | ⟨_, cause, refused⟩ :=
      Settings.Fields.refuseUnknown_cases (Config.fieldsOf data entries)
    · rw [empty] at unordered
      exact absurd .nil unordered
    · exact absurd ordered unordered
    · refine ⟨.incomparableKeys cause, ?_, rfl⟩
      rw [config_of_section given nonempty found read sectioned, Config.ofFields,
        Settings.ofFields, refused]
      rfl
  | @fields path text data entries e given nonempty found read sectioned failed illegible =>
    refine ⟨e, ?_, not_isReported_of_illegible illegible⟩
    rw [config_of_section given nonempty found read sectioned, Config.ofFields, failed]
    rfl
  | settings base untold => exact config_untold base fun told => untold told.1
  | merged base own valued untold =>
    exact config_untold base fun told => untold (told.2 own valued)

theorem named_file (given : ¬(a.file = none ∨ a.file = some "")) :
    ∃ path, a.file = some path ∧ path ≠ "" := by
  cases named : a.file with
  | none => exact absurd (.inl named) given
  | some path => exact ⟨path, rfl, fun empty => given (.inr (empty ▸ named))⟩

/-- Arguments give settings for the flags to stand beside, or they are refused before. -/
theorem base_cases (a : Arguments) (files : Files) :
    (∃ s, a.Base files s) ∨
      ∃ e, a.config files = .error e ∧ (isReported e = true ∨ a.Trips files) := by
  by_cases missing : a.file = none ∨ a.file = some ""
  · exact .inl ⟨_, .standard missing⟩
  obtain ⟨path, given, nonempty⟩ := named_file missing
  cases found : files path with
  | error e =>
    refine .inr ⟨e, ?_, ?_⟩
    · rw [config_of_file given nonempty, Config.ofFile, found]
      rfl
    · cases reported : isReported e with
      | true => exact .inl rfl
      | false => exact .inr (.file given nonempty found reported)
  | ok text =>
    have loaded : a.config files = Config.ofText path text >>= a.overlay := by
      rw [config_of_file given nonempty, Config.ofFile, found]
      rfl
    cases read : Yaml.read text with
    | error fault =>
      rw [Config.ofText, read] at loaded
      cases fault with
      | malformed => exact .inr ⟨_, loaded, .inl rfl⟩
      | scalar fault => exact .inr ⟨_, loaded, .inr (.scalar given nonempty found read)⟩
    | ok data =>
      cases sectioned : Config.sectionOf path data with
      | error e =>
        obtain ⟨wrong, legible⟩ := Config.sectionOf_raises path data e sectioned
        rw [Config.ofText, read] at loaded
        change _ = Config.ofData path data >>= _ at loaded
        rw [Config.ofData, sectioned] at loaded
        exact .inr ⟨e, loaded, (isReported_or_illegible wrong).imp_right (absurd legible)⟩
      | ok entries =>
        have loaded := config_of_section given nonempty found read sectioned
        cases gives : Settings.ofFields (Config.fieldsOf data entries) with
        | ok s =>
          exact .inl ⟨s, .file given nonempty found read sectioned
            (Settings.ofFields_ok_iff.mp gives)⟩
        | error e =>
          rw [Config.ofFields, gives] at loaded
          refine .inr ⟨e, loaded, ?_⟩
          obtain refuses | ⟨unordered, _⟩ := Settings.ofFields_raises _ e gives
          · exact (isReported_or_illegible refuses.1).imp_right
              (.fields given nonempty found read sectioned gives)
          · exact .inr (.names given nonempty found read sectioned unordered)

theorem config_reported (a : Arguments) (files : Files) :
    Raises (a.config files) fun e => isReported e = true ∨ a.Trips files := by
  intro e failed
  obtain ⟨s, base⟩ | ⟨e', failed', reported⟩ := a.base_cases files
  · by_cases told : s.Told ∧ (s.Consistent → a.Valued → (a.overrides.apply s).Told)
    · exact .inl (isReported_of_argument ((config_argument_iff base).mpr told e failed))
    · rw [not_and_or] at told
      push Not at told
      obtain untold | ⟨own, valued, untold⟩ := told
      · exact .inr (.settings base untold)
      · exact .inr (.merged base own valued untold)
  · cases failed.symm.trans failed'
    exact reported

theorem complete_of_config (made : a.config files = .ok c) : c.Complete := by
  have overlaid : ∃ base, a.overlay base = .ok c := by
    by_cases missing : a.file = none ∨ a.file = some ""
    · exact ⟨_, (config_of_none missing).symm.trans made⟩
    · obtain ⟨path, given, nonempty⟩ := named_file missing
      rw [config_of_file given nonempty] at made
      obtain ⟨base, _, made⟩ := Except.ok_of_bind made
      exact ⟨base, made⟩
  obtain ⟨base, overlaid⟩ := overlaid
  obtain ⟨⟨_, _, complete⟩, same⟩ := overlay_ok_iff.mp overlaid
  rw [same]
  exact complete

/-- Arguments give a complete configuration, or a failure that is not reported just when they
trip. -/
theorem config_cases (a : Arguments) (files : Files) :
    (∃ c, a.config files = .ok c ∧ c.Complete ∧ ¬a.Trips files) ∨
    ∃ e, a.config files = .error e ∧ (a.Trips files ↔ isReported e = false) := by
  cases made : a.config files with
  | ok c =>
    refine .inl ⟨c, rfl, complete_of_config made, fun trips => ?_⟩
    obtain ⟨e, failed, _⟩ := trips.config_eq
    cases made.symm.trans failed
  | error e =>
    refine .inr ⟨e, rfl, fun trips => ?_, fun unreported => ?_⟩
    · obtain ⟨e', failed, unreported⟩ := trips.config_eq
      cases made.symm.trans failed
      exact unreported
    · obtain reported | trips := config_reported a files e made
      · rw [reported] at unreported
        contradiction
      · exact trips

end CommandLine.Arguments

/-! ### Jobs on plates by their urls -/

namespace Registry
variable {η : Type} {r : Registry η} {url : String}

theorem openPlate_badHost {fault : HostFault} (nonempty : url ≠ "")
    (refused : Locator.scheme url = .error (.badHost fault)) :
    r.openPlate url = .error (.badHost fault) := by
  have given : ¬url.isEmpty = true := by rwa [String.isEmpty_iff]
  rw [openPlate, if_neg given, refused]
  rfl

theorem ask_raises (r : Registry η) (url : String) (b : Backend η) :
    Raises (r.ask url b) fun e => e.category = .argument := by
  cases b with
  | factory make => nofun
  | memory =>
    unfold ask
    dsimp only
    split
    · nofun
    · rintro _ ⟨⟩
      rfl

theorem openPlate_raises (r : Registry η) (url : String) : Raises (r.openPlate url) fun e =>
    e.category = .argument ∨ ∃ fault, Locator.scheme url = .error (.badHost fault) := by
  unfold openPlate
  split
  · rintro _ ⟨⟩
    exact .inl rfl
  refine Raises.bind (fun e failed => ?_) fun scheme _ => ?_
  · obtain ⟨fault, rfl⟩ := Locator.scheme_raises url e failed
    exact .inr ⟨fault, failed⟩
  · split
    · rintro _ ⟨⟩
      exact .inl rfl
    · exact (r.ask_raises url _).mono fun _ => .inl

end Registry

namespace Depot
variable {η : Type} {d : Depot η MemoryPlate} {c : Config} {h : η}

/-- The host of the job's url is refused, or the job is not accountable on its plate. -/
inductive Trips (d : Depot η MemoryPlate) (c : Config) : Prop where
  | host {fault} : (∃ r : Reducer, r.Named c.function) →
      Locator.scheme c.url = .error (.badHost fault) → Trips d c
  | job {plate} : d.registry.openPlate c.url = .ok plate → ¬c.Accountable (d.state plate) →
      Trips d c

/-- The plate of the job's url is found, and the job runs to its end there. -/
def Succeeds (d : Depot η MemoryPlate) (c : Config) : Prop :=
  ∃ h result, d.registry.openPlate c.url = .ok h ∧
    (runJobLogged memoryPlate c (d.state h)).1 = .ok result

/-- The failures of a job that are told are those that are reported. -/
theorem told_iff_reported {p : MemoryPlate} (failed : (runJobLogged memoryPlate c p).1 = .error e) :
    Config.Told e ↔ isReported e = true := by
  constructor
  · rintro ((argument | unsupported) | store)
    · exact isReported_of_argument argument
    · rw [isReported, unsupported]
      rfl
    · have job : e.category.isJob = true := by
        cases category : e.category <;> rw [category] at store <;> first | rfl | cases store
      rw [isReported, job]
      rfl
  · intro reported
    by_contra untold
    have unreported : isReported e = false := by
      by_cases refused : c.Refused p e
      · exact not_isReported_of_illegible (mt refused.told_iff.mpr untold)
      · cases Config.late_of_fails failed refused with
        | plate store => exact absurd (.inr store) untold
        | flat | unlogged => rfl
        | illegible illegible => exact not_isReported_of_illegible illegible
    rw [unreported] at reported
    contradiction

theorem runByUrl_opened (opened : d.registry.openPlate c.url = .ok h) :
    (d.runByUrl memoryPlate c).1 = (runJobLogged memoryPlate c (d.state h)).1 := by
  rw [runByUrl, runJobLogged]
  cases Job.ofConfig c with
  | error e => rfl
  | ok job =>
    dsimp only
    rw [opened]

/-- A plate that is not found is asked for only after the function is known. -/
theorem runByUrl_unopened (complete : c.Complete)
    (unopened : d.registry.openPlate c.url = .error e) :
    ((∃ r : Reducer, r.Named c.function) ∧ (d.runByUrl memoryPlate c).1 = .error e) ∨
      (∀ r : Reducer, ¬r.Named c.function) ∧
        (d.runByUrl memoryPlate c).1 = .error (.unknownReducer c.function) := by
  obtain ⟨last, complete⟩ := Config.requireComplete_ok_iff.mpr complete
  obtain ⟨r, named, found⟩ | ⟨unnamed, unknown⟩ := Reducer.ofName_cases c.function
  · refine .inl ⟨⟨r, named⟩, ?_⟩
    rw [runByUrl, Config.ofConfig_of_named complete found]
    dsimp only
    rw [unopened]
  · refine .inr ⟨unnamed, ?_⟩
    rw [runByUrl, Config.ofConfig_of_unnamed complete unknown]

theorem trips_iff_of_opened (complete : c.Complete)
    (opened : d.registry.openPlate c.url = .ok h) :
    d.Trips c ↔ ¬c.Accountable (d.state h) := by
  constructor
  · rintro (⟨_, refused⟩ | ⟨opened', unaccountable⟩)
    · cases opened.symm.trans (Registry.openPlate_badHost complete.1 refused)
    · cases opened.symm.trans opened'
      exact unaccountable
  · exact .job opened

theorem trips_iff_of_unopened (unopened : d.registry.openPlate c.url = .error e) :
    d.Trips c ↔ (∃ r : Reducer, r.Named c.function) ∧
      ∃ fault, Locator.scheme c.url = .error (.badHost fault) := by
  constructor
  · rintro (⟨named, refused⟩ | ⟨opened, _⟩)
    · exact ⟨named, _, refused⟩
    · cases unopened.symm.trans opened
  · rintro ⟨named, fault, refused⟩
    exact .host named refused

theorem not_succeeds_of_unopened (unopened : d.registry.openPlate c.url = .error e) :
    ¬d.Succeeds c := by
  rintro ⟨h, _, opened, _⟩
  cases unopened.symm.trans opened

/-- The job of a complete configuration runs to its end on the plate of its url, or fails with
a failure that is not reported just when it trips. -/
theorem runByUrl_ends (d : Depot η MemoryPlate) (complete : c.Complete) :
    (∃ result, (d.runByUrl memoryPlate c).1 = .ok result ∧ d.Succeeds c ∧ ¬d.Trips c) ∨
    ∃ e, (d.runByUrl memoryPlate c).1 = .error e ∧ ¬d.Succeeds c ∧
      (d.Trips c ↔ isReported e = false) := by
  cases opened : d.registry.openPlate c.url with
  | ok h =>
    rw [trips_iff_of_opened complete opened, runByUrl_opened opened, not_not,
      Config.accountable_iff]
    cases ran : (runJobLogged memoryPlate c (d.state h)).1 with
    | ok result => exact .inl ⟨result, rfl, ⟨h, result, opened, ran⟩, nofun⟩
    | error e =>
      refine .inr ⟨e, rfl, ?_, ?_⟩
      · rintro ⟨h', result, opened', succeeded⟩
        cases opened.symm.trans opened'
        cases ran.symm.trans succeeded
      · rw [← Bool.not_eq_true, ← told_iff_reported ran]
        simp
  | error e =>
    refine .inr ?_
    rw [trips_iff_of_unopened opened]
    obtain ⟨named, failed⟩ | ⟨unnamed, unknown⟩ := runByUrl_unopened complete opened
    · refine ⟨e, failed, not_succeeds_of_unopened opened, ?_⟩
      rw [and_iff_right named]
      obtain wrong | ⟨fault, host⟩ := d.registry.openPlate_raises c.url e opened
      · refine iff_of_false ?_ (Bool.not_eq_false _ ▸ isReported_of_argument wrong)
        rintro ⟨fault, host⟩
        cases opened.symm.trans (Registry.openPlate_badHost complete.1 host)
        contradiction
      · have refused := Registry.openPlate_badHost (r := d.registry) complete.1 host
        cases opened.symm.trans refused
        exact iff_of_true ⟨fault, host⟩ rfl
    · exact ⟨_, unknown, not_succeeds_of_unopened opened,
        iff_of_false (fun trips => not_exists.mpr unnamed trips.1)
          (Bool.not_eq_false _ ▸ isReported_of_argument rfl)⟩

end Depot

/-! ### The command -/

namespace CommandLine
variable {η : Type}

/-- The job that the words ask for has run to its end on the plate of its url. -/
def Ran (d : Depot η MemoryPlate) (files : Files) (texts : List String) : Prop :=
  ∃ a c, Arguments.parse texts = .ok a ∧ a.config files = .ok c ∧ d.Succeeds c

/-- The words ask for a configuration or a job that trips the command. -/
def Escapes (d : Depot η MemoryPlate) (files : Files) (texts : List String) : Prop :=
  ∃ a, Arguments.parse texts = .ok a ∧
    (a.Trips files ∨ ∃ c, a.config files = .ok c ∧ d.Trips c)

section
variable {d : Depot η MemoryPlate} {files : Files} {texts : List String} {a : Arguments}
  {c : Config}

theorem run_misused {cause : Misuse} (parsed : Arguments.parse texts = .error (.misuse cause)) :
    (run d memoryPlate files texts).1 = .failed (.misuse cause) := by
  rw [run, parsed]

theorem run_unconfigured {e : Failure} (parsed : Arguments.parse texts = .ok a)
    (made : a.config files = .error e) : (run d memoryPlate files texts).1 = .failed e := by
  rw [run, parsed]
  dsimp only
  rw [made]

theorem run_configured (parsed : Arguments.parse texts = .ok a) (made : a.config files = .ok c) :
    (run d memoryPlate files texts).1 =
      match (d.runByUrl memoryPlate c).1 with
      | .error e => .failed e
      | .ok result => .done result a.json := by
  rw [run, parsed]
  dsimp only
  rw [made]
  dsimp only
  obtain ⟨result | result, opened⟩ := d.runByUrl memoryPlate c
  · rfl
  · rfl

theorem ran_iff (parsed : Arguments.parse texts = .ok a) :
    Ran d files texts ↔ ∃ c, a.config files = .ok c ∧ d.Succeeds c := by
  constructor
  · rintro ⟨a', c, parsed', made⟩
    cases parsed.symm.trans parsed'
    exact ⟨c, made⟩
  · rintro ⟨c, made⟩
    exact ⟨a, c, parsed, made⟩

theorem escapes_iff (parsed : Arguments.parse texts = .ok a) :
    Escapes d files texts ↔ a.Trips files ∨ ∃ c, a.config files = .ok c ∧ d.Trips c := by
  constructor
  · rintro ⟨a', parsed', trips⟩
    cases parsed.symm.trans parsed'
    exact trips
  · exact fun trips => ⟨a, parsed, trips⟩

/-- The command does what the words ask for, or fails. It fails with a failure that it does not
report just when it is tripped. -/
theorem run_cases (unasked : Arguments.parse texts ≠ .error .help) :
    (Ran d files texts ∧ ¬Escapes d files texts ∧
      ∃ result json, (run d memoryPlate files texts).1 = .done result json) ∨
    ¬Ran d files texts ∧ ∃ e, (run d memoryPlate files texts).1 = .failed e ∧
      (Escapes d files texts ↔ isReported e = false) := by
  cases parsed : Arguments.parse texts with
  | error stop =>
    cases stop with
    | help => exact absurd parsed unasked
    | misuse cause =>
      refine .inr ⟨?_, .misuse cause, run_misused parsed, ?_, nofun⟩
      · rintro ⟨a, c, parsed', _⟩
        cases parsed.symm.trans parsed'
      · rintro ⟨a, parsed', _⟩
        cases parsed.symm.trans parsed'
  | ok a =>
    rw [ran_iff parsed, escapes_iff parsed]
    -- Arguments that give a configuration can only be tripped by its job.
    obtain ⟨c, made, complete, sane⟩ | ⟨e, made, trips⟩ := a.config_cases files
    · rw [made, run_configured parsed made]
      simp only [Except.ok.injEq, exists_eq_left', or_iff_right sane]
      obtain ⟨result, ran, succeeds, untripped⟩ | ⟨e, ran, fails, trips⟩ := d.runByUrl_ends complete
      · rw [ran]
        exact .inl ⟨succeeds, untripped, result, a.json, rfl⟩
      · rw [ran]
        exact .inr ⟨fails, e, rfl, trips⟩
    · have unmade (P : Config → Prop) : ¬∃ c, a.config files = .ok c ∧ P c := by
        rintro ⟨c, made', _⟩
        cases made.symm.trans made'
      refine .inr ⟨unmade _, e, run_unconfigured parsed made, ?_⟩
      rw [← trips]
      exact or_iff_left (unmade _)

end

/-- The command ends with status zero just when the job that was asked for has run to its end.
Unless it is tripped it ends with status one otherwise, after printing the failure: a wrong
argument with the usage, any other one as an error. Tripped, it ends with no status. -/
theorem run_status (d : Depot η MemoryPlate) (files : Files) {texts : List String}
    (unasked : Arguments.parse texts ≠ .error .help) :
    let ending := (run d memoryPlate files texts).1
    (ending.status? = some 0 ↔ Ran d files texts) ∧
    (ending.status? = none ↔ Escapes d files texts) ∧
    (¬Ran d files texts → ¬Escapes d files texts → ending.status? = some 1 ∧
      ∃ cause, ending = .failed cause ∧ ∀ elapsed,
        (ending.output elapsed = cause.message ++ "\n" ++ usage ∧ ending.errors = "") ∨
          (ending.output elapsed = "" ∧ ending.errors = "Error: " ++ cause.message ++ "\n")) := by
  intro ending
  have whole : ending = (run d memoryPlate files texts).1 := rfl
  obtain ⟨ran, stays, result, json, ended⟩ | ⟨idle, e, ended, escapes⟩ :=
    run_cases (d := d) unasked
  · rw [whole, ended]
    exact ⟨⟨fun _ => ran, fun _ => rfl⟩, ⟨nofun, fun escapes => absurd escapes stays⟩,
      fun idle => absurd ran idle⟩
  · rw [whole, ended]
    cases reported : isReported e with
    | false =>
      have none : (failed e).status? = none := by rw [status?, reported]; rfl
      rw [none]
      exact ⟨⟨nofun, fun ran => absurd ran idle⟩, ⟨fun _ => escapes.mpr reported, fun _ => rfl⟩,
        fun _ stays => absurd (escapes.mpr reported) stays⟩
    | true =>
      have one : (failed e).status? = some 1 := by rw [status?, reported]; rfl
      rw [one]
      refine ⟨⟨nofun, fun ran => absurd ran idle⟩, ⟨nofun, fun tripped => ?_⟩,
        fun _ _ => ⟨rfl, e, rfl, fun elapsed => ?_⟩⟩
      · rw [escapes.mp tripped] at reported
        contradiction
      · by_cases wrong : e.category = .argument
        · refine .inl ⟨if_pos wrong, if_neg fun other => other.2 wrong⟩
        · exact .inr ⟨if_neg wrong, if_pos ⟨reported, wrong⟩⟩

/-- A job on a plate that is registered ends with status zero. -/
theorem run_status_registered :
    let p : MemoryPlate := { levels := 1, format := .member .graya, channel := .member .uint8 }
    let d : Depot Unit MemoryPlate := ⟨Registry.register {} "p" (), fun _ => p⟩
    let files : Files := fun path => .error (.unreadableFile .missing path)
    (run d memoryPlate files ["memory://p", "--level=0", "--end_t=5"]).1.status? = some 0 := by
  intro p d files
  let a : Arguments := {
    overrides := { url := some "memory://p", level := some 0, last := some 5 } }
  let c : Config := {
    url := "memory://p", level := 0, last := some 5,
    jobs_pos := by decide, job_nonneg := by decide, job_lt := by decide,
    block_pos := by decide, range_ordered := by rintro _ ⟨⟩; decide }
  have parsed : Arguments.parse ["memory://p", "--level=0", "--end_t=5"] = .ok a := by
    decide +kernel
  have made : a.config files = .ok c := by decide +kernel
  have opened : d.registry.openPlate c.url = .ok () := by decide +kernel
  have ran : ∃ result, (runJobLogged memoryPlate c p).1 = .ok result := by
    have ended : (runJobLogged memoryPlate c p).1.toOption.isSome = true := by decide +kernel
    cases outcome : (runJobLogged memoryPlate c p).1 with
    | ok result => exact ⟨result, rfl⟩
    | error e =>
      rw [outcome] at ended
      cases ended
  obtain ⟨result, ran⟩ := ran
  have unasked : Arguments.parse ["memory://p", "--level=0", "--end_t=5"] ≠ .error .help := by
    rw [parsed]
    exact nofun
  exact (run_status d files unasked).1.mpr ⟨a, c, parsed, made, (), result, opened, ran⟩

/-- A host with one bracket ends the command with no status. -/
theorem unbalanced_host_escapes :
    let d : Depot Empty MemoryPlate := ⟨{}, nofun⟩
    let files : Files := fun path => .error (.unreadableFile .missing path)
    Arguments.parse ["memory://[", "--level=0", "--end_t=5"] ≠ .error .help ∧
      (run d memoryPlate files ["memory://[", "--level=0", "--end_t=5"]).1.status? = none := by
  decide +kernel

end CommandLine
end TileComposite
