import TileComposite.CommandLine.Arguments
import TileComposite.Proofs.Job.Sections

/-! Flags beside a configuration file. A flag stands for the file's value of one setting, and
the settings that come out must be consistent and complete. But those of the file must be
consistent too, although flags may replace what makes them inconsistent, and neither are refused
as wrong arguments if the integers that make them inconsistent are too long. -/
namespace TileComposite
open CommandLine

namespace CommandLine

/-- What a flag gives to the setting of a name. -/
def Overrides.flag? (o : Overrides) : String → Option Value
  | "url" => o.url.map fun t => .scalar (.text t)
  | "level" => o.level.map fun n => .scalar (.int n)
  | "start_trans_id" => o.first.map fun n => .scalar (.int n)
  | "end_trans_id" => o.last.map fun n => .scalar (.int n)
  | "function" => o.function.map fun t => .scalar (.text t)
  | "transaction_id" => o.output.map fun n => .scalar (.int n)
  | "job_id" => o.job.map fun n => .scalar (.int n)
  | "num_jobs" => o.jobs.map fun n => .scalar (.int n)
  | _ => none

/-- Each of the settings `m` is what its flag gives, or that of `s` if the flag is not given. -/
def Overrides.Merges (o : Overrides) (s m : Settings) : Prop :=
  ∀ name v, (Scalar.text name, v) ∈ m.entries →
    o.flag? name = some v ∨ o.flag? name = none ∧ (Scalar.text name, v) ∈ s.entries

theorem eq_getD_iff {α : Type} {flag : Option α} {x standard : α} :
    x = flag.getD standard ↔ flag = some x ∨ flag = none ∧ x = standard := by
  cases flag with
  | none => simp
  | some y => simp [eq_comm]

/-- The end of the range is an option itself: a flag can give it, and not take it away. -/
theorem eq_or_iff {flag last standard : Option Int} : last = flag.or standard ↔
    (∃ l, flag = some l ∧ last = some l) ∨ flag = none ∧ last = standard := by
  cases flag with
  | none => simp
  | some l => simp

/-- Settings merge with overrides in one way only, which is to apply them. -/
theorem Overrides.merges_iff {o : Overrides} {s m : Settings} :
    o.Merges s m ↔ m = o.apply s := by
  constructor
  · intro merges
    have url := merges "url" (.scalar (.text m.url)) (by simp [Settings.entries])
    have level := merges "level" (.scalar (.int m.level)) (by simp [Settings.entries])
    have first := merges "start_trans_id" (.scalar (.int m.first)) (by simp [Settings.entries])
    have last := merges "end_trans_id" _ (by simp [Settings.entries]; rfl)
    have function := merges "function" (.scalar (.text m.function)) (by simp [Settings.entries])
    have output := merges "transaction_id" (.scalar (.int m.output)) (by simp [Settings.entries])
    have job := merges "job_id" (.scalar (.int m.job)) (by simp [Settings.entries])
    have jobs := merges "num_jobs" (.scalar (.int m.jobs)) (by simp [Settings.entries])
    have block := merges "block_size" (.scalar (.int m.block)) (by simp [Settings.entries])
    simp [flag?, Settings.entries] at url level first function output job jobs block
    have last : m.last = o.last.or s.last := by
      refine eq_or_iff.mpr ?_
      cases given : m.last <;> cases standard : s.last <;>
        simp [flag?, Settings.entries, given, standard] at last ⊢
      all_goals exact last
    obtain ⟨_, _, _, _, _, _, _, _, _⟩ := m
    simp only [apply, Settings.mk.injEq]
    exact ⟨eq_getD_iff.mpr url, eq_getD_iff.mpr level, eq_getD_iff.mpr first, last,
      eq_getD_iff.mpr function, eq_getD_iff.mpr output, eq_getD_iff.mpr job,
      eq_getD_iff.mpr jobs, block⟩
  · rintro rfl name v member
    simp only [Settings.entries, List.mem_cons, Prod.mk.injEq, Scalar.text.injEq, List.not_mem_nil,
      or_false] at member ⊢
    obtain ⟨rfl, rfl⟩ | ⟨rfl, rfl⟩ | ⟨rfl, rfl⟩ | ⟨rfl, rfl⟩ | ⟨rfl, rfl⟩ | ⟨rfl, rfl⟩ |
      ⟨rfl, rfl⟩ | ⟨rfl, rfl⟩ | ⟨rfl, rfl⟩ := member
    · cases flag : o.url <;> simp [flag?, apply, flag]
    · cases flag : o.level <;> simp [flag?, apply, flag]
    · cases flag : o.first <;> simp [flag?, apply, flag]
    · cases flag : o.last <;> simp [flag?, apply, flag]
    · cases flag : o.function <;> simp [flag?, apply, flag]
    · cases flag : o.output <;> simp [flag?, apply, flag]
    · cases flag : o.job <;> simp [flag?, apply, flag]
    · cases flag : o.jobs <;> simp [flag?, apply, flag]
    · simp [flag?, apply]

namespace Arguments

/-- The settings that flags stand beside: the standard ones, or those that the section of the
configuration file gives. -/
inductive Base (a : Arguments) (files : Files) : Settings → Prop where
  | standard : a.file = none ∨ a.file = some "" → Base a files {}
  | file {path text data entries s} : a.file = some path → path ≠ "" → files path = .ok text →
      Yaml.read text = .ok data → Config.sectionOf path data = .ok entries →
      (Config.fieldsOf data entries).Gives s → Base a files s

/-- No flag has lost the value of its setting. -/
def Valued (a : Arguments) : Prop := ∀ p ∈ a.voided, p = .file

variable {a : Arguments} {files : Files} {s m : Settings} {c : Config} {e : Failure}

theorem checkVoided_cases (a : Arguments) :
    (a.Valued ∧ a.checkVoided = .ok ()) ∨
    ¬a.Valued ∧ ∃ e, a.checkVoided = .error e ∧ e.category = .argument := by
  have nothing : (Value.list []).literal?.isSome = true := by simp [Value.literal?, Value.literals?]
  unfold checkVoided
  obtain ⟨none, passes⟩ | ⟨⟨p, failure⟩, member, e, failed, fails⟩ := forM_cases
    (fun x : Parameter × (Option String → Failure) =>
      if x.1 ∈ a.voided then .error (x.2 (Value.list []).literal?) else .ok ())
    [(Parameter.level, Failure.notInteger "level"), (.first, .notInteger "start_trans_id"),
      (.last, .notInteger "end_trans_id"), (.output, .notInteger "transaction_id"),
      (.job, .notInteger "job_id"), (.jobs, .notInteger "num_jobs"),
      (.function, .notText "function")]
  · refine .inl ⟨fun p voids => ?_, passes⟩
    by_contra other
    simp at none
    cases p <;> simp_all
  · dsimp only at failed
    split at failed
    · rename_i voids
      cases failed
      refine .inr ⟨fun valued => ?_, _, fails, ?_⟩
      · obtain rfl := valued p voids
        simp at member
      · simp only [List.mem_cons, Prod.mk.injEq, List.not_mem_nil, or_false] at member
        obtain ⟨_, rfl⟩ | ⟨_, rfl⟩ | ⟨_, rfl⟩ | ⟨_, rfl⟩ | ⟨_, rfl⟩ | ⟨_, rfl⟩ | ⟨_, rfl⟩ := member
        all_goals
          refine (Failure.category_eq_kind rfl).mpr ?_
          exact (Failure.isLegible_quoting rfl rfl).mpr nothing
    · cases failed

theorem checkVoided_ok_iff : a.checkVoided = .ok () ↔ a.Valued := by
  obtain ⟨valued, passes⟩ | ⟨unvalued, e, fails, _⟩ := checkVoided_cases a
  · exact ⟨fun _ => valued, fun _ => passes⟩
  · refine ⟨fun passes => ?_, fun valued => absurd valued unvalued⟩
    cases fails.symm.trans passes

theorem checkVoided_raises (a : Arguments) :
    Raises a.checkVoided fun e => e.category = .argument := by
  intro e failed
  obtain ⟨_, passes⟩ | ⟨_, e', fails, wrong⟩ := checkVoided_cases a
  · cases failed.symm.trans passes
  · cases failed.symm.trans fails
    exact wrong

/-- The configuration with the overrides in place of what a base configuration gives. -/
def overlay (a : Arguments) (base : Config) : Except Failure Config :=
  a.checkVoided >>= fun _ => (a.overrides.apply base.toSettings).check >>= fun c =>
    c.requireComplete >>= fun _ => .ok c

theorem config_of_none (missing : a.file = none ∨ a.file = some "") :
    a.config files = a.overlay .standard := by
  obtain none | empty := missing
  · rw [config, none]
    rfl
  · rw [config, empty]
    rfl

theorem config_of_file {path : String} (given : a.file = some path) (nonempty : path ≠ "") :
    a.config files = Config.ofFile files path >>= a.overlay := by
  rw [config, given]
  split
  · contradiction
  · rename_i same
    exact absurd (Option.some.inj same) nonempty
  · rename_i same
    cases same
    rfl

theorem overlay_ok_iff {base : Config} : a.overlay base = .ok c ↔
    (a.Valued ∧ (a.overrides.apply base.toSettings).Consistent ∧
      (a.overrides.apply base.toSettings).Complete) ∧
      c.toSettings = a.overrides.apply base.toSettings := by
  constructor
  · intro made
    obtain ⟨_, valued, made⟩ := Except.ok_of_bind made
    obtain ⟨c', merged, made⟩ := Except.ok_of_bind made
    obtain ⟨last, complete, made⟩ := Except.ok_of_bind made
    cases made
    obtain ⟨merged, same⟩ := Settings.check_ok_iff.mp merged
    rw [← same] at merged ⊢
    exact ⟨⟨checkVoided_ok_iff.mp valued, merged,
      Config.requireComplete_ok_iff.mp ⟨last, complete⟩⟩, rfl⟩
  · rintro ⟨⟨valued, merged, complete⟩, same⟩
    have merged := Settings.check_ok_iff.mpr ⟨merged, same⟩
    rw [← same] at complete
    obtain ⟨last, complete⟩ := Config.requireComplete_ok_iff.mpr complete
    simp only [overlay, checkVoided_ok_iff.mpr valued, merged]
    change c.requireComplete >>= _ = _
    rw [complete]
    rfl

theorem config_eq (base : a.Base files s) : a.config files = s.check >>= a.overlay := by
  cases base with
  | standard missing => exact config_of_none missing
  | @file path text data entries _ given nonempty found read sectioned gives =>
    have loaded : Config.ofFile files path = s.check := by
      rw [Config.ofFile_eq found read sectioned, Config.ofFields,
        Settings.ofFields_ok_iff.mpr gives]
      rfl
    rw [config_of_file given nonempty, loaded]

theorem config_ok_iff (base : a.Base files s) : a.config files = .ok c ↔
    (s.Consistent ∧ a.Valued ∧ (a.overrides.apply s).Consistent ∧
      (a.overrides.apply s).Complete) ∧ c.toSettings = a.overrides.apply s := by
  rw [config_eq base]
  constructor
  · intro made
    obtain ⟨file, own, overlaid⟩ := Except.ok_of_bind made
    obtain ⟨own, rfl⟩ := Settings.check_ok_iff.mp own
    obtain ⟨rest, same⟩ := overlay_ok_iff.mp overlaid
    exact ⟨⟨own, rest⟩, same⟩
  · rintro ⟨⟨own, rest⟩, same⟩
    obtain ⟨file, own, rfl⟩ := Settings.check_consistent own
    rw [own]
    exact overlay_ok_iff.mpr ⟨rest, same⟩

/-- A wrong argument is what is wrong with merged settings, if it can be told. -/
theorem overlay_argument_iff {base : Config} :
    (∀ e, a.overlay base = .error e → e.category = .argument) ↔
      (a.Valued → (a.overrides.apply base.toSettings).Told) := by
  obtain ⟨valued, passes⟩ | ⟨unvalued, e, fails, wrong⟩ := checkVoided_cases a
  · have merged : a.overlay base = (a.overrides.apply base.toSettings).check >>= fun c =>
        c.requireComplete >>= fun _ => .ok c := by
      rw [overlay, passes]
      rfl
    rw [merged, ← Settings.check_argument_iff, forall_prop_of_true valued]
    cases checked : (a.overrides.apply base.toSettings).check with
    | error e => rfl
    | ok c =>
      refine iff_of_true ?_ nofun
      exact (c.requireComplete_raises).bind fun _ _ => nofun
  · refine iff_of_true (fun e' failed => ?_) fun valued => absurd valued unvalued
    rw [overlay, fails] at failed
    cases failed
    exact wrong

theorem config_argument_iff (base : a.Base files s) :
    (∀ e, a.config files = .error e → e.category = .argument) ↔
      s.Told ∧ (s.Consistent → a.Valued → (a.overrides.apply s).Told) := by
  rw [config_eq base]
  by_cases own : s.Consistent
  · obtain ⟨file, made, rfl⟩ := Settings.check_consistent own
    rw [made, and_iff_right own.told, forall_prop_of_true own]
    exact overlay_argument_iff
  · rw [← Settings.check_argument_iff]
    obtain ⟨e, failed, _⟩ := Settings.check_inconsistent own
    rw [failed]
    exact (and_iff_left fun consistent => absurd consistent own).symm

/-- With flags beside a file the configuration is made of the merged settings, just when they
are consistent and complete and every flag has a value, but also those of the file are
consistent. Otherwise the arguments are refused as wrong, just when it can be told what is wrong
with the settings of the file or, if these are consistent, with the merged ones. -/
theorem config_overrides (base : a.Base files s) (merges : a.overrides.Merges s m) :
    ((∃ c, a.config files = .ok c) ↔ s.Consistent ∧ a.Valued ∧ m.Consistent ∧ m.Complete) ∧
    (∀ c, a.config files = .ok c → c.toSettings = m) ∧
    ((∀ e, a.config files = .error e → e.category = .argument) ↔
      s.Told ∧ (s.Consistent → a.Valued → m.Told)) := by
  obtain rfl := Overrides.merges_iff.mp merges
  refine ⟨⟨?_, fun holds => ?_⟩, fun c made => ((config_ok_iff base).mp made).2,
    config_argument_iff base⟩
  · rintro ⟨c, made⟩
    exact ((config_ok_iff base).mp made).1
  · obtain ⟨c, _, same⟩ := Settings.check_consistent holds.2.2.1
    exact ⟨c, (config_ok_iff base).mpr ⟨holds, same⟩⟩

/-- The job is a flag's, the number of jobs is the file's, and they are in order together. -/
theorem config_overrides_jobs :
    let a : Arguments := {
      overrides := { url := some "memory://p", last := some 5, job := some 3 }
      file := some "job.yaml" }
    let files : Files := fun path =>
      if path = "job.yaml" then .ok "num_jobs: 4\n" else .error (.unreadableFile .missing path)
    ∃ c, a.config files = .ok c ∧
      c.toSettings = { url := "memory://p", last := some 5, job := 3, jobs := 4 } := by
  intro a files
  let entries : List (Yaml.Key × Yaml.Datum) :=
    [(⟨.text "num_jobs", some 1⟩, .scalar ⟨.int 4, some 2⟩)]
  let data : Yaml.Data := ⟨#[.mapping entries], .collection 0⟩
  have read : Yaml.read "num_jobs: 4\n" = .ok data := by decide +kernel
  have gives : (Config.fieldsOf data entries).Gives { jobs := 4 } :=
    Settings.ofFields_ok_iff.mp (by decide +kernel)
  have base : a.Base files { jobs := 4 } := .file rfl (by decide) rfl read rfl gives
  obtain ⟨made, same, _⟩ := config_overrides base (Overrides.merges_iff.mpr rfl)
  have own : Settings.Consistent { jobs := 4 } :=
    ⟨by decide, by decide, by decide, by decide, nofun⟩
  have merged : (a.overrides.apply { jobs := 4 }).Consistent := by
    refine ⟨by decide, by decide, by decide, by decide, ?_⟩
    rintro _ ⟨⟩
    decide
  obtain ⟨c, made⟩ := made.mpr ⟨own, nofun, merged, by decide, by decide⟩
  exact ⟨c, made, same c made⟩

/-- The file has no place for its job, until a flag gives the number of jobs: the merged
settings are in order, and are refused all the same. -/
theorem file_refused_alone :
    let a : Arguments := {
      overrides := { url := some "memory://p", last := some 5, jobs := some 5 }
      file := some "job.yaml" }
    let files : Files := fun path =>
      if path = "job.yaml" then .ok "job_id: 3\n" else .error (.unreadableFile .missing path)
    let s : Settings := { job := 3 }
    let m : Settings := { url := "memory://p", last := some 5, job := 3, jobs := 5 }
    parse ["-c", "job.yaml", "-n", "5", "--end_t", "5", "memory://p"] = .ok a ∧
      a.Base files s ∧ a.overrides.Merges s m ∧ a.Valued ∧ m.Consistent ∧ m.Complete ∧
      ∃ e, a.config files = .error e := by
  intro a files s m
  let entries : List (Yaml.Key × Yaml.Datum) :=
    [(⟨.text "job_id", some 1⟩, .scalar ⟨.int 3, some 2⟩)]
  let data : Yaml.Data := ⟨#[.mapping entries], .collection 0⟩
  have read : Yaml.read "job_id: 3\n" = .ok data := by decide +kernel
  have gives : (Config.fieldsOf data entries).Gives s :=
    Settings.ofFields_ok_iff.mp (by decide +kernel)
  refine ⟨by decide +kernel, .file rfl (by decide) rfl read rfl gives,
    Overrides.merges_iff.mpr rfl, nofun, ⟨by decide, by decide, by decide, by decide, ?_⟩,
    ⟨by decide, by decide⟩, .jobBeyondCount 3 1, by decide +kernel⟩
  rintro _ ⟨⟩
  decide

end Arguments
end CommandLine
end TileComposite
