import TileComposite.Proofs.Job.Settings

/-! Configurations of mappings from text names. Such a mapping is accepted just when its names are
those of settings, its values have their types, and the settings fit together once the standard
ones are filled in; every other mapping is refused as a wrong argument. The mapping that a
configuration is written as is read back as the configuration. A refusal that would quote an
integer which is too long is not one of a wrong argument. -/
namespace TileComposite

open Text (Writable)

/-! ### Values under text names -/

section
variable {entries : List (Scalar × Value)} {name : String} {v : Value}

/-- All names of the entries are texts. -/
def TextNamed (entries : List (Scalar × Value)) : Prop := ∀ e ∈ entries, ∃ t, e.1 = .text t

theorem Scalar.sameKey_text (s t : String) : sameKey (.text s) (.text t) = (s == t) := by
  change (Scalar.text s == Scalar.text t) = (s == t)
  rw [Bool.eq_iff_iff, beq_iff_eq, beq_iff_eq, Scalar.text.injEq]

theorem lookup?_cons_text (t name : String) (v : Value) (entries : List (Scalar × Value)) :
    lookup? ((.text t, v) :: entries) (.text name) =
      if t = name then some v else lookup? entries (.text name) := by
  rw [lookup?, List.find?_cons, Scalar.sameKey_text]
  by_cases same : t = name
  · rw [if_pos same, beq_iff_eq.mpr same]
    rfl
  · rw [if_neg same, beq_false_of_ne same]
    rfl

theorem lookup?_eq_none_iff (textNamed : TextNamed entries) :
    lookup? entries (.text name) = none ↔ Scalar.text name ∉ entries.map (·.1) := by
  induction entries with
  | nil => simp [lookup?]
  | cons e rest ih =>
    obtain ⟨key, v⟩ := e
    obtain ⟨⟨t, rfl⟩, restNamed⟩ := List.forall_mem_cons.mp textNamed
    rw [lookup?_cons_text, List.map_cons, List.mem_cons]
    by_cases same : t = name
    · simp [same]
    · rw [if_neg same, ih restNamed]
      simp [Ne.symm same]

/-- Of distinct names each has the value of its only entry. -/
theorem lookup?_eq_some_iff (textNamed : TextNamed entries) (distinct : (entries.map (·.1)).Nodup) :
    lookup? entries (.text name) = some v ↔ (.text name, v) ∈ entries := by
  induction entries with
  | nil => simp [lookup?]
  | cons e rest ih =>
    obtain ⟨key, w⟩ := e
    obtain ⟨⟨t, rfl⟩, restNamed⟩ := List.forall_mem_cons.mp textNamed
    obtain ⟨fresh, distinct⟩ := List.nodup_cons.mp distinct
    rw [lookup?_cons_text, List.mem_cons]
    by_cases same : t = name
    · subst same
      have absent : (Scalar.text t, v) ∉ rest := fun member =>
        fresh (List.mem_map.mpr ⟨_, member, rfl⟩)
      simp [absent, eq_comm]
    · rw [if_neg same, ih restNamed distinct]
      simp [Ne.symm same]

end

namespace Settings
variable {s : Settings} {entries : List (Scalar × Value)} {name : String} {v : Value}

theorem map_fst_entries (s : Settings) : s.entries.map (·.1) = keys.map Scalar.text := rfl

theorem textNamed_entries (s : Settings) : TextNamed s.entries := by
  intro e member
  obtain ⟨name, _, same⟩ := List.mem_map.mp (s.map_fst_entries ▸ List.mem_map_of_mem member)
  exact ⟨name, same.symm⟩

theorem lookup?_entries :
    lookup? s.entries (.text name) = some v ↔ (.text name, v) ∈ s.entries :=
  lookup?_eq_some_iff s.textNamed_entries (by rw [map_fst_entries]; decide)

theorem lookup?_entries_eq_none : lookup? s.entries (.text name) = none ↔ name ∉ keys := by
  rw [lookup?_eq_none_iff s.textNamed_entries, map_fst_entries, List.mem_map]
  simp

/-- The settings agree with the data: each name has the value that the data gives it, or the
standard one. -/
def Agrees (s : Settings) (entries : List (Scalar × Value)) : Prop :=
  ∀ name, lookup? s.entries (.text name) =
    (lookup? entries (.text name)).or (lookup? ({} : Settings).entries (.text name))

/-- Every name is that of a setting, and every value has the type of its setting. -/
structure Typed (entries : List (Scalar × Value)) : Prop where
  known : ∀ e ∈ entries, ∃ name ∈ keys, e.1 = .text name
  integers : ∀ name ∈ ["level", "start_trans_id", "transaction_id", "job_id", "num_jobs",
    "block_size"], ∀ v, lookup? entries (.text name) = some v → ∃ n, v = .scalar (.int n)
  last : ∀ v, lookup? entries (.text "end_trans_id") = some v →
    v = .scalar .null ∨ ∃ n, v = .scalar (.int n)
  texts : ∀ name ∈ ["url", "function"], ∀ v, lookup? entries (.text name) = some v →
    ∃ t, v = .scalar (.text t)

theorem gives_iff_agrees (textNamed : TextNamed entries) :
    (Fields.ofEntries entries).Gives s ↔ s.Agrees entries := by
  constructor
  · rintro ⟨known, given⟩ name
    cases setting : lookup? s.entries (.text name) with
    | some v =>
      obtain value | ⟨missing, standard⟩ := given name v (lookup?_entries.mp setting)
      · change lookup? entries (.text name) = some v at value
        rw [value]
        rfl
      · change lookup? entries (.text name) = none at missing
        rw [missing, lookup?_entries.mpr standard]
        rfl
    | none =>
      have unknown := lookup?_entries_eq_none.mp setting
      have missing : lookup? entries (.text name) = none := by
        rw [lookup?_eq_none_iff textNamed]
        intro member
        obtain ⟨key, some_key, same⟩ := known _ member
        rw [Scalar.sameKey_text, beq_iff_eq] at same
        exact unknown (same ▸ some_key)
      rw [missing, lookup?_entries_eq_none.mpr unknown]
      rfl
  · intro agrees
    refine ⟨fun key member => ?_, fun name v member => ?_⟩
    · obtain ⟨⟨key, w⟩, inside, rfl⟩ := List.mem_map.mp member
      obtain ⟨t, rfl⟩ := textNamed _ inside
      refine ⟨t, ?_, by rw [Scalar.sameKey_text, beq_self_eq_true]⟩
      by_contra unknown
      have given : lookup? entries (.text t) ≠ none := by
        rw [Ne, lookup?_eq_none_iff textNamed, not_not]
        exact member
      have agreed := agrees t
      rw [lookup?_entries_eq_none.mpr unknown, eq_comm, Option.or_eq_none_iff] at agreed
      exact given agreed.1
    · have agreed := agrees name
      rw [lookup?_entries.mpr member] at agreed
      change lookup? entries (.text name) = some v ∨ lookup? entries (.text name) = none ∧ _
      cases value : lookup? entries (.text name) with
      | some w =>
        rw [value] at agreed
        exact .inl agreed.symm
      | none =>
        rw [value] at agreed
        exact .inr ⟨rfl, lookup?_entries.mp agreed.symm⟩

/-- Data that settings agree with has known names, and values of the right types. -/
theorem Agrees.typed (textNamed : TextNamed entries) (agrees : s.Agrees entries) :
    Typed entries := by
  have held {name : String} {v : Value} (given : lookup? entries (.text name) = some v) :
      (Scalar.text name, v) ∈ s.entries := by
    have agreed := agrees name
    rw [given] at agreed
    exact lookup?_entries.mp agreed
  refine ⟨fun e member => ?_, fun name member v given => ?_, fun v given => ?_,
    fun name member v given => ?_⟩
  · obtain ⟨name, some_key, same⟩ :=
      ((gives_iff_agrees textNamed).mpr agrees).known e.1 (List.mem_map.mpr ⟨e, member, rfl⟩)
    obtain ⟨t, text⟩ := textNamed e member
    rw [text, Scalar.sameKey_text, beq_iff_eq] at same
    exact ⟨name, some_key, same ▸ text⟩
  · have inside := held given
    simp only [List.mem_cons, List.not_mem_nil, or_false] at member
    obtain rfl | rfl | rfl | rfl | rfl | rfl := member <;> simp [Settings.entries] at inside <;>
      exact ⟨_, inside⟩
  · have inside := held given
    cases last : s.last with
    | none =>
      simp [Settings.entries, last] at inside
      exact .inl inside
    | some l =>
      simp [Settings.entries, last] at inside
      exact .inr ⟨l, inside⟩
  · have inside := held given
    simp only [List.mem_cons, List.not_mem_nil, or_false] at member
    obtain rfl | rfl := member <;> simp [Settings.entries] at inside <;> exact ⟨_, inside⟩

/-! ### Filling in the standard settings -/

namespace Fields
variable {f : Fields} {key : String}

theorem exists_int (default : Int)
    (typed : ∀ v, f.value? key = some v → ∃ n, v = .scalar (.int n)) :
    ∃ n, f.int key default = .ok n := by
  cases value : f.value? key with
  | none => exact ⟨default, int_ok_iff.mpr (.inr ⟨value, rfl⟩)⟩
  | some v =>
    obtain ⟨n, rfl⟩ := typed v value
    exact ⟨n, int_ok_iff.mpr (.inl value)⟩

theorem exists_optionalInt (typed : ∀ v, f.value? key = some v →
    v = .scalar .null ∨ ∃ n, v = .scalar (.int n)) : ∃ o, f.optionalInt key = .ok o := by
  cases value : f.value? key with
  | none => exact ⟨none, optionalInt_ok_iff.mpr (.inr ⟨value, rfl⟩)⟩
  | some v =>
    obtain rfl | ⟨n, rfl⟩ := typed v value
    · exact ⟨none, optionalInt_ok_iff.mpr (.inl value)⟩
    · exact ⟨some n, optionalInt_ok_iff.mpr (.inl value)⟩

theorem exists_text (default : String)
    (typed : ∀ v, f.value? key = some v → ∃ t, v = .scalar (.text t)) :
    ∃ t, f.text key default = .ok t := by
  cases value : f.value? key with
  | none => exact ⟨default, text_ok_iff.mpr (.inr ⟨value, rfl⟩)⟩
  | some v =>
    obtain ⟨t, rfl⟩ := typed v value
    exact ⟨t, text_ok_iff.mpr (.inl value)⟩

end Fields

/-- Data with known names and values of the right types can be filled in. -/
theorem Typed.agrees (textNamed : TextNamed entries) (typed : Typed entries) :
    ∃ s : Settings, s.Agrees entries := by
  let f := Fields.ofEntries entries
  have known : f.refuseUnknown = .ok () := by
    have empty : f.unknown = [] := Fields.unknown_eq_nil.mpr fun k member => by
      obtain ⟨e, inside, rfl⟩ := List.mem_map.mp member
      obtain ⟨name, some_key, text⟩ := typed.known e inside
      exact ⟨name, some_key, by rw [text, Scalar.sameKey_text, beq_self_eq_true]⟩
    rw [Fields.refuseUnknown, empty]
  have integer (name : String) (default : Int) (member : name ∈ ["level", "start_trans_id",
      "transaction_id", "job_id", "num_jobs", "block_size"]) : ∃ n, f.int name default = .ok n :=
    Fields.exists_int default (typed.integers name member)
  have text (name default : String) (member : name ∈ ["url", "function"]) :
      ∃ t, f.text name default = .ok t :=
    Fields.exists_text default (typed.texts name member)
  obtain ⟨level, level_eq⟩ := integer "level" (-1) (by decide)
  obtain ⟨first, first_eq⟩ := integer "start_trans_id" 0 (by decide)
  obtain ⟨last, last_eq⟩ := Fields.exists_optionalInt (f := f) typed.last
  obtain ⟨output, output_eq⟩ := integer "transaction_id" 2000 (by decide)
  obtain ⟨job, job_eq⟩ := integer "job_id" 0 (by decide)
  obtain ⟨jobs, jobs_eq⟩ := integer "num_jobs" 1 (by decide)
  obtain ⟨block, block_eq⟩ := integer "block_size" 4 (by decide)
  obtain ⟨url, url_eq⟩ := text "url" "" (by decide)
  obtain ⟨function, function_eq⟩ := text "function" "WeightedAvg" (by decide)
  have read : ofFields f = .ok { url, level, first, last, function, output, job, jobs, block } := by
    simp only [ofFields, known, level_eq, first_eq, last_eq, output_eq, job_eq, jobs_eq, block_eq,
      url_eq, function_eq]
    rfl
  exact ⟨_, (gives_iff_agrees textNamed).mp (ofFields_ok_iff.mp read)⟩

/-- Settings that data gives can be told if the data can be quoted. -/
theorem told_of_quotable {f : Fields} (gives : f.Gives s) (quotable : f.Quotable) : s.Told := by
  have standard : ∀ e ∈ ({} : Settings).entries, e.2.literal?.isSome = true := by decide +kernel
  have written (name : String) (n : Int)
      (member : (Scalar.text name, .scalar (.int n)) ∈ s.entries) : Writable n := by
    obtain given | ⟨_, default⟩ := gives.given name _ member
    · exact (Text.isSome_decimal? n).mp (quotable.values name _ given)
    · exact (Text.isSome_decimal? n).mp (standard _ default)
  have jobs := written "num_jobs" s.jobs (by simp [Settings.entries])
  have job := written "job_id" s.job (by simp [Settings.entries])
  have block := written "block_size" s.block (by simp [Settings.entries])
  have first := written "start_trans_id" s.first (by simp [Settings.entries])
  refine ⟨fun _ => jobs, fun some_jobs _ => ⟨?_, job⟩, fun _ _ _ => block,
    fun _ _ _ l given _ => ⟨?_, first⟩⟩
  · unfold Writable at jobs ⊢
    omega
  · refine written "end_trans_id" l ?_
    rw [Option.mem_def] at given
    simp [Settings.entries, given]

end Settings

namespace Config
variable {c : Config} {f : Settings.Fields} {entries : List (Scalar × Value)}

theorem consistent (c : Config) : c.toSettings.Consistent :=
  ⟨c.jobs_pos, c.job_nonneg, c.job_lt, c.block_pos, c.range_ordered⟩

theorem ofFields_ok_iff : ofFields f = .ok c ↔ f.Gives c.toSettings := by
  constructor
  · intro made
    obtain ⟨s, given, checked⟩ := Except.ok_of_bind made
    obtain ⟨_, rfl⟩ := Settings.check_ok_iff.mp checked
    exact Settings.ofFields_ok_iff.mp given
  · intro gives
    rw [ofFields, Settings.ofFields_ok_iff.mpr gives]
    exact Settings.check_ok_iff.mpr ⟨c.consistent, rfl⟩

/-- Text names can be sorted, so that data with no other names is refused as a wrong argument
only. -/
theorem ofFields_raises (textNames : ∀ k ∈ f.names, ∃ t, k = .text t) :
    Raises (ofFields f) f.Refuses := by
  refine Raises.bind (fun e failed => ?_) fun s read e failed => ?_
  · obtain wrong | ⟨unordered, _⟩ := Settings.ofFields_raises f e failed
    · exact wrong
    · refine absurd (List.pairwise_of_forall_mem_list fun x inLeft y inRight => ?_) unordered
      obtain ⟨s, rfl⟩ := textNames x (List.mem_filter.mp inLeft |>.1)
      obtain ⟨t, rfl⟩ := textNames y (List.mem_filter.mp inRight |>.1)
      exact ⟨nofun, rfl⟩
  · obtain ⟨wrong, _, told⟩ := s.check_raises e failed
    refine ⟨wrong, fun quotable => told.mpr ?_⟩
    exact Settings.told_of_quotable (Settings.gives_of_ofFields read) quotable

end Config
end TileComposite
