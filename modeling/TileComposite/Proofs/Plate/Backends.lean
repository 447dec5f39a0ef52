import TileComposite.Proofs.Plate.Names

/-! Backends by their schemes. A locator is opened by the backend that was registered last for
the scheme before `://`, in any case, if that is a scheme as locators have it. A backend can be
registered for any other text, and is then listed but never asked. -/
namespace TileComposite.Registry
variable {η : Type} {r : Registry η} {calls : List (String × Backend η)} {s url : String}
  {b : Backend η}

/-- The registry after backends have been added one after another. -/
def addBackends (r : Registry η) (calls : List (String × Backend η)) : Registry η :=
  calls.foldl (fun r call => r.addBackend call.1 call.2) r

/-- The backend was registered for the scheme in some case, and none after it. -/
def Latest (calls : List (String × Backend η)) (scheme : String) (b : Backend η) : Prop :=
  ∃ before same after, calls = before ++ (same, b) :: after ∧
    Text.lower same = Text.lower scheme ∧ ∀ call ∈ after, Text.lower call.1 ≠ Text.lower scheme

theorem exists_latest (registered : ∃ call ∈ calls, Text.lower call.1 = Text.lower s) :
    ∃ b, Latest calls s b := by
  induction calls using List.reverseRecOn with
  | nil => simp at registered
  | append_singleton calls call ih =>
    by_cases last : Text.lower call.1 = Text.lower s
    · exact ⟨call.2, calls, call.1, [], rfl, last, nofun⟩
    · obtain ⟨other, member, same⟩ := registered
      have earlier : other ∈ calls := by
        rcases List.mem_append.mp member with earlier | here
        · exact earlier
        · exact absurd (List.mem_singleton.mp here ▸ same) last
      obtain ⟨b, before, first, after, rfl, same, none⟩ := ih ⟨other, earlier, same⟩
      refine ⟨b, before, first, after ++ [call], by simp, same, fun c member => ?_⟩
      rcases List.mem_append.mp member with between | here
      · exact none c between
      · rwa [List.mem_singleton.mp here]

theorem lookup_addBackend (r : Registry η) (scheme key : String) (b : Backend η) :
    (r.addBackend scheme b).backends.lookup key =
      if key = Text.lower scheme then some b else r.backends.lookup key :=
  lookup_overwrite r.backends (Text.lower scheme) key b

theorem lookup_untouched {key : String} (none : ∀ call ∈ calls, Text.lower call.1 ≠ key) :
    (r.addBackends calls).backends.lookup key = r.backends.lookup key := by
  induction calls generalizing r with
  | nil => rfl
  | cons call calls ih =>
    have other := none call List.mem_cons_self
    have later := ih (r := r.addBackend call.1 call.2) fun c member =>
      none c (List.mem_cons_of_mem call member)
    rw [lookup_addBackend, if_neg (Ne.symm other)] at later
    exact later

theorem Latest.lookup (latest : Latest calls s b) (r : Registry η) :
    (r.addBackends calls).backends.lookup (Text.lower s) = some b := by
  obtain ⟨before, same, after, rfl, lower, none⟩ := latest
  have later := lookup_untouched (r := (r.addBackends before).addBackend same b) none
  rw [lookup_addBackend, if_pos lower.symm] at later
  rw [addBackends, List.foldl_append, List.foldl_cons]
  exact later

theorem mem_schemes {key : String} (found : r.backends.lookup key = some b) : key ∈ r.schemes := by
  obtain ⟨before, after, entries, -⟩ := List.lookup_eq_some_iff.mp found
  rw [schemes, List.mem_mergeSort, entries]
  simp

/-- The locator is refused, or whatever it opens is not the backend of the scheme. -/
def Astray (r : Registry η) (s url : String) : Prop :=
  (∃ fault, r.openPlate url = .error (.badHost fault)) ∨
  ∃ key, key ≠ Text.lower s ∧ r.openPlate url =
    match r.backends.lookup key with
    | none => .error (.noBackend url r.schemes)
    | some other => r.ask url other

theorem astray_of_not_scheme (r : Registry η) (nonempty : s ≠ "")
    (unknown : ¬Locator.IsScheme s.toList) (rest : String) :
    r.Astray s (s ++ "://" ++ rest) := by
  have given : s ++ "://" ++ rest ≠ "" := by simp
  have other := Locator.scheme_ne nonempty unknown rest
  unfold Astray
  rw [openPlate_eq given]
  cases found : Locator.scheme (s ++ "://" ++ rest) with
  | error e =>
    obtain ⟨fault, rfl⟩ := Locator.scheme_raises _ e found
    exact .inl ⟨fault, rfl⟩
  | ok key =>
    rw [found] at other
    exact .inr ⟨key, fun same => other (congrArg _ same), rfl⟩

/-- Registered alone for what is no scheme, a backend is not asked for any locator. -/
theorem alone_unasked (plate : η) (nonempty : s ≠ "") (unknown : ¬Locator.IsScheme s.toList)
    (rest : String) :
    ∃ e, (addBackend {} s (.fixed plate)).openPlate (s ++ "://" ++ rest) = .error e := by
  obtain ⟨fault, refused⟩ | ⟨key, other, opened⟩ :=
    astray_of_not_scheme (addBackend {} s (.fixed plate)) nonempty unknown rest
  · exact ⟨_, refused⟩
  · rw [opened, lookup_addBackend, if_neg other]
    by_cases memory : key = "memory"
    · subst memory
      exact ⟨_, rfl⟩
    · have none : (Registry.backends ({} : Registry η)).lookup key = none := by
        simpa using memory
      rw [none]
      exact ⟨_, rfl⟩

/-- A scheme that backends were registered for has a latest one, and its locators ask that one if
it is a scheme as locators have it. Otherwise it is listed, but its locators go astray, and a
backend that was registered for it alone is never asked. -/
theorem openPlate_registered (r : Registry η) (nonempty : s ≠ "")
    (registered : ∃ call ∈ calls, Text.lower call.1 = Text.lower s) {rest : String}
    (plain : ∀ c ∈ rest.toList, c.isAlphanum = true) :
    let r' := r.addBackends calls
    let url := s ++ "://" ++ rest
    ∃ b, Latest calls s b ∧
      (Locator.IsScheme s.toList → r'.openPlate url = r'.ask url b) ∧
      (¬Locator.IsScheme s.toList → Text.lower s ∈ r'.schemes ∧ r'.Astray s url ∧
        ∀ plate : η, ∃ e, (addBackend {} s (.fixed plate)).openPlate url = .error e) := by
  intro r' url
  obtain ⟨b, latest⟩ := exists_latest registered
  have found : r'.backends.lookup (Text.lower s) = some b := latest.lookup r
  refine ⟨b, latest, fun known => ?_, fun unknown => ?_⟩
  · have given : url ≠ "" := by simp [url]
    have scheme : Locator.scheme url = .ok (Text.lower s) := by
      rw [Locator.scheme_eq known, Locator.checkHost_hostIn plain]
      rfl
    exact openPlate_known given scheme found
  · exact ⟨mem_schemes found, astray_of_not_scheme r' nonempty unknown rest,
      fun plate => alone_unasked plate nonempty unknown rest⟩

/-- A backend that was registered again, in another case, and is handed the whole locator. -/
theorem openPlate_registered_again :
    let calls : List (String × Backend String) :=
      [("S3", .fixed "old"), ("gcs", .fixed "other"), ("s3", .factory fun url => "at " ++ url)]
    "S3" ≠ "" ∧ (∃ call ∈ calls, Text.lower call.1 = Text.lower "S3") ∧
      (∀ c ∈ "bucket7".toList, c.isAlphanum = true) ∧
      (addBackends {} calls).openPlate "S3://bucket7" = .ok "at S3://bucket7" := by
  intro calls
  have registered : ∃ call ∈ calls, Text.lower call.1 = Text.lower "S3" :=
    ⟨("S3", .fixed "old"), List.mem_cons_self, rfl⟩
  have plain : ∀ c ∈ "bucket7".toList, c.isAlphanum = true := List.all_eq_true.mp (by decide)
  obtain ⟨b, latest, asked, -⟩ := openPlate_registered {} (by decide) registered plain
  have upper : Locator.IsScheme "S3".toList := by decide
  have lower : Locator.IsScheme "s3".toList := by decide
  have same : Text.lower "s3" = Text.lower "S3" := by
    rw [Text.lower_ascii lower.ascii, Text.lower_ascii upper.ascii]
    rfl
  have newest : Latest calls "S3" (.factory fun url => "at " ++ url) :=
    ⟨[("S3", .fixed "old"), ("gcs", .fixed "other")], "s3", [], rfl, same, nofun⟩
  obtain rfl := Option.some.inj ((latest.lookup {}).symm.trans (newest.lookup {}))
  exact ⟨by decide, registered, plain, asked upper⟩

/-- A scheme with an underscore is listed among those that have a backend, in the message that
says that it has none. -/
theorem underscored_scheme_lost :
    let r := addBackend {} "my_store" (.fixed 0)
    r.openPlate "my_store://p" = .error (.noBackend "my_store://p" r.schemes) ∧
      "my_store" ∈ r.schemes := by
  intro r
  have scheme : Locator.scheme "my_store://p" = .ok "" := by decide +kernel
  have lower : Text.lower "my_store" = "my_store" := by decide +kernel
  have found : r.backends.lookup "my_store" = some (.fixed 0) := by
    rw [lookup_addBackend, if_pos lower.symm]
  have absent : r.backends.lookup "" = none := by
    rw [lookup_addBackend, lower]
    rfl
  exact ⟨openPlate_unknown (by decide) scheme absent, mem_schemes found⟩

end TileComposite.Registry
