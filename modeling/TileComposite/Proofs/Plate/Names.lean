import Mathlib.Data.List.Induction
import TileComposite.Plate.Registry
import TileComposite.Proofs.Locator.Scheme

/-! Plates by their names. The url of a name opens the plate that was registered last under that
name and has not been unregistered since, but a name loses the slashes at its ends on the way,
and what looks like a host in it must be in order. -/
namespace TileComposite

/-- What is done with the names of plates. -/
inductive Naming (η : Type) where
  | register (name : String) (plate : η)
  | unregister (name : String)

namespace Naming
variable {η : Type}

def name : Naming η → String
  | register name _ => name
  | unregister name => name

/-- The plate was registered under the name, and the name was not touched since. -/
def Stands (history : List (Naming η)) (name : String) (plate : η) : Prop :=
  ∃ before after, history = before ++ .register name plate :: after ∧
    ∀ n ∈ after, n.name ≠ name

/-- What the url of a name is due to answer: the plate that stands under exactly this name, and
a wrong argument if there is none. -/
structure Due (history : List (Naming η)) (name : String) (answer : Except Failure η) : Prop where
  found : ∀ plate, answer = .ok plate ↔ Stands history name plate
  unknown : (∀ plate, ¬Stands history name plate) →
    ∃ e, answer = .error e ∧ e.category = .argument

variable {history : List (Naming η)} {n : Naming η} {name : String} {plate : η}

theorem not_stands_nil : ¬Stands [] name plate := by
  rintro ⟨before, after, split, -⟩
  cases before <;> cases split

/-- What is done last with a name decides; anything else leaves it as it was. -/
theorem stands_concat : Stands (history ++ [n]) name plate ↔
    n = .register name plate ∨ n.name ≠ name ∧ Stands history name plate := by
  constructor
  · rintro ⟨before, after, split, untouched⟩
    rcases List.eq_nil_or_concat after with rfl | ⟨after, m, rfl⟩
    · exact .inl (List.append_inj_right' split rfl |> List.singleton_inj.mp)
    · rw [List.concat_eq_append, ← List.cons_append, ← List.append_assoc] at split
      obtain ⟨rfl, last⟩ := List.append_inj' split rfl
      obtain rfl := List.singleton_inj.mp last
      rw [List.concat_eq_append] at untouched
      exact .inr ⟨untouched n (by simp), before, after, rfl,
        fun m member => untouched m (by simp [member])⟩
  · rintro (rfl | ⟨other, before, after, rfl, untouched⟩)
    · exact ⟨history, [], rfl, nofun⟩
    · refine ⟨before, after ++ [n], by simp, fun m member => ?_⟩
      rcases List.mem_append.mp member with earlier | last
      · exact untouched m earlier
      · rwa [List.mem_singleton.mp last]

end Naming

namespace Registry
variable {η : Type} {r : Registry η} {history : List (Naming η)} {name : String} {plate : η}

def rename (r : Registry η) : Naming η → Registry η
  | .register name plate => r.register name plate
  | .unregister name => r.unregister name

/-- Once the entries of a key are gone, nothing but the look-up of that key has changed. -/
theorem lookup_filter {α : Type} (entries : List (String × α)) (gone key : String) :
    (entries.filter (·.1 ≠ gone)).lookup key = if key = gone then none else entries.lookup key := by
  induction entries with
  | nil => simp
  | cons e entries ih =>
    by_cases same : e.1 = gone
    · rw [List.filter_cons_of_neg (by simp [same]), ih, List.lookup_cons, same]
      split
      · rfl
      · rename_i different
        rw [beq_false_of_ne different]
    · rw [List.filter_cons_of_pos (by simp [same]), List.lookup_cons, List.lookup_cons, ih]
      split
      · rename_i found
        rw [if_neg (by rintro rfl; exact same (eq_of_beq found).symm)]
      · rfl

/-- An entry in place of the earlier ones of its key. -/
theorem lookup_overwrite {α : Type} (entries : List (String × α)) (key other : String) (v : α) :
    ((key, v) :: entries.filter (·.1 ≠ key)).lookup other =
      if other = key then some v else entries.lookup other := by
  rw [List.lookup_cons, lookup_filter]
  by_cases same : other = key
  · simp [same]
  · simp [same, beq_false_of_ne same]

theorem rename_backends (r : Registry η) (history : List (Naming η)) :
    (history.foldl rename r).backends = r.backends := by
  induction history generalizing r with
  | nil => rfl
  | cons n history ih =>
    rw [List.foldl_cons, ih]
    cases n <;> rfl

theorem lookup_names (fresh : r.names = []) (history : List (Naming η)) (name : String)
    (plate : η) : (history.foldl rename r).names.lookup name = some plate ↔
      Naming.Stands history name plate := by
  induction history using List.reverseRecOn with
  | nil => simp [fresh, Naming.not_stands_nil]
  | append_singleton history n ih =>
    rw [Naming.stands_concat, List.foldl_append, ← ih, List.foldl_cons, List.foldl_nil]
    cases n with
    | register other p =>
      change ((other, p) :: (history.foldl rename r).names.filter (·.1 ≠ other)).lookup name = _ ↔ _
      rw [lookup_overwrite]
      by_cases same : name = other
      · simp [same, Naming.name]
      · simp [same, Ne.symm same, Naming.name]
    | unregister other =>
      change ((history.foldl rename r).names.filter (·.1 ≠ other)).lookup name = _ ↔ _
      rw [lookup_filter]
      by_cases same : name = other
      · simp [same, Naming.name]
      · simp [same, Ne.symm same, Naming.name]

end Registry

namespace Locator

/-- A name without the slashes at its ends. -/
def bareName (name : String) : String := String.ofList (trimSlashes name.toList)

/-- What looks like a host in a name is in order. -/
def AdmitsName (name : String) : Prop := checkHost (hostIn name) = .ok ()

instance (name : String) : Decidable (AdmitsName name) := inferInstanceAs (Decidable (_ = _))

theorem plateName_memory (name : String) : plateName ("memory://" ++ name) = bareName name := by
  have characters : ("memory://" ++ name).toList =
      'm' :: 'e' :: 'm' :: 'o' :: 'r' :: 'y' :: ':' :: '/' :: '/' :: name.toList :=
    String.toList_append
  rw [plateName, characters]
  rfl

end Locator

namespace Registry
variable {η : Type} {r : Registry η} {history : List (Naming η)} {name url : String}

theorem openPlate_eq (given : url ≠ "") : r.openPlate url = Locator.scheme url >>= fun scheme =>
    match r.backends.lookup scheme with
    | none => .error (.noBackend url r.schemes)
    | some backend => r.ask url backend := by
  rw [openPlate, if_neg (by rwa [String.isEmpty_iff])]
  rfl

theorem openPlate_known {scheme : String} {b : Backend η} (given : url ≠ "")
    (read : Locator.scheme url = .ok scheme) (found : r.backends.lookup scheme = some b) :
    r.openPlate url = r.ask url b := by
  simp only [openPlate_eq given, read, bind, Except.bind, found]

theorem openPlate_unknown {scheme : String} (given : url ≠ "")
    (read : Locator.scheme url = .ok scheme) (absent : r.backends.lookup scheme = none) :
    r.openPlate url = .error (.noBackend url r.schemes) := by
  simp only [openPlate_eq given, read, bind, Except.bind, absent]

theorem ask_named {plate : η} (found : r.names.lookup (Locator.plateName url) = some plate) :
    r.ask url .memory = .ok plate := by
  simp only [ask, found]

theorem ask_unnamed (absent : r.names.lookup (Locator.plateName url) = none) :
    r.ask url .memory = .error (.noNamedPlate (Locator.plateName url)) := by
  simp only [ask, absent]

theorem openPlate_memory (builtIn : r.backends.lookup "memory" = some .memory) (name : String) :
    r.openPlate ("memory://" ++ name) = (Locator.checkHost (Locator.hostIn name)).mapError .badHost
      >>= fun _ => r.ask ("memory://" ++ name) .memory := by
  have given : "memory://" ++ name ≠ "" := by simp
  have known : Locator.IsScheme "memory".toList := by decide
  have lower : Text.lower "memory" = "memory" := Text.lower_ascii known.ascii
  have scheme := Locator.scheme_eq known name
  rw [lower] at scheme
  change Locator.scheme ("memory://" ++ name) = _ at scheme
  cases checked : Locator.checkHost (Locator.hostIn name) with
  | error fault =>
    rw [checked] at scheme
    rw [openPlate_eq given, scheme]
    rfl
  | ok =>
    rw [checked] at scheme
    exact openPlate_known given scheme builtIn

/-- A name whose host is in order is answered like the bare name. -/
theorem due_bareName {backends : List (String × Backend η)}
    (builtIn : backends.lookup "memory" = some .memory) (history : List (Naming η))
    (admitted : Locator.AdmitsName name) :
    Naming.Due history (Locator.bareName name)
      ((history.foldl rename { backends }).openPlate ("memory://" ++ name)) := by
  have builtIn : (history.foldl rename { backends }).backends.lookup "memory" = some .memory := by
    rwa [rename_backends]
  have stands := lookup_names (r := { backends }) rfl history (Locator.bareName name)
  have opened : (history.foldl rename { backends }).openPlate ("memory://" ++ name) =
      (history.foldl rename { backends }).ask ("memory://" ++ name) .memory := by
    rw [openPlate_memory builtIn, admitted]
    rfl
  rw [opened]
  cases found : (history.foldl rename { backends }).names.lookup (Locator.bareName name) with
  | some p =>
    rw [ask_named (by rwa [Locator.plateName_memory])]
    rw [found] at stands
    refine ⟨fun plate => ?_, fun none => absurd ((stands p).mp rfl) (none p)⟩
    rw [← stands plate, Except.ok.injEq, Option.some.injEq]
  | none =>
    rw [ask_unnamed (by rwa [Locator.plateName_memory])]
    rw [found] at stands
    refine ⟨fun plate => ?_, fun _ => ⟨_, rfl, rfl⟩⟩
    rw [← stands plate]
    exact ⟨nofun, nofun⟩

/-- The url of a name is answered as it is due just when what looks like a host in the name is in
order and the name stands for the same plate without the slashes at its ends. With a host in
order it is answered like the name without those slashes, and with any other host refused. -/
theorem openPlate_named {backends : List (String × Backend η)}
    (builtIn : backends.lookup "memory" = some .memory) (history : List (Naming η))
    (name : String) :
    let answer := (history.foldl rename { backends }).openPlate ("memory://" ++ name)
    (Naming.Due history name answer ↔ Locator.AdmitsName name ∧ ∀ plate,
      Naming.Stands history (Locator.bareName name) plate ↔ Naming.Stands history name plate) ∧
    (Locator.AdmitsName name → Naming.Due history (Locator.bareName name) answer) ∧
    (¬Locator.AdmitsName name → ∃ fault, answer = .error (.badHost fault)) := by
  intro answer
  have refused (other : ¬Locator.AdmitsName name) : ∃ fault, answer = .error (.badHost fault) := by
    have builtIn : (history.foldl rename { backends }).backends.lookup "memory" = some .memory := by
      rwa [rename_backends]
    have opened := openPlate_memory builtIn name
    cases checked : Locator.checkHost (Locator.hostIn name) with
    | ok => exact absurd checked other
    | error fault =>
      rw [checked] at opened
      exact ⟨fault, opened⟩
  refine ⟨⟨fun due => ?_, fun ⟨admitted, same⟩ => ?_⟩, due_bareName builtIn history, refused⟩
  · have admitted : Locator.AdmitsName name := by
      by_contra other
      obtain ⟨fault, failed⟩ := refused other
      -- A refusal is no plate, so that none stands, and it is not for a wrong argument.
      have none (plate : η) (stands : Naming.Stands history name plate) : False := by
        cases failed.symm.trans ((due.found plate).mpr stands)
      obtain ⟨e, failed', wrong⟩ := due.unknown none
      cases failed.symm.trans failed'
      cases wrong
    have bare := due_bareName builtIn history admitted
    exact ⟨admitted, fun plate => (bare.found plate).symm.trans (due.found plate)⟩
  · have bare := due_bareName builtIn history admitted
    exact ⟨fun plate => (bare.found plate).trans (same plate),
      fun none => bare.unknown fun plate stands => none plate ((same plate).mp stands)⟩

/-- A name that was registered twice, beside one that is registered no more. -/
theorem openPlate_named_again :
    let backends : List (String × Backend Nat) := [("memory", .memory)]
    let history : List (Naming Nat) :=
      [.register "north" 0, .register "south" 1, .register "north" 2, .unregister "south"]
    backends.lookup "memory" = some .memory ∧
      (history.foldl rename { backends }).openPlate "memory://north" = .ok 2 := by
  intro backends history
  have builtIn : backends.lookup "memory" = some .memory := rfl
  have due := (openPlate_named builtIn history "north").1.mpr
    ⟨by decide +kernel, fun _ => Iff.rfl⟩
  refine ⟨builtIn, (due.found 2).mpr ⟨[.register "north" 0, .register "south" 1],
    [.unregister "south"], rfl, ?_⟩⟩
  decide

/-- A plate is registered under a name that ends in a slash, and the url of the name opens another
plate. -/
theorem slashed_name_misled :
    let history : List (Naming Nat) := [.register "a" 0, .register "a/" 1]
    let answer := (history.foldl rename {}).openPlate "memory://a/"
    answer = .ok 0 ∧ Naming.Stands history "a/" 1 ∧ ¬Naming.Due history "a/" answer := by
  intro history answer
  have opened : answer = .ok 0 := by decide +kernel
  have stands : Naming.Stands history "a/" 1 := ⟨[.register "a" 0], [], rfl, nofun⟩
  refine ⟨opened, stands, fun due => ?_⟩
  cases opened.symm.trans ((due.found 1).mpr stands)

end Registry
end TileComposite
