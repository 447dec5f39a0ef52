import Mathlib.Control.Monad.Basic
import TileComposite.Job.File
import TileComposite.Proofs.Job.Mappings

/-! Settings sections of configuration files. A file must hold a mapping or nothing, and so must
its section; the mapping of the section makes the configuration. But a document of another kind
that counts as nothing, such as an empty list, is taken for an empty mapping too, although a
section of this kind is refused. A refusal quotes what it refuses, which integers can be too long
for. -/
namespace TileComposite

open Text (Writable)

/-! ### Sections of values -/

namespace Value

/-- The settings that stand in a mapping as its section: null has none. -/
def sectionIn? (whole : List (Scalar × Value)) : Value → Option (List (Scalar × Value))
  | scalar .null => some []
  | mapping entries => some entries
  -- The mapping is its own section.
  | cycle true => some whole
  | _ => none

/-- The settings of a value: what stands under `reduce` if the value has that name, else the
value. -/
def settings? : Value → Option (List (Scalar × Value))
  | scalar .null => some []
  | mapping entries =>
    match lookup? entries (.text "reduce") with
    | none => some entries
    | some v => v.sectionIn? entries
  | _ => none

/-- The value counts as nothing, and is neither null nor a mapping. -/
def Blank (v : Value) : Prop :=
  v.isVoid = true ∧ v ≠ scalar .null ∧ ∀ entries, v ≠ mapping entries

theorem Blank.settings?_eq {v : Value} (blank : v.Blank) : v.settings? = none := by
  obtain ⟨_, some_value, other⟩ := blank
  unfold settings?
  split
  · exact absurd rfl some_value
  · exact absurd rfl (other _)
  · rfl

/-- The values are the same scalar, or neither is one. -/
def Alike (v w : Value) : Prop := ∀ s, v = scalar s ↔ w = scalar s

/-- What is made of a value is the configuration of its settings. Without one the value is
refused as a wrong argument. -/
structure Sectioned (v : Value) (made : Except Failure Config) : Prop where
  made_iff : ∀ c, made = .ok c ↔
    ∃ entries, v.settings? = some entries ∧ Config.ofEntries entries = .ok c
  refused : Raises made fun e => e.category = .argument

end Value

namespace Settings

theorem scalar_of_mem_entries {s : Settings} {name : Scalar} {v : Value}
    (member : (name, v) ∈ s.entries) : ∃ x, v = .scalar x := by
  simp only [entries, List.mem_cons, Prod.mk.injEq, List.not_mem_nil, or_false] at member
  obtain ⟨-, rfl⟩ | ⟨-, rfl⟩ | ⟨-, rfl⟩ | ⟨-, rfl⟩ | ⟨-, rfl⟩ | ⟨-, rfl⟩ | ⟨-, rfl⟩ | ⟨-, rfl⟩ |
    ⟨-, rfl⟩ := member
  case inr.inr.inr.inl => cases s.last <;> exact ⟨_, rfl⟩
  all_goals exact ⟨_, rfl⟩

namespace Fields
variable {f g : Fields} {s : Settings}

/-- The data has the same names, and under each name the same scalar or none. -/
structure Alike (f g : Fields) : Prop where
  names_eq : f.names = g.names
  values : ∀ name, Option.Rel Value.Alike (f.value? name) (g.value? name)

/-- Settings are scalars, so that other values need not be the same. -/
theorem Alike.gives_iff (alike : f.Alike g) : f.Gives s ↔ g.Gives s := by
  have known : (∀ k ∈ f.names, ∃ name ∈ keys, Scalar.sameKey (.text name) k = true) ↔
      ∀ k ∈ g.names, ∃ name ∈ keys, Scalar.sameKey (.text name) k = true := by
    rw [alike.names_eq]
  have given (name : String) (v : Value) (member : (Scalar.text name, v) ∈ s.entries) :
      (f.value? name = some v ↔ g.value? name = some v) ∧
        (f.value? name = none ↔ g.value? name = none) := by
    obtain ⟨x, rfl⟩ := scalar_of_mem_entries member
    have values := alike.values name
    generalize f.value? name = value, g.value? name = value' at values ⊢
    cases values with
    | some same => simpa using same x
    | none => simp
  constructor
  · intro gives
    refine ⟨known.mp gives.known, fun name v member => ?_⟩
    obtain ⟨value, missing⟩ := given name v member
    rw [← value, ← missing]
    exact gives.given name v member
  · intro gives
    refine ⟨known.mpr gives.known, fun name v member => ?_⟩
    obtain ⟨value, missing⟩ := given name v member
    rw [value, missing]
    exact gives.given name v member

end Fields
end Settings

/-! ### Values of data -/

namespace Yaml

/-- The value of a collection, of which the values of its data are known. -/
def Collection.value (of : Datum → Value) : Collection → Value
  | .list items => .list (items.map of)
  | .mapping entries => .mapping (entries.map fun e => (e.1.scalar, of e.2))
  | .set items => .set (items.map (·.scalar))
  | .pairs items => .pairs (items.map fun e => (of e.1, of e.2))

/-- Everything that stands in a collection. -/
def Collection.held : Collection → List Datum
  | .list items => items
  | .mapping entries => entries.flatMap fun e => [.scalar e.1, e.2]
  | .set items => items.map .scalar
  | .pairs items => items.flatMap fun e => [e.1, e.2]

namespace Data
variable {data : Data} {id : CollectionId} {entries : List (Key × Datum)}

theorem unfold_scalar (data : Data) (fuel : Nat) (inside : List CollectionId) (key : Key) :
    data.unfold fuel inside (.scalar key) = .scalar key.scalar := by
  cases fuel <;> rfl

theorem unfold_outside (data : Data) (fuel : Nat) {inside : List CollectionId}
    (outside : id ∉ inside) : data.unfold (fuel + 1) inside (.collection id) =
      (data.collection id).value (data.unfold fuel (id :: inside)) := by
  have closed : inside.contains id = false := by simpa using outside
  rw [unfold, closed]
  cases data.collection id <;> rfl

theorem unfold_mapping (data : Data) (fuel : Nat) {inside : List CollectionId}
    (opened : id ∈ inside) (mapping : data.collection id = .mapping entries) :
    data.unfold (fuel + 1) inside (.collection id) = .cycle true := by
  have contained : inside.contains id = true := by simpa using opened
  rw [unfold, contained, mapping]

theorem unfold_collection_ne_scalar (data : Data) (fuel : Nat) (inside : List CollectionId)
    (id : CollectionId) (s : Scalar) : data.unfold fuel inside (.collection id) ≠ .scalar s := by
  cases fuel with
  | zero => nofun
  | succ fuel =>
    rw [unfold]
    split <;> nofun

/-- Scalars do not depend on how far collections are unfolded. -/
theorem unfold_alike (data : Data) (fuel fuel' : Nat) (inside inside' : List CollectionId)
    (d : Datum) : (data.unfold fuel inside d).Alike (data.unfold fuel' inside' d) := by
  intro s
  cases d with
  | scalar key => rw [unfold_scalar, unfold_scalar]
  | collection id =>
    exact iff_of_false (data.unfold_collection_ne_scalar _ _ _ s)
      (data.unfold_collection_ne_scalar _ _ _ s)

/-- A datum as it is seen from inside of a collection. -/
def seenFrom (data : Data) (id : CollectionId) (d : Datum) : Value :=
  data.unfold data.collections.size [id] d

theorem value_collection (data : Data) (id : CollectionId) :
    data.value (.collection id) = (data.collection id).value (data.seenFrom id) :=
  data.unfold_outside _ (List.not_mem_nil)

theorem isVoid_value (data : Data) (d : Datum) : (data.value d).isVoid = data.isVoid d := by
  cases d with
  | scalar key => rfl
  | collection id =>
    rw [value_collection, isVoid]
    cases data.collection id <;> simp [Collection.value, Value.isVoid]

/-- Every integer in the collections can be written. -/
def Written (data : Data) : Prop :=
  ∀ c ∈ data.collections, ∀ n origin, Datum.scalar ⟨.int n, origin⟩ ∈ c.held → Writable n

theorem Written.of_collection (written : data.Written) {n : Int} {origin : Option NodeId}
    (held : Datum.scalar ⟨.int n, origin⟩ ∈ (data.collection id).held) : Writable n := by
  unfold collection at held
  rw [Array.getD_eq_getD_getElem?] at held
  cases inside : data.collections[id]? with
  | none =>
    rw [inside] at held
    cases held
  | some c =>
    rw [inside] at held
    exact written c (Array.mem_of_getElem? inside) n origin held

theorem isSome_literal?_scalar (fuel : Nat) (inside : List CollectionId) {key : Key}
    (whole : ∀ n origin, Datum.scalar key = .scalar ⟨.int n, origin⟩ → Writable n) :
    (data.unfold fuel inside (.scalar key)).literal?.isSome = true := by
  rw [unfold_scalar, Value.literal?, Scalar.isSome_literal?]
  rintro n int
  exact whole n key.origin (by rw [← int])

theorem isSome_literal?_collection (c : Collection) (of : Datum → Value)
    (scalars : ∀ k, of (.scalar k) = .scalar k.scalar)
    (each : ∀ d ∈ c.held, (of d).literal?.isSome = true) : (c.value of).literal?.isSome = true := by
  cases c with
  | list items =>
    rw [Collection.value, Value.literal?, Option.map_eq_map, Option.isSome_map,
      Value.isSome_literals?, List.forall_mem_map]
    exact each
  | mapping entries =>
    rw [Collection.value, Value.literal?, Option.map_eq_map, Option.isSome_map,
      Value.isSome_entryLiterals?, List.forall_mem_map]
    intro e member
    have key := each (.scalar e.1) (List.mem_flatMap.mpr ⟨e, member, List.mem_cons_self⟩)
    rw [scalars, Value.literal?] at key
    exact ⟨key, each e.2 (List.mem_flatMap.mpr ⟨e, member, by simp⟩)⟩
  | set items =>
    rw [Collection.value, Value.literal?]
    split
    · rfl
    · rw [Option.map_eq_map, Option.isSome_map, isSome_mapM, List.forall_mem_map]
      intro k member
      have key := each (.scalar k) (List.mem_map_of_mem member)
      rwa [scalars, Value.literal?] at key
  | pairs items =>
    rw [Collection.value, Value.literal?, Option.map_eq_map, Option.isSome_map,
      Value.isSome_pairLiterals?, List.forall_mem_map]
    intro e member
    exact ⟨each e.1 (List.mem_flatMap.mpr ⟨e, member, by simp⟩),
      each e.2 (List.mem_flatMap.mpr ⟨e, member, by simp⟩)⟩

/-- However far a datum is unfolded, and whatever is cut off from it, it has a literal. -/
theorem Written.isSome_literal? (written : data.Written) (fuel : Nat) (inside : List CollectionId)
    (d : Datum) (whole : ∀ n origin, d = .scalar ⟨.int n, origin⟩ → Writable n) :
    (data.unfold fuel inside d).literal?.isSome = true := by
  induction fuel generalizing inside d with
  | zero =>
    cases d with
    | scalar key => exact isSome_literal?_scalar 0 inside whole
    | collection id => simp [unfold, Value.literal?]
  | succ fuel ih =>
    cases d with
    | scalar key => exact isSome_literal?_scalar (fuel + 1) inside whole
    | collection id =>
      by_cases opened : id ∈ inside
      · have contained : inside.contains id = true := by simpa using opened
        rw [unfold, contained]
        cases data.collection id <;> simp [Value.literal?]
      · rw [data.unfold_outside fuel opened]
        refine isSome_literal?_collection _ _ (data.unfold_scalar fuel _) fun d held => ?_
        exact ih _ d fun n origin int => written.of_collection (int ▸ held)

theorem size_ne_zero (data : Data) (opened : data.collection id = .mapping entries) :
    data.collections.size ≠ 0 := by
  intro empty
  rw [collection, Array.getD_eq_getD_getElem?, Array.getElem?_eq_none (by omega)] at opened
  cases opened

end Data
end Yaml

namespace Config
variable {files : Files} {path text : String} {data : Yaml.Data} {id : Yaml.CollectionId}
  {entries : List (Yaml.Key × Yaml.Datum)}

/-! ### Sections of data -/

theorem lookup?_map (of : Yaml.Datum → Value) (name : String) :
    lookup? (entries.map fun e => (e.1.scalar, of e.2)) (.text name) =
      (entries.find? fun e => e.1.scalar.sameKey (.text name)).map (of ·.2) := by
  rw [lookup?, List.find?_map, Option.map_map]
  rfl

/-- What a section gives depends on the scalars in it only. -/
theorem fieldsOf_alike {of : Yaml.Datum → Value} (alike : ∀ d, (data.value d).Alike (of d)) :
    (fieldsOf data entries).Alike (.ofEntries (entries.map fun e => (e.1.scalar, of e.2))) := by
  refine ⟨?_, fun name => ?_⟩
  · rw [Settings.Fields.ofEntries, List.map_map]
    rfl
  · change Option.Rel Value.Alike ((entries.find? _).map _) (lookup? _ _)
    rw [lookup?_map]
    cases entries.find? fun e => e.1.scalar.sameKey (.text name) with
    | none => exact .none
    | some e => exact .some (alike e.2)

/-- A section of data, and one of values that gives the same. -/
def SameSection (data : Yaml.Data) (entries : List (Yaml.Key × Yaml.Datum))
    (values : List (Scalar × Value)) : Prop :=
  (fieldsOf data entries).Alike (.ofEntries values)

theorem sameSection_nil : SameSection data [] [] := ⟨rfl, fun _ => .none⟩

/-- A section of data, and what it is seen as inside of some collections. -/
theorem sameSection_map (fuel : Nat) (inside : List Yaml.CollectionId) : SameSection data entries
    (entries.map fun e => (e.1.scalar, data.unfold fuel inside e.2)) :=
  fieldsOf_alike (data.unfold_alike _ fuel [] inside)

/-- The settings that stand in a mapping as its section, as data. -/
def sectionIn? (data : Yaml.Data) : Yaml.Datum → Option (List (Yaml.Key × Yaml.Datum))
  | .scalar ⟨.null, _⟩ => some []
  | d => data.entries? d

theorem sectionIn?_collection (data : Yaml.Data) (id : Yaml.CollectionId) :
    sectionIn? data (.collection id) = data.entries? (.collection id) := rfl

theorem sectionIn?_same (opened : data.collection id = .mapping entries) (d : Yaml.Datum) :
    Option.Rel (SameSection data) (sectionIn? data d) ((data.seenFrom id d).sectionIn?
      (entries.map fun e => (e.1.scalar, data.seenFrom id e.2))) := by
  cases d with
  | scalar key =>
    rw [Yaml.Data.seenFrom, Yaml.Data.unfold_scalar]
    obtain ⟨s, origin⟩ := key
    cases s
    case null => exact .some sameSection_nil
    all_goals exact .none
  | collection inner =>
    -- The mapping is a collection, so that the data of it can be unfolded.
    obtain ⟨fuel, size⟩ := Nat.exists_eq_succ_of_ne_zero (data.size_ne_zero opened)
    rw [sectionIn?_collection]
    by_cases same : inner = id
    · subst same
      rw [Yaml.Data.seenFrom, size, data.unfold_mapping fuel (List.mem_singleton_self _) opened,
        Yaml.Data.entries?, opened]
      exact .some (sameSection_map _ _)
    · rw [Yaml.Data.seenFrom, size,
        data.unfold_outside fuel (List.not_mem_cons_of_ne_of_not_mem same List.not_mem_nil),
        Yaml.Data.entries?]
      cases data.collection inner
      case mapping => exact .some (sameSection_map _ _)
      all_goals exact .none

/-- The settings of data: what stands under `reduce` if the data has that name, else the data. -/
def settings? (data : Yaml.Data) : Option (List (Yaml.Key × Yaml.Datum)) := do
  let entries ← sectionIn? data data.root
  match entries.find? fun e => e.1.scalar.sameKey (.text "reduce") with
  | none => entries
  | some e => sectionIn? data e.2

theorem settings?_same (data : Yaml.Data) :
    Option.Rel (SameSection data) (settings? data) (data.value data.root).settings? := by
  rw [settings?]
  cases data.root with
  | scalar key =>
    obtain ⟨s, origin⟩ := key
    cases s
    case null => exact .some sameSection_nil
    all_goals exact .none
  | collection id =>
    rw [Yaml.Data.value_collection, sectionIn?_collection, Yaml.Data.entries?]
    cases opened : data.collection id
    case mapping entries =>
      change Option.Rel _ _ (Value.settings? (.mapping _))
      rw [Value.settings?, lookup?_map]
      change Option.Rel _ (match entries.find? fun e => e.1.scalar.sameKey (.text "reduce") with
        | none => some entries
        | some e => sectionIn? data e.2) _
      cases entries.find? fun e => e.1.scalar.sameKey (.text "reduce") with
      | none => exact .some (sameSection_map _ _)
      | some e => exact sectionIn?_same opened e.2
    all_goals exact .none

theorem sectionOf_void (path : String) (void : (data.value data.root).isVoid = true) :
    sectionOf path data = .ok [] := by
  rw [sectionOf, if_pos (by rwa [← Yaml.Data.isVoid_value])]

/-- What is void and not blank is null or an empty mapping. -/
theorem settings?_void (void : (data.value data.root).isVoid = true)
    (filled : ¬(data.value data.root).Blank) : settings? data = some [] := by
  have kind : data.value data.root = .scalar .null ∨ data.value data.root = .mapping [] := by
    by_contra other
    obtain ⟨some_value, filledMapping⟩ := not_or.mp other
    refine filled ⟨void, some_value, fun values mapping => filledMapping ?_⟩
    rw [mapping] at void ⊢
    rw [List.isEmpty_iff.mp void]
  have empty : (data.value data.root).settings? = some [] := by
    obtain value | value := kind <;> rw [value] <;> rfl
  have same := settings?_same data
  rw [empty] at same
  generalize settings? data = found at same ⊢
  cases same with
  | some same => exact congrArg some (List.map_eq_nil_iff.mp same.names_eq)

/-- Data that is not blank is judged by its settings. -/
theorem sectionOf_ok_iff (filled : ¬(data.value data.root).Blank) :
    sectionOf path data = .ok entries ↔ settings? data = some entries := by
  by_cases void : (data.value data.root).isVoid = true
  · rw [sectionOf_void path void, settings?_void void filled, Except.ok.injEq, Option.some.injEq]
  rw [sectionOf, if_neg (by rwa [← Yaml.Data.isVoid_value]), settings?]
  generalize data.root = root at void
  cases root with
  | scalar key =>
    obtain ⟨s, origin⟩ := key
    cases s
    case null => exact absurd rfl void
    all_goals exact iff_of_false nofun nofun
  | collection id =>
    rw [sectionIn?_collection]
    cases data.entries? (.collection id) with
    | none => exact iff_of_false nofun nofun
    | some entries =>
      dsimp only [bind, Option.bind]
      cases entries.find? fun e => e.1.scalar.sameKey (.text "reduce") with
      | none => simp
      | some e =>
        obtain ⟨key, inner⟩ := e
        cases inner with
        | scalar key =>
          obtain ⟨s, origin⟩ := key
          cases s
          case null => simp [sectionIn?]
          all_goals exact iff_of_false nofun nofun
        | collection id =>
          dsimp only
          rw [sectionIn?_collection]
          cases data.entries? (.collection id) with
          | none => exact iff_of_false nofun nofun
          | some entries => simp

theorem sectionOf_raises (path : String) (data : Yaml.Data) :
    Raises (sectionOf path data) fun e => e.kind = .argument ∧ e.isLegible = true := by
  intro e failed
  unfold sectionOf at failed
  split at failed
  · contradiction
  split at failed
  · cases failed
    exact ⟨rfl, rfl⟩
  split at failed
  · contradiction
  · contradiction
  split at failed
  · cases failed
    exact ⟨rfl, rfl⟩
  · contradiction

theorem ofFile_ofData (found : files path = .ok text) (read : Yaml.read text = .ok data) :
    ofFile files path = ofData path data := by
  rw [ofFile, found]
  change ofText path text = _
  rw [ofText, read]

theorem ofData_eq (sectioned : sectionOf path data = .ok entries) :
    ofData path data = ofFields (fieldsOf data entries) := by
  rw [ofData, sectioned]
  rfl

/-- A file is judged by the names and the values of its section. -/
theorem ofFile_eq (found : files path = .ok text) (read : Yaml.read text = .ok data)
    (sectioned : sectionOf path data = .ok entries) :
    ofFile files path = ofFields (fieldsOf data entries) :=
  (ofFile_ofData found read).trans (ofData_eq sectioned)

theorem quotable_fieldsOf (written : data.Written)
    (names : ∀ e ∈ entries, ∃ t, e.1.scalar = .text t)
    (inside : ∀ e ∈ entries, ∀ n origin, e.2 = .scalar ⟨.int n, origin⟩ → Writable n) :
    (fieldsOf data entries).Quotable := by
  refine ⟨fun k member => ?_, fun name v given => ?_⟩
  · obtain ⟨e, held, rfl⟩ := List.mem_map.mp member
    obtain ⟨t, text⟩ := names e held
    rw [text]
    rfl
  · obtain ⟨e, found, rfl⟩ := Option.map_eq_some_iff.mp given
    exact written.isSome_literal? _ _ e.2 (inside e (List.mem_of_find?_eq_some found))

theorem mem_held_of_entries? {d : Yaml.Datum} (opened : data.entries? d = some entries)
    {e : Yaml.Key × Yaml.Datum} (member : e ∈ entries) : ∃ id, e.2 ∈ (data.collection id).held := by
  cases d with
  | scalar key => cases opened
  | collection id =>
    refine ⟨id, ?_⟩
    rw [Yaml.Data.entries?] at opened
    cases collection : data.collection id <;> rw [collection] at opened <;> cases opened
    exact List.mem_flatMap.mpr ⟨e, member, by simp⟩

/-- A section stands in the collections of the data. -/
theorem mem_held_of_sectionOf (sectioned : sectionOf path data = .ok entries)
    {e : Yaml.Key × Yaml.Datum} (member : e ∈ entries) :
    ∃ id, e.2 ∈ (data.collection id).held := by
  unfold sectionOf at sectioned
  split at sectioned
  · cases sectioned
    cases member
  split at sectioned
  · cases sectioned
  rename_i opened
  split at sectioned
  · cases sectioned
    exact mem_held_of_entries? opened member
  · cases sectioned
    cases member
  split at sectioned
  · cases sectioned
  · rename_i opened'
    cases sectioned
    exact mem_held_of_entries? opened' member

/-- A section is refused as a wrong argument only, which can be told if its integers can be. -/
theorem ofData_raises (sectioned : sectionOf path data = .ok entries)
    (textNames : ∀ k ∈ (fieldsOf data entries).names, ∃ t, k = .text t) :
    Raises (ofData path data) fun e =>
      e.kind = .argument ∧ (data.Written → e.isLegible = true) := by
  intro e failed
  rw [ofData_eq sectioned] at failed
  obtain ⟨wrong, told⟩ := ofFields_raises textNames e failed
  refine ⟨wrong, fun written => told (quotable_fieldsOf written ?_ ?_)⟩
  · exact fun e member => textNames _ (List.mem_map_of_mem member)
  · intro e member n origin int
    obtain ⟨id, held⟩ := mem_held_of_sectionOf sectioned member
    exact written.of_collection (int ▸ held)

/-- The data makes the configuration of its settings, or is refused as a wrong argument, which can
be told if its integers can be. -/
theorem ofData_judged (path : String)
    (filled : ¬(data.value data.root).Blank) (textNamed : ∀ values,
      (data.value data.root).settings? = some values → TextNamed values) :
    (∀ c, ofData path data = .ok c ↔ ∃ entries,
      (data.value data.root).settings? = some entries ∧ ofEntries entries = .ok c) ∧
    Raises (ofData path data) fun e =>
      e.kind = .argument ∧ (data.Written → e.isLegible = true) := by
  have same := settings?_same data
  generalize found : (data.value data.root).settings? = values? at same textNamed
  cases sectioned : sectionOf path data with
  | error e =>
    have failed : ofData path data = .error e := by
      rw [ofData, sectioned]
      rfl
    have missing : settings? data = none := by
      refine Option.eq_none_iff_forall_not_mem.mpr fun entries judged => ?_
      rw [(sectionOf_ok_iff filled).mpr judged] at sectioned
      cases sectioned
    rw [missing] at same
    cases same
    rw [failed]
    refine ⟨fun c => iff_of_false nofun nofun, ?_⟩
    rintro _ ⟨⟩
    obtain ⟨wrong, legible⟩ := sectionOf_raises path data e sectioned
    exact ⟨wrong, fun _ => legible⟩
  | ok entries =>
    rw [(sectionOf_ok_iff filled).mp sectioned] at same
    cases same with
    | @some _ values same =>
      have textNames : ∀ k ∈ (fieldsOf data entries).names, ∃ t, k = .text t := by
        intro k member
        rw [same.names_eq] at member
        obtain ⟨e, inside, rfl⟩ := List.mem_map.mp member
        exact textNamed values rfl e inside
      refine ⟨fun c => ?_, ofData_raises sectioned textNames⟩
      rw [ofData_eq sectioned]
      simp only [Option.some.injEq, exists_eq_left']
      exact ofFields_ok_iff.trans (same.gives_iff.trans ofFields_ok_iff.symm)

/-- A file that is read makes the configuration of its settings, just when its value is not
blank and, if the file is refused, the message can be written; it can if every integer in the
file can be. What is blank has no settings, and makes the standard configuration nevertheless. -/
theorem ofFile_sectioned (found : files path = .ok text) (read : Yaml.read text = .ok data)
    (textNamed : ∀ entries,
      (data.value data.root).settings? = some entries → TextNamed entries) :
    ((data.value data.root).Sectioned (ofFile files path) ↔
      ¬(data.value data.root).Blank ∧ Raises (ofFile files path) fun e => e.isLegible = true) ∧
    (data.Written → ((data.value data.root).Sectioned (ofFile files path) ↔
      ¬(data.value data.root).Blank)) ∧
    ((data.value data.root).Blank → ofFile files path = .ok standard) := by
  rw [ofFile_ofData found read]
  have blank_made (blank : (data.value data.root).Blank) : ofData path data = .ok standard :=
    ofData_eq (sectionOf_void path blank.1)
  have exact_iff : (data.value data.root).Sectioned (ofData path data) ↔
      ¬(data.value data.root).Blank ∧
        Raises (ofData path data) fun e => e.isLegible = true := by
    refine ⟨fun sectioned => ⟨fun blank => ?_, ?_⟩, fun ⟨filled, legible⟩ => ?_⟩
    · obtain ⟨entries, given, _⟩ := (sectioned.made_iff standard).mp (blank_made blank)
      rw [blank.settings?_eq] at given
      cases given
    · exact sectioned.refused.mono fun e wrong => Failure.legible wrong
    · obtain ⟨made, refused⟩ := ofData_judged path filled textNamed
      exact ⟨made, fun e failed =>
        (Failure.category_eq_kind (refused e failed).1).mpr (legible e failed)⟩
  refine ⟨exact_iff, fun written => exact_iff.trans (and_iff_left_of_imp fun filled => ?_),
    blank_made⟩
  exact (ofData_judged path filled textNamed).2.mono fun e refused => refused.2 written

/-- A section that gives the number of jobs. -/
theorem ofFile_sectioned_jobs :
    let text := "reduce:\n  num_jobs: 3\n"
    let data : Yaml.Data := ⟨#[.mapping [(⟨.text "reduce", some 1⟩, .collection 1)],
      .mapping [(⟨.text "num_jobs", some 3⟩, .scalar ⟨.int 3, some 4⟩)]], .collection 0⟩
    let files : Files := fun path =>
      if path = "job.yaml" then .ok text else .error (.unreadableFile .missing path)
    Yaml.read text = .ok data ∧
      (data.value data.root).settings? = some [(.text "num_jobs", .scalar (.int 3))] ∧
      ∃ c, ofFile files "job.yaml" = .ok c ∧ c.toSettings = { jobs := 3 } := by
  intro text data files
  have read : Yaml.read text = .ok data := by decide +kernel
  have given : (data.value data.root).settings? =
      some [(.text "num_jobs", .scalar (.int 3))] := rfl
  have textNamed : ∀ entries,
      (data.value data.root).settings? = some entries → TextNamed entries := by
    rw [given]
    rintro entries ⟨⟩ e member
    exact ⟨_, congrArg Prod.fst (List.mem_singleton.mp member)⟩
  have found : files "job.yaml" = .ok text := if_pos rfl
  have filled : ¬(data.value data.root).Blank := fun blank => blank.2.2 _ rfl
  have written : data.Written := by
    intro c member n origin held
    have number : n = 3 := by
      simp only [data, List.mem_toArray, List.mem_cons, List.not_mem_nil, or_false] at member
      obtain rfl | rfl := member <;> simp [Yaml.Collection.held] at held
      exact held.1
    rw [number]
    decide +kernel
  have sectioned := ((ofFile_sectioned found read textNamed).2.1 written).mpr filled
  let c : Config := ⟨{ jobs := 3 }, by decide, by decide, by decide, by decide, nofun⟩
  exact ⟨read, given, c, (sectioned.made_iff c).mpr ⟨_, given, rfl⟩, rfl⟩

/-- An empty file holds null. -/
example : Yaml.read "" = .ok ⟨#[], .scalar ⟨.null, none⟩⟩ := by decide +kernel

/-- An empty list is not a mapping, and makes the standard configuration. -/
theorem empty_list_configured :
    let data : Yaml.Data := ⟨#[.list []], .collection 0⟩
    let files : Files := fun path =>
      if path = "job.yaml" then .ok "[]\n" else .error (.unreadableFile .missing path)
    Yaml.read "[]\n" = .ok data ∧ data.value data.root = .list [] ∧
      ofFile files "job.yaml" = .ok standard ∧
      ¬(Value.list []).Sectioned (ofFile files "job.yaml") := by
  intro data files
  have read : Yaml.read "[]\n" = .ok data := by decide +kernel
  have found : files "job.yaml" = .ok "[]\n" := if_pos rfl
  have made : ofFile files "job.yaml" = .ok standard := by
    rw [ofFile_ofData found read]
    exact ofData_eq (sectionOf_void _ rfl)
  refine ⟨read, rfl, made, fun sectioned => ?_⟩
  obtain ⟨entries, given, _⟩ := (sectioned.made_iff standard).mp made
  cases given

end Config
end TileComposite
