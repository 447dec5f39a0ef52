import TileComposite.Locator.Scheme
import TileComposite.Text.Lower

/-! Where plates are found: plates in memory by their names, and backends by the
schemes of locators. The memory backend is built in. -/
namespace TileComposite

/-- How a backend finds the plate of a locator: by its name in memory, or in a way of its own. -/
inductive Backend (η : Type) where
  | memory
  | factory (make : String → η)

/-- A backend with one plate for all locators. -/
def Backend.fixed (plate : η) : Backend η := .factory fun _ => plate

/-- Names and backends, the latest first. Plates are handles of any type. -/
structure Registry (η : Type) where
  names : List (String × η) := []
  backends : List (String × Backend η) := [("memory", .memory)]

namespace Registry

/-- Makes a plate known under a name, in place of an earlier one. -/
def register (r : Registry η) (name : String) (plate : η) : Registry η :=
  { r with names := (name, plate) :: r.names.filter (·.1 ≠ name) }

def unregister (r : Registry η) (name : String) : Registry η :=
  { r with names := r.names.filter (·.1 ≠ name) }

/-- Adds a backend for a scheme in any case, in place of an earlier one. -/
def addBackend (r : Registry η) (scheme : String) (b : Backend η) : Registry η :=
  let key := Text.lower scheme
  { r with backends := (key, b) :: r.backends.filter (·.1 ≠ key) }

/-- The schemes with a backend, in ascending order. -/
def schemes (r : Registry η) : List String :=
  (r.backends.map (·.1)).mergeSort fun a b => !decide (b < a)

/-- The plate that a backend has for a locator. -/
def ask (r : Registry η) (url : String) : Backend η → Except Failure η
  | .factory make => .ok (make url)
  | .memory =>
    let name := Locator.plateName url
    match r.names.lookup name with
    | some plate => .ok plate
    | none => .error (.noNamedPlate name)

/-- The plate that a locator points to. -/
def openPlate (r : Registry η) (url : String) : Except Failure η := do
  if url.isEmpty then throw .noLocator
  let scheme ← Locator.scheme url
  match r.backends.lookup scheme with
  | none => throw (.noBackend url r.schemes)
  | some backend => r.ask url backend

end Registry
end TileComposite
