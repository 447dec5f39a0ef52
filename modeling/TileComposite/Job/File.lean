import TileComposite.Job.Config
import TileComposite.Job.Folder
import TileComposite.Yaml.Document

/-! Configuration files: texts in the document format, found by their paths. -/
namespace TileComposite
namespace Config

/-- The settings section of a document: what stands under `reduce` if the document
has that name, else the document. A void document and a null section have no
settings. -/
def sectionOf (path : String) (data : Yaml.Data) :
    Except Failure (List (Yaml.Key × Yaml.Datum)) :=
  if data.isVoid data.root then .ok []
  else match data.entries? data.root with
    | none => .error (.fileNotMapping path)
    | some entries =>
      match entries.find? fun e => e.1.scalar.sameKey (.text "reduce") with
      | none => .ok entries
      | some (_, .scalar ⟨.null, _⟩) => .ok []
      | some (_, inner) =>
        match data.entries? inner with
        | none => .error (.sectionNotMapping path)
        | some entries => .ok entries

/-- What a section gives. -/
def fieldsOf (data : Yaml.Data) (entries : List (Yaml.Key × Yaml.Datum)) : Settings.Fields :=
  ⟨entries.map (·.1.scalar), fun name =>
    (entries.find? fun e => e.1.scalar.sameKey (.text name)).map (data.value ·.2)⟩

/-- The configuration in the data of a file. -/
def ofData (path : String) (data : Yaml.Data) : Except Failure Config := do
  ofFields (fieldsOf data (← sectionOf path data))

/-- The configuration in the text of a file. -/
def ofText (path text : String) : Except Failure Config :=
  match Yaml.read text with
  | .ok data => ofData path data
  | .error .malformed => .error (.malformedFile path)
  | .error (.scalar fault) => .error (.badScalar fault)

/-- The configuration in a file. -/
def ofFile (files : Files) (path : String) : Except Failure Config := do
  ofText path (← files path)

end Config
end TileComposite
