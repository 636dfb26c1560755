/-
# ExportDocs.Proofs.Imports.Graph -- which file asks for which

The files of a project form a graph: a file requests the specifiers that its extraction asks for,
and imports the files that the local ones among them name.  The graph is read off the files alone;
no walk, stack or cache enters into it.
-/
import ExportDocs.Imports.Walk
import ExportDocs.Proofs.Exports.Requests
import ExportDocs.Proofs.Imports.Resolution

namespace ExportDocs.Project

set_option autoImplicit false

variable (project : Project)

/-- The specifiers that the extraction of a file asks for; none if it cannot be read. -/
def requests (file : Path) : List Text :=
  match project.files.read file with
  | .ok source => requested (project.relative file) project.settings.undocumented source
  | .error _ => []

/-- The file that a specifier names, seen from a file. -/
def resolve (file : Path) (specifier : Text) : Except Error Path :=
  Resolution.resolve project.settings.sourceExtension project.settings.indexName
    project.files.hasPath file.toText specifier

/-- One file imports another: it requests a local specifier that names it. -/
def Imports (file target : Path) : Prop :=
  ∃ specifier ∈ project.requests file, project.settings.isLocal specifier ∧
    ∃ path, project.resolve file specifier = .ok path ∧ path.normalize = target

variable {project} {file : Path}

theorem resolve_eq_ok_iff {specifier : Text} {path : Path} :
    project.resolve file specifier = .ok path ↔
      (project.lookup file specifier).found = some path :=
  Resolution.resolve_eq_ok_iff

theorem requests_of_read {source : Text} (read : project.files.read file = .ok source) :
    project.requests file =
      requested (project.relative file) project.settings.undocumented source := by
  simp only [requests, read]

theorem Imports.of_found {specifier : Text} {path : Path}
    (asked : specifier ∈ project.requests file) (isLocal : project.settings.isLocal specifier)
    (found : (project.lookup file specifier).found = some path) :
    project.Imports file path.normalize :=
  ⟨specifier, asked, isLocal, path, resolve_eq_ok_iff.2 found, rfl⟩

end ExportDocs.Project
