/-
# ExportDocs.CommandLine.Survey -- the paths that a run looks at

A run is a function of the files that it is given, so these have to be gathered before it starts.
`lookedUp` names the paths that a run looks at when it is given some of the files.  Gathering goes
in rounds: what is found at these paths is added, until a round names nothing new.
-/
import ExportDocs.CommandLine

namespace ExportDocs

set_option autoImplicit false

/-- The path that an event of a walk looks at. -/
def Event.lookedUp? : Event → Option Path
  | .read path => some path
  | .unread path => some path
  | .probed path => some path
  | _ => none

/-- The paths that the walk through a project looks at. -/
def Project.lookedUp (project : Project) (source : Path) : List Path :=
  ((project.process source).run.run {}).2.events.filterMap Event.lookedUp?

/-- The paths that a run with these options looks at, wherever it ends. -/
def Options.lookedUp (settings : Settings) (options : Options) (files : FileTree) : List Path :=
  let inputDirectory := Task.absolute files options.inputDirectory
  let source := Task.absolute files (inputDirectory.join (Path.ofText options.inputFile))
  let written :=
    (given options.output).getD (options.stem ++ "-api.md".toList) ::
      Dump.all.map fun dump => options.stem ++ dump.fileEnd
  let named := (given options.output).toList ++ (given options.formatter).toList
  [options.inputDirectory, options.outputDirectory, source] ++
    written.map (fun name => options.outputDirectory.join (Path.ofText name)) ++
    named.map (fun name => inputDirectory.join (Path.ofText name)) ++
    (Project.ofModules settings files inputDirectory 0).lookedUp source

namespace CommandLine

/-- The paths that the run of a command line looks at. -/
def lookedUp (settings : Settings) (files : FileTree) (arguments : List Text) : List Path :=
  match read arguments with
  | .run options => options.lookedUp settings files
  | _ => []

/-- The places that looking up paths passes through, each before those below it. -/
def placesOf (files : FileTree) (paths : List Path) : List (List Text) :=
  (paths.flatMap fun path =>
    let parts := path.absoluteParts files.current
    (List.range (parts.length + 1)).map (parts.take ·)).eraseDups

/-- The places that a run looks at and that are not among those seen. -/
def unseen (settings : Settings) (files : FileTree) (arguments : List Text)
    (seen : List (List Text)) : List (List Text) :=
  (placesOf files (lookedUp settings files arguments)).filter (!seen.contains ·)

end CommandLine

end ExportDocs
