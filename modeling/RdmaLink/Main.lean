import RdmaLink.Command.Isolated

/-!
# The program

Reads the configuration file, runs the command line, and writes what is to be seen of the run.
The program has no network of its own: it runs as on an isolated host.
-/

namespace RdmaLink.Command

/-- Reads a file as text. -/
def readText (path : String) : IO (Except IoError String) := do
  try
    let bytes ← IO.FS.readBinFile path
    match String.fromUTF8? bytes with
    | some text => return .ok text
    | none => return .error .notUtf8
  catch
    | .noFileOrDirectory .. => return .error (.os Errno.noEntry)
    | e => return .error (.other (toString e))

/-- The directories that lead to a path. -/
def directoriesAbove (path : String) : List (String × FileNode) :=
  let parts := FileTree.components path
  (List.range (parts.length - 1)).map fun n =>
    (FileTree.joined (parts.take (n + 1)), FileNode.directory)

/-- The paths that a configuration publishes on. -/
def publishedPaths (config : EndpointConfig) : List String :=
  config.rdma.infoPath.toList ++ config.rdma.readyPath.toList

/-- Writes a line of the log. -/
def writeLog (json : Bool) (line : LogLine) : IO Unit :=
  IO.println (if json then line.json else line.plain)

/-- Writes the published files of a run that goes on. -/
def writePublished (paths : List String) (tree : FileTree) : IO Unit :=
  for path in paths do
    match tree.node? path with
    | some (.file content) => IO.FS.writeBinFile path ⟨content.toArray⟩
    | _ => pure ()

/-- Waits until the process is stopped. -/
partial def idle : IO Unit := do
  IO.sleep 100
  idle

end RdmaLink.Command

open RdmaLink RdmaLink.Command in
/-- Runs the program with its arguments. -/
def main (arguments : List String) : IO UInt32 := do
  let options := match Command.read arguments with
    | .ok (options, _) => some options
    | .error _ => none
  let content ← match options.bind Options.config with
    | some path => readText path
    | none => pure (.error (.os Errno.noEntry))
  let paths := match options.map fun options => configuration options fun _ => content with
    | some (.ok config) => publishedPaths config
    | _ => []
  let board : Board := ⟨⟨paths.flatMap directoriesAbove⟩, none⟩
  let report := Command.run arguments (isolated (fun _ => content) board [])
  for line in report.lines do
    IO.println line
  for line in report.complaints do
    IO.eprintln line
  for line in report.log do
    writeLog ((options.map Options.json).getD false) line
  match report.status with
  | some status => return UInt32.ofNat status
  | none =>
    writePublished paths report.board.tree
    idle
    return 0
