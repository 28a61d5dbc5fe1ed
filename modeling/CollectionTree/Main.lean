import CollectionTree.CommandLine.Response

/-
  The program: reads the file that the command line names,
  writes the answer and ends with its exit code.
-/

open CollectionTree

/- The content of a file, if it can be read. -/
def readContent?
    (path : String) : IO (Option ByteArray) := do
  try
    let content ← IO.FS.readBinFile path
    pure (some content)
  catch _ =>
    pure none

def main
    (args : List String) : IO UInt32 := do
  let content ←
    match CommandLine.requestedFile? args with
    | some path => readContent? path
    | none => pure none
  let output := CommandLine.respond (fun _ => content) args
  IO.print output.stdout
  IO.eprint output.stderr
  pure output.code
