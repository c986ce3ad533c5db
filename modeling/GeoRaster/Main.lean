import GeoRaster.Json.Basic
import GeoRaster.Projection.Standard
import GeoRaster.Worker
import GeoRaster.Worker.EnvironmentFile
import GeoRaster.Worker.Options

namespace GeoRaster

def environmentNames : List String :=
  ["WCS_CATALOG", "WCS_READ_TIMEOUT_SECS", "WCS_MAX_OUTPUT_PIXELS", "WCS_DEFAULT_INTERPOLATION",
    "WCS_PARALLEL_BANDS"]

def readVariables (names : List String) : IO (List (String × String)) := do
  let values ← names.mapM fun name => do return (name, ← IO.getEnv name)
  return values.filterMap fun (name, value) => value.map fun v => (name, v)

def readFirst? : List String → IO (Option ByteArray)
  | [] => return none
  | path :: rest => do
    try return some (← IO.FS.readBinFile path)
    catch _ => readFirst? rest

/-- The environment with what the nearest file of variables adds, in the working directory or above
it. -/
def readEnvironment : IO (String → Option String) := do
  let directory := (← IO.currentDir).toString
  let file ← readFirst? ((ancestorPaths directory).map (· ++ "/.env"))
  let mentioned := file.toList.flatMap fun f =>
    EnvironmentFile.references (EnvironmentFile.statements f).flatten
  let known ← readVariables (environmentNames ++ mentioned)
  return EnvironmentFile.extend (known.lookup ·) file

def readText? (path : String) : IO (Option String) := do
  try return some (← IO.FS.readFile path)
  catch _ => return none

def readData (path : Option String) : IO (List (String × Except String ByteArray)) := do
  match path with
  | none => return []
  | some path =>
    try return [(path, .ok (← IO.FS.readBinFile path))]
    catch e => return [(path, .error (toString e))]

def writeResult (output : String) (id : String) (r : CoverageResult Float Float32) : IO Unit := do
  let directory := Path.parent output
  unless directory.isEmpty do IO.FS.createDirAll directory
  for (path, content) in r.files id output do
    IO.FS.writeBinFile path content

def fail (f : WorkerFault Float) : IO UInt32 := do
  match f.report? with
  | some r => IO.println ((r.toDocument : Json Float).indented 0)
  | none => IO.eprintln f.message
  return f.status.toUInt32

def runWorker (arguments : List String) : IO UInt32 := do
  let environment ← readEnvironment
  match WorkerOptions.ofArguments environment arguments with
  | .error argument =>
    IO.eprintln ("unexpected or missing argument " ++ argument)
    return 2
  | .ok o =>
    let input : WorkerInput := {
      environment := environment
      readTimeout := o.readTimeout
      boundingBox := o.boundingBox
      catalog := ← readText? o.catalog
      directory := Path.parent o.catalog
      request := ← readText? o.request }
    match (input.prepare : Except (WorkerFault Float) (WorkerTask Float)) with
    | .error f => fail f
    | .ok task =>
      let files ← readData task.dataPath?
      let find (path : String) := (files.lookup path).getD (.error RawFileReader.noSuchFile)
      match (task.run ⟨.wrapping, 0⟩ find : Except (WorkerFault Float) (CoverageResult Float Float32)) with
      | .error f => fail f
      | .ok r =>
        writeResult o.output task.request.coverageId r
        return 0

end GeoRaster

def main (arguments : List String) : IO UInt32 :=
  GeoRaster.runWorker arguments
