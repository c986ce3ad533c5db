namespace GeoRaster

structure WorkerOptions where
  catalog : String
  request : String
  /-- Where the answer goes, but for the extension. -/
  output : String
  boundingBox : Option String
  readTimeout : Option String
  deriving DecidableEq

namespace WorkerOptions

def names : List (String × Option Char) :=
  [("catalog", some 'c'), ("request", some 'r'), ("output", some 'o'), ("bbox", none),
    ("read-timeout", none), ("log-level", none)]

def named? (argument : String) : Option (String × Option String) :=
  match argument.toList with
  | '-' :: '-' :: cs =>
    let name := String.ofList (cs.takeWhile (· ≠ '='))
    if names.any (·.1 == name) then
      match cs.dropWhile (· ≠ '=') with
      | _ :: value => some (name, some (String.ofList value))
      | [] => some (name, none)
    else none
  | '-' :: c :: cs =>
    (names.find? (·.2 == some c)).map fun (name, _) =>
      match cs with
      | [] => (name, none)
      | '=' :: value => (name, some (String.ofList value))
      | value => (name, some (String.ofList value))
  | _ => none

def collect (given : List (String × String)) :
    List String → Except String (List (String × String))
  | [] => .ok given
  | [argument] =>
    match named? argument with
    | some (name, some value) =>
      if (given.lookup name).isSome then .error argument else .ok ((name, value) :: given)
    | _ => .error argument
  | argument :: value :: rest =>
    match named? argument with
    | none => .error argument
    | some (name, inside) =>
      if (given.lookup name).isSome then .error argument
      else
        match inside with
        | some inside => collect ((name, inside) :: given) (value :: rest)
        | none =>
          if value.startsWith "-" && value != "-" then .error argument
          else collect ((name, value) :: given) rest

def ofArguments (environment : String → Option String) (arguments : List String) :
    Except String WorkerOptions := do
  let given ← collect [] arguments
  let some request := given.lookup "request" | .error "--request"
  return {
    catalog :=
      ((given.lookup "catalog").or (environment "WCS_CATALOG")).getD "config/coverages.yaml"
    request := request
    output := (given.lookup "output").getD "coverage"
    boundingBox := given.lookup "bbox"
    readTimeout := given.lookup "read-timeout" }

end WorkerOptions

def ancestorPaths (directory : String) : List String :=
  let cs := directory.toList
  let ends := (List.range (cs.length + 1)).reverse.filter fun n => cs[n]?.all (· = '/')
  ends.map fun n => String.ofList (cs.take n)

end GeoRaster
