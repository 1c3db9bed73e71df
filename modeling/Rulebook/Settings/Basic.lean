/-! # Settings

The settings of an application by section, with their default values, and the files that may state
them. Files are those of a directory by their names; a name may be a path, in which a point stands
for the directory it is in.
-/

namespace Rulebook

structure ServerSettings where
  host : String := "0.0.0.0"
  port : Nat := 8080
deriving DecidableEq

structure LogSettings where
  level : String := "info"
  format : String := "pretty"
  metricsEnabled : Bool := true
  metricsPort : Nat := 9090
deriving DecidableEq

/-- Limits of the rule engine, and whether evaluations are traced unless a request says
otherwise. -/
structure EngineSettings where
  ruleLength : Nat := 4096
  ruleCount : Nat := 100
  depth : Nat := 100
  tracing : Bool := false
deriving DecidableEq

structure Settings where
  serviceName : String := "rule-api-service"
  environment : String := "development"
  server : ServerSettings := {}
  logs : LogSettings := {}
  engine : EngineSettings := {}
deriving DecidableEq

namespace Settings

def address (s : Settings) : String := s.server.host ++ ":" ++ toString s.server.port

def isProduction (s : Settings) : Bool := s.environment = "production"

end Settings

abbrev Files := List (String × String)

namespace Files

def parts (cs : List Char) : List (List Char) :=
  cs.foldr (fun c parts => match parts with
    | part :: parts => if c = '/' then [] :: part :: parts else (c :: part) :: parts
    | [] => [[c]]) [[]]

/-- A path without parts that are empty or a point; one from the root leads out of the directory. -/
def normal? (path : String) : Option (List String) :=
  match path.toList with
  | '/' :: _ => none
  | cs => some (((parts cs).map String.ofList).filter fun part => !part.isEmpty && part ≠ ".")

/-- Whether a path names a file of settings: there is more than a point in front of `toml`. -/
def hasExtension (path : List String) : Bool :=
  path.getLast?.any fun name => name.endsWith ".toml" && name ≠ ".toml"

def lookup? (files : Files) (path : List String) : Option String :=
  (files.find? fun (name, _) => normal? name = some path).map (·.2)

/-- The text of the file of settings that a path names, with or without its `.toml`. -/
def find? (files : Files) (path : String) : Option String := do
  let path ← normal? path
  match files.lookup? path with
  | some text => if hasExtension path then some text else none
  -- Where there is no such file, the name with one more `.toml` is tried.
  | none => files.lookup? ((path.getLast?.map fun name =>
      path.dropLast ++ [name ++ ".toml"]).getD [])

end Files

end Rulebook
