import HostSurvey.Config.Defaults
import HostSurvey.Files.Tree
import HostSurvey.Files.Path
import HostSurvey.Text.Lines
import HostSurvey.Text.Utf8
import HostSurvey.Yaml.Document

/-!
Loading a configuration file.
-/

namespace HostSurvey

/-- Whether loading a configuration goes on with the defaults after a fault: failures of the
file system, of decoding and of converting values do; the others do not. -/
def Fault.leavesDefaults (f : Fault) : Bool :=
  match f with
  | .system .. | .notPermitted _ => true
  | _ => f.kind = "ValueError" || f.kind = "UnicodeDecodeError"

/-- A loaded configuration with the lines written on the error stream on the way. -/
structure ConfigLoad where
  config : Value
  notes : List String

def FileTree.strictText (t : FileTree) (path : String) : Except Fault String := do
  let bs ← t.readBytes path
  match decodeUtf8 bs with
  | .ok cs => pure (String.ofList (unifyNewlines cs))
  | .error e => throw (.badUtf8 e)

def Value.entries : Value → List (Value × Value)
  | .dict es => Value.dictEntries es
  | _ => []

def isNestedSection : Value → Bool
  | .str s => nestedSections.contains s
  | _ => false

/-- Merges the entries of a document into a configuration: the new configuration and the
warnings. -/
def mergeDocument (path : String) (cfg : List (Value × Value)) :
    List (Value × Value) → List (Value × Value) × List String
  | [] => (cfg, [])
  | (k, v) :: rest =>
    let (cfg, notes) :=
      if isNestedSection k then
        match v with
        | .dict es =>
          let current := ((Value.lookup cfg k).getD (.dict [])).entries
          let updated := (Value.dictEntries es).foldl (fun acc e => Value.insertEntry acc e.1 e.2) current
          (Value.insertEntry cfg k (.dict updated), [])
        | .null => (cfg, [])
        | _ =>
          let name := match k with
            | .str s => quote s
            | _ => ""
          (cfg, [s!"Warning: ignoring {name} in {path}: expected a mapping"])
      else (Value.insertEntry cfg k v, [])
    let (cfg, more) := mergeDocument path cfg rest
    (cfg, notes ++ more)

/-- Reads a configuration document and merges it into the defaults: the configuration and the
notes, or the fault that stops the load. -/
def mergedConfig (t : FileTree) (base : Value) (path : String) :
    Except Fault (List (Value × Value) × List String) :=
  let defaults := base.entries
  let loaded : Except Fault (Except String Value) :=
    match t.strictText (PathName.ofText path).text with
    | .error f => if f.leavesDefaults then .ok (.error f.message) else .error f
    | .ok text =>
      match Yaml.loadDocument text with
      | .ok v => .ok (.ok v)
      | .error (.fault f) => if f.leavesDefaults then .ok (.error f.message) else .error f
      | .error e => .ok (.error (Yaml.YamlFailure.message text e))
  loaded.map fun r =>
    let r : Except String (List (Value × Value)) := match r with
      | .ok data =>
        if !data.truthy then .ok []
        else match data with
          | .dict es => .ok (Value.dictEntries es)
          | _ => .error "top level must be a mapping"
      | .error m => .error m
    match r with
    | .ok es =>
      let (cfg, notes) := mergeDocument path defaults es
      (cfg, notes ++ [s!"Loaded config from {path}"])
    | .error m => (defaults, [s!"Warning: Could not load config {path}: {m}"])

/-- Loads the configuration from a file over the given defaults, or gives the defaults
without one. -/
def loadConfigOver (t : FileTree) (base : Value) (path : Option String) : Except Fault ConfigLoad := do
  match path with
  | none => return ⟨base, []⟩
  | some "" => return ⟨base, []⟩
  | some p =>
    let (cfg, notes) ← mergedConfig t base p
    let interval ← clampInterval ((Value.lookup cfg (.str "interval")).getD .null)
    return ⟨.dict (Value.insertEntry cfg (.str "interval") (.int interval)), notes⟩

def loadConfig (t : FileTree) (path : Option String) : Except Fault ConfigLoad :=
  loadConfigOver t defaultConfig path

end HostSurvey
