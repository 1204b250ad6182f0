import WorkloadAutomation.PyDict

/-!
# Target descriptors

`wa/framework/target/descriptor.py`: the tables `TARGETS`, `PLATFORMS`, `ASSISTANTS` and
`CONNECTION_PARAMS`, `DefaultTargetDescriptor.get_descriptions` with its helpers
`_override_params` and `_get_item`, and `list_target_descriptions`, which gathers the
descriptions of every target descriptor the plugin loader lists, keyed by name.
-/

namespace WorkloadAutomation

/-- `Parameter` of `wa.framework.plugin`, which is not among the repository's files: its
name, all that `_override_params` reads, and the rest of its keyword arguments (`kind`,
`default`, `description`, ...), which are carried along. -/
structure Parameter where
  name : String
  kwargs : List (String × String)
  deriving DecidableEq, Repr

/-- `_override_params(params, overrides)`: without overrides, `params` itself; otherwise the
dictionary from the names of `params` to their parameters, each entry whose name an
override carries replaced by that override, and overrides of other names dropped. -/
def overrideParams (params : List Parameter) (overrides : Option (List Parameter)) :
    List Parameter :=
  match overrides with
  | none | some [] => params
  | some os =>
    let paramMap := params.foldl (fun m p => m.set p.name p) PyDict.empty
    (os.foldl (fun m o => if m.contains o.name then m.set o.name o else m) paramMap).values

structure ItemTuple (κ : Type) where
  clsTuple : κ
  params : List Parameter
  defaults : Option (List Parameter)

/-- `_get_item(item_tuple)`: the class tuple, and the parameters with the defaults applied. -/
def getItem {κ : Type} (item : ItemTuple κ) : κ × List Parameter :=
  (item.clsTuple, overrideParams item.params item.defaults)

/-- A `TARGETS` value: `((target_class, conn_class, unsupported_platforms), params_list,
defaults)`. -/
abbrev TargetTuple := ItemTuple (String × String × List String)

/-- A `PLATFORMS` value: `platform_tuple[0:-1]`, that is `((platform_class, conn_class,
conn_overrides), params_list, defaults)`, and its last element `target_overrides`. -/
structure PlatformTuple where
  slice : ItemTuple (String × Option String × Option (List Parameter))
  targetOverrides : Option (List Parameter)

structure Assistant where
  name : String
  parameters : List Parameter
  deriving DecidableEq, Repr

structure DescriptorTables where
  targets : PyDict TargetTuple
  assistants : PyDict Assistant
  connectionParams : PyDict (List Parameter)
  platforms : PyDict PlatformTuple

/-- The `source` of a description: the descriptor that returned it, which has a `name`, or,
for a description made by `create_target_description`, the calling module's path, a `str`. -/
inductive DescriptionSource where
  | descriptor (name : String)
  | modulePath (path : String)
  deriving DecidableEq, Repr

/-- A `TargetDescription`, with the attributes `get_descriptions` sets and the defaults of
`TargetDescription(name, source)`. The constructor stores its `conn` argument as `connection`,
which `instantiate_target` reads; `get_descriptions` sets a separate attribute `conn`. -/
structure TargetDescription where
  name : String
  source : DescriptionSource
  target : Option String := none
  platform : Option String := none
  assistant : Option String := none
  connection : Option String := none
  conn : Option String := none
  targetParams : List Parameter := []
  platformParams : List Parameter := []
  connParams : List Parameter := []
  assistantParams : List Parameter := []
  deriving DecidableEq, Repr

structure TargetContext where
  targetName : String
  target : String
  conn : String
  unsupportedPlatforms : List String
  assistant : Assistant
  connParams : List Parameter

def devlibTargets : String := "devlib_targets"

def descriptionConn (connectionParams : PyDict (List Parameter)) (ctx : TargetContext)
    (platConn : Option String) (connDefaults : Option (List Parameter)) :
    Except KeyError (String × List Parameter) :=
  match platConn with
  | some c => (connectionParams.getItem c).map fun ps => (c, overrideParams ps connDefaults)
  | none => .ok (ctx.conn, overrideParams ctx.connParams connDefaults)

/-- The description of one platform of the target: `td = TargetDescription(name, self)` and the
attributes the loop sets on it. -/
def platformDescription (ctx : TargetContext) (platformName platform : String)
    (platformParams targetParams : List Parameter) (conn : String × List Parameter) :
    TargetDescription where
  name := platformName ++ "_" ++ ctx.targetName
  source := .descriptor devlibTargets
  target := ctx.target
  platform := platform
  assistant := ctx.assistant.name
  targetParams := targetParams
  platformParams := platformParams
  assistantParams := ctx.assistant.parameters
  conn := conn.1
  connParams := conn.2

/-- One pass of the platform loop, over the descriptions so far and the current
`target_params`. -/
def platformStep (connectionParams : PyDict (List Parameter)) (ctx : TargetContext)
    (acc : List TargetDescription × List Parameter) (entry : String × PlatformTuple) :
    Except KeyError (List TargetDescription × List Parameter) :=
  let ((platform, platConn, connDefaults), platformParams) := getItem entry.2.slice
  if platform ∈ ctx.unsupportedPlatforms then .ok acc
  else
    let targetParams := overrideParams acc.2 entry.2.targetOverrides
    (descriptionConn connectionParams ctx platConn connDefaults).map fun conn =>
      (acc.1 ++ [platformDescription ctx entry.1 platform platformParams targetParams conn],
        targetParams)

def targetStep (tables : DescriptorTables) (result : List TargetDescription)
    (entry : String × TargetTuple) : Except KeyError (List TargetDescription) := do
  let ((target, conn, unsupportedPlatforms), targetParams) := getItem entry.2
  let assistant ← tables.assistants.getItem entry.1
  let connParams ← tables.connectionParams.getItem conn
  let ctx : TargetContext :=
    ⟨entry.1, target, conn, unsupportedPlatforms, assistant, connParams⟩
  let (result, _) ← tables.platforms.items.foldlM (platformStep tables.connectionParams ctx)
    (result, targetParams)
  pure result

/-- `DefaultTargetDescriptor.get_descriptions()`. -/
def getDescriptions (tables : DescriptorTables) : Except KeyError (List TargetDescription) :=
  tables.targets.items.foldlM (targetStep tables) []

structure TargetDescriptor where
  name : String
  descriptions : List TargetDescription

inductive LoaderError where
  | pluginLoaderError (msg : String)
  | attributeError (msg : String)
  deriving DecidableEq, Repr

/-- The duplicate branch: the message reads `prev_dtor.name`, where `prev_dtor` is the
earlier description's source; a `str` source has no `name`. -/
def duplicateError (descriptor : TargetDescriptor) (prev desc : TargetDescription) :
    LoaderError :=
  match prev.source with
  | .descriptor prevName => .pluginLoaderError
      ("Duplicate target \"" ++ desc.name ++ "\" returned by " ++ prevName ++ " and " ++
        descriptor.name)
  | .modulePath _ => .attributeError "'str' object has no attribute 'name'"

def addDescription (descriptor : TargetDescriptor) (targets : PyDict TargetDescription)
    (desc : TargetDescription) : Except LoaderError (PyDict TargetDescription) :=
  match targets.get? desc.name with
  | some prev => .error (duplicateError descriptor prev desc)
  | none => .ok (targets.set desc.name desc)

/-- `list_target_descriptions(loader)`, the loader given by the descriptors it instantiates
from `loader.list_target_descriptors()`, in that order. -/
def listTargetDescriptions (loader : List TargetDescriptor) :
    Except LoaderError (List TargetDescription) :=
  (loader.foldlM (fun targets (descriptor : TargetDescriptor) =>
    descriptor.descriptions.foldlM (addDescription descriptor) targets) PyDict.empty).map
    PyDict.values

inductive LookupError where
  | loader (e : LoaderError)
  | valueError (msg : String)
  deriving DecidableEq, Repr

/-- `get_target_description(name, loader)`: the first listed description of that name. -/
def getTargetDescription (name : String) (loader : List TargetDescriptor) :
    Except LookupError TargetDescription := do
  let tdescs ← (listTargetDescriptions loader).mapError .loader
  match tdescs.find? (·.name == name) with
  | some tdesc => pure tdesc
  | none => throw (.valueError ("Could not find target descriptor \"" ++ name ++ "\""))

end WorkloadAutomation
