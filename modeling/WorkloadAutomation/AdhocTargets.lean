import WorkloadAutomation.TargetListing

/-!
# Ad hoc target descriptions

`create_target_description` of `wa/framework/target/descriptor.py` appends a description to
the module-level list `_adhoc_target_descriptions`, which
`SimpleTargetDescriptor.get_descriptions` returns as it stands. It takes the name through
`identifier` and refuses one that equals an earlier name up to case, raising `ValueError`
and leaving the list as it was. Along every run of calls the names on the list therefore
stay distinct up to case and every source is the module path of a caller
(`registryOk_runCreates`), so that the ad hoc descriptor never trips the duplicate check of
`list_target_descriptions` on its own, and `get_target_description` finds every name on the
list (`adhoc_run_listed`).
-/

namespace WorkloadAutomation

/-- A frame of `inspect.stack()`, through the two fields `create_target_description` reads:
the path of its module and the name of its function. -/
structure Frame where
  modulePath : String
  function : String
  deriving DecidableEq, Repr

inductive AdhocError where
  | valueError (msg : String)
  | indexError (msg : String)
  deriving DecidableEq, Repr

/-- The further arguments of `create_target_description`, which it passes on to
`TargetDescription`: the classes by their names, and the parameter lists. -/
structure DescriptionArgs where
  target : Option String := none
  platform : Option String := none
  assistant : Option String := none
  conn : Option String := none
  targetParams : List Parameter := []
  platformParams : List Parameter := []
  connParams : List Parameter := []
  assistantParams : List Parameter := []
  deriving DecidableEq, Repr

/-- `TargetDescription(name, source, *args, **kwargs)`. -/
def DescriptionArgs.describe (args : DescriptionArgs) (name source : String) :
    TargetDescription where
  name := name
  source := .modulePath source
  target := args.target
  platform := args.platform
  assistant := args.assistant
  connection := args.conn
  targetParams := args.targetParams
  platformParams := args.platformParams
  connParams := args.connParams
  assistantParams := args.assistantParams

def DescriptionSource.text : DescriptionSource → String
  | .descriptor name => name
  | .modulePath path => path

/-- The source `create_target_description` records, read from `inspect.stack()[1:]`: the
caller's module, or the module of the caller's caller when the caller is
`add_description_for_target`. -/
def callerSource : List Frame → Except AdhocError String
  | [] => .error (.indexError "list index out of range")
  | f :: rest =>
    if f.function = "add_description_for_target" then
      match rest with
      | g :: _ => .ok g.modulePath
      | [] => .error (.indexError "list index out of range")
    else .ok f.modulePath

/-- One call of `create_target_description`: the name, the further arguments, and the frames
above the call. -/
structure CreateCall where
  name : String
  args : DescriptionArgs
  callers : List Frame

section Registry

variable (identifier lower : String → String)

/-- `create_target_description(name, *args, **kwargs)` on the list `registry`, called from
`callers`: the list it leaves. -/
def createTargetDescription (registry : List TargetDescription) (name : String)
    (args : DescriptionArgs) (callers : List Frame) :
    Except AdhocError (List TargetDescription) := do
  let name := identifier name
  match registry.find? (fun td => lower name == lower td.name) with
  | some td => throw (.valueError ("Target with name \"" ++ name ++
      "\" already exists (from source: " ++ td.source.text ++ ")"))
  | none =>
    let source ← callerSource callers
    pure (registry ++ [args.describe name source])

def createStep (registry : List TargetDescription) (c : CreateCall) : List TargetDescription :=
  match createTargetDescription identifier lower registry c.name c.args c.callers with
  | .ok registry' => registry'
  | .error _ => registry

def runCreates (calls : List CreateCall) : List TargetDescription :=
  calls.foldl (createStep identifier lower) []

/-- `SimpleTargetDescriptor`, whose `get_descriptions` returns the ad hoc list. -/
def simpleTargetDescriptor (registry : List TargetDescription) : TargetDescriptor :=
  ⟨"adhoc_targets", registry⟩

variable {identifier lower}

lemma createTargetDescription_eq_ok {registry registry' : List TargetDescription} {name : String}
    {args : DescriptionArgs} {callers : List Frame}
    (h : createTargetDescription identifier lower registry name args callers = .ok registry') :
    (∀ td ∈ registry, lower (identifier name) ≠ lower td.name) ∧
      ∃ source, callerSource callers = .ok source ∧
        registry' = registry ++ [args.describe (identifier name) source] := by
  simp only [createTargetDescription, bind, Except.bind] at h
  split at h
  · cases h
  · rename_i hfind
    refine ⟨fun td htd he => by simpa [he] using List.find?_eq_none.mp hfind td htd, ?_⟩
    cases hs : callerSource callers with
    | error e => simp [hs] at h
    | ok source => exact ⟨source, rfl, by simpa [hs, pure, Except.pure] using h.symm⟩

structure RegistryOk (lower : String → String) (registry : List TargetDescription) : Prop where
  caseless : (registry.map fun td => lower td.name).Nodup
  sources : ∀ td ∈ registry, ∃ path, td.source = .modulePath path

lemma registryOk_nil : RegistryOk lower [] := ⟨List.nodup_nil, fun _ h => absurd h (by simp)⟩

lemma RegistryOk.step {registry : List TargetDescription} (h : RegistryOk lower registry)
    (c : CreateCall) : RegistryOk lower (createStep identifier lower registry c) := by
  unfold createStep
  split
  · rename_i registry' hc
    obtain ⟨hfresh, source, -, rfl⟩ := createTargetDescription_eq_ok hc
    refine ⟨?_, ?_⟩
    · simp only [List.map_append, List.map_singleton, List.nodup_append, List.nodup_singleton,
        List.disjoint_singleton, List.mem_map, not_exists, not_and]
      exact ⟨h.caseless, trivial, fun td htd he => hfresh td htd he.symm⟩
    · simp only [List.mem_append, List.mem_singleton]
      rintro td (htd | rfl)
      · exact h.sources td htd
      · exact ⟨source, rfl⟩
  · exact h

lemma RegistryOk.foldl {registry : List TargetDescription} (h : RegistryOk lower registry)
    (calls : List CreateCall) : RegistryOk lower (calls.foldl (createStep identifier lower) registry) := by
  induction calls generalizing registry with
  | nil => exact h
  | cons c calls ih => exact ih (h.step c)

/-- Along every run of `create_target_description` calls, whatever each call raises, the ad hoc
list keeps its names distinct up to case and a module path as every source. -/
theorem registryOk_runCreates (calls : List CreateCall) :
    RegistryOk lower (runCreates identifier lower calls) :=
  registryOk_nil.foldl calls

lemma RegistryOk.nodup_names {registry : List TargetDescription} (h : RegistryOk lower registry) :
    (registry.map TargetDescription.name).Nodup :=
  List.Nodup.of_map lower (by rw [List.map_map]; exact h.caseless)

/-- After every run, listing descriptors whose names are distinct and not on the ad hoc list,
followed by the ad hoc descriptor, returns all their descriptions and then the ad hoc list in
the order of creation, and `get_target_description` returns each ad hoc description by its
name: the ad hoc descriptions never collide among themselves. -/
theorem adhoc_run_listed (calls : List CreateCall) (others : List TargetDescriptor)
    (hnodup : ((others.flatMap TargetDescriptor.descriptions).map TargetDescription.name).Nodup)
    (hfresh : ∀ d ∈ others.flatMap TargetDescriptor.descriptions,
      ∀ td ∈ runCreates identifier lower calls, d.name ≠ td.name) :
    listTargetDescriptions (others ++ [simpleTargetDescriptor (runCreates identifier lower calls)]) =
        .ok (others.flatMap TargetDescriptor.descriptions ++ runCreates identifier lower calls) ∧
      ∀ td ∈ runCreates identifier lower calls, getTargetDescription td.name
        (others ++ [simpleTargetDescriptor (runCreates identifier lower calls)]) = .ok td := by
  have hflat : (others ++ [simpleTargetDescriptor (runCreates identifier lower calls)]).flatMap
      TargetDescriptor.descriptions =
        others.flatMap TargetDescriptor.descriptions ++ runCreates identifier lower calls := by
    simp [simpleTargetDescriptor]
  have hall : (((others ++ [simpleTargetDescriptor (runCreates identifier lower calls)]).flatMap
      TargetDescriptor.descriptions).map TargetDescription.name).Nodup := by
    rw [hflat, List.map_append, List.nodup_append]
    refine ⟨hnodup, (registryOk_nil.foldl calls).nodup_names, fun n hn ht => ?_⟩
    obtain ⟨d, hd, rfl⟩ := List.mem_map.mp hn
    obtain ⟨td, htd, he⟩ := List.mem_map.mp ht
    exact hfresh d hd td htd he.symm
  refine ⟨hflat ▸ listTargetDescriptions_of_nodup hall, fun td htd => ?_⟩
  exact (getTargetDescription_eq_ok_iff hall td.name td).mpr
    ⟨by rw [hflat]; exact List.mem_append_right _ htd, rfl⟩

end Registry

def boardCalls : List CreateCall :=
  [⟨"board_linux", {}, [⟨"config/targets.py", "<module>"⟩]⟩]

theorem adhoc_board_listed :
    listTargetDescriptions [devlibJuno, simpleTargetDescriptor (runCreates id id boardCalls)] =
        .ok (devlibJuno.descriptions ++ runCreates id id boardCalls) ∧
      ∀ td ∈ runCreates id id boardCalls, getTargetDescription td.name
        [devlibJuno, simpleTargetDescriptor (runCreates id id boardCalls)] = .ok td :=
  adhoc_run_listed boardCalls [devlibJuno] (by decide) (by decide)

end WorkloadAutomation
