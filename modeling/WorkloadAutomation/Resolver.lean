import WorkloadAutomation.ResourceKinds
import WorkloadAutomation.PriorityList

/-!
# The resource resolver

`ResourceResolver` of `wa/framework/resource.py`. Getters register sources at a priority
(an integer or a `SourcePriority` level); `get` calls the sources in the order of the
priority list and returns the first path one of them finds, raising `ResourceError` when
none does and `strict` is set, and writes nothing to the resolver. Every call of `load`
initializes and registers every listed getter again, up to the first whose `initialize` or
`register` raises (the base class's `register` raises `NotImplementedError`).
-/

namespace WorkloadAutomation

/-- `SourcePriority = enum(['package', 'remote', 'lan', 'local', 'perferred'], start=0, step=10)`. -/
inductive SourcePriority where
  | package | remote | lan | «local» | perferred
  deriving DecidableEq, Repr

def SourcePriority.value : SourcePriority → Int
  | .package => 0
  | .remote => 10
  | .lan => 20
  | .local => 30
  | .perferred => 40

inductive Priority where
  | int (n : Int)
  | level (l : SourcePriority)
  deriving DecidableEq, Repr

def Priority.value : Priority → Int
  | .int n => n
  | .level l => l.value

abbrev Source := Resource → Option String

/-- `ResourceError('{} could not be found'.format(resource))`. -/
structure ResourceError where
  resource : Resource
  deriving DecidableEq, Repr

/-- A resource getter, through what `load` does with it: the outcome of `initialize()`, the
calls its `register(resolver)` makes to `resolver.register(source, priority)` in order, and
whether `register` then returns or raises. -/
structure ResourceGetter where
  initOutcome : Except String Unit
  registrations : List (Source × Priority)
  registerOutcome : Except String Unit

def ResourceGetter.inherited : ResourceGetter := ⟨.ok (), [], .error "NotImplementedError"⟩

def ResourceGetter.loads (g : ResourceGetter) : Bool :=
  g.initOutcome.toBool && g.registerOutcome.toBool

/-- The plugin loader, seen through `load`: the names of the classes
`list_plugins('resource_getter')` lists, in that order. -/
structure PluginLoader where
  classes : List String

structure ResourceResolver where
  loader : PluginLoader
  getters : List ResourceGetter
  sources : PriorityList Source

namespace ResourceResolver

/-- `ResourceResolver(loader)`. -/
def init (loader : PluginLoader) : ResourceResolver := ⟨loader, [], .empty⟩

/-- `register(source, priority=SourcePriority.local)`. -/
def register (r : ResourceResolver) (source : Source) (priority : Priority := .level .local) :
    ResourceResolver :=
  { r with sources := r.sources.add source priority.value }

def registerAll (r : ResourceResolver) (regs : List (Source × Priority)) : ResourceResolver :=
  regs.foldl (fun r e => r.register e.1 e.2) r

def loadGetters (r : ResourceResolver) : List ResourceGetter → ResourceResolver × Except String Unit
  | [] => (r, .ok ())
  | g :: gs =>
    match g.initOutcome with
    | .error e => (r, .error e)
    | .ok () =>
      match g.registerOutcome with
      | .error e => (r.registerAll g.registrations, .error e)
      | .ok () => loadGetters { r.registerAll g.registrations with getters := r.getters ++ [g] } gs

/-- `load()`, where `getPlugin name` is the getter `self.loader.get_plugin(name=name,
kind='resource_getter')` makes at this call: a new object at every call, whose `initialize`
and `register` may do otherwise than at the last. -/
def load (r : ResourceResolver) (getPlugin : String → ResourceGetter) :
    ResourceResolver × Except String Unit :=
  r.loadGetters (r.loader.classes.map getPlugin)

/-- The `for source in self.sources` loop of `get`: the sources it calls, and the first
path one of them returns. -/
def probe (resource : Resource) : List Source → List Source × Option String
  | [] => ([], none)
  | s :: rest =>
    match s resource with
    | some path => ([s], some path)
    | none => ((s :: (probe resource rest).1), (probe resource rest).2)

/-- `get(resource, strict=True)`: the sources called, and the path or the `ResourceError`. -/
def get (r : ResourceResolver) (resource : Resource) (strict : Bool := true) :
    List Source × Except ResourceError (Option String) :=
  match probe resource r.sources.toList with
  | (called, some path) => (called, .ok (some path))
  | (called, none) => (called, if strict then .error ⟨resource⟩ else .ok none)

lemma probe_append_of_none (resource : Resource) {pre : List Source}
    (h : ∀ s ∈ pre, s resource = none) (rest : List Source) :
    probe resource (pre ++ rest) = (pre ++ (probe resource rest).1, (probe resource rest).2) := by
  induction pre with
  | nil => rfl
  | cons s pre ih =>
    simp only [List.mem_cons, forall_eq_or_imp] at h
    simp [probe, h.1, ih h.2]

lemma probe_of_none (resource : Resource) {l : List Source} (h : ∀ s ∈ l, s resource = none) :
    probe resource l = (l, none) := by
  simpa [probe] using probe_append_of_none resource h []

@[simp] lemma loader_registerAll (r : ResourceResolver) (regs : List (Source × Priority)) :
    (r.registerAll regs).loader = r.loader := by
  induction regs generalizing r with
  | nil => rfl
  | cons e regs ih => exact ih (r.register e.1 e.2)

@[simp] lemma getters_registerAll (r : ResourceResolver) (regs : List (Source × Priority)) :
    (r.registerAll regs).getters = r.getters := by
  induction regs generalizing r with
  | nil => rfl
  | cons e regs ih => exact ih (r.register e.1 e.2)

@[simp] lemma sources_registerAll (r : ResourceResolver) (regs : List (Source × Priority)) :
    (r.registerAll regs).sources = r.sources.addAll (regs.map fun e => (e.1, e.2.value)) := by
  induction regs generalizing r with
  | nil => rfl
  | cons e regs ih => exact ih (r.register e.1 e.2)

lemma registerAll_eq (r : ResourceResolver) (regs : List (Source × Priority)) :
    r.registerAll regs =
      ⟨r.loader, r.getters, r.sources.addAll (regs.map fun e => (e.1, e.2.value))⟩ := by
  rw [← loader_registerAll r regs, ← getters_registerAll r regs, ← sources_registerAll]

/-- After any sequence of registrations on a new resolver, `get` calls the sources by
decreasing priority value, in registration order within a priority, stops at the first
that finds a path and returns it; if none does it raises when `strict` and returns `None`
otherwise. -/
theorem get_first_match_by_priority (loader : PluginLoader) (regs : List (Source × Priority))
    (resource : Resource) (strict : Bool) :
    let r := (init loader).registerAll regs
    let order := r.sources.entries
    r.sources.toList = order.map Prod.fst ∧
    order.Pairwise (fun a b => b.2 ≤ a.2) ∧
    (∀ v, order.filter (fun e => e.2 = v) =
      (regs.map fun e => (e.1, e.2.value)).filter (fun e => e.2 = v)) ∧
    (∀ pre s post path, order = pre ++ s :: post → (∀ t ∈ pre, t.1 resource = none) →
      s.1 resource = some path → r.get resource strict = (pre.map Prod.fst ++ [s.1], .ok (some path))) ∧
    ((∀ t ∈ order, t.1 resource = none) →
      r.get resource strict = (order.map Prod.fst, if strict then .error ⟨resource⟩ else .ok none)) := by
  intro r order
  refine ⟨PriorityList.toList_eq_map_entries _, PriorityList.entries_pairwise _, fun v => ?_,
    fun pre s post path horder hpre hs => ?_, fun hnone => ?_⟩
  · simpa [order, r, sources_registerAll, init, PriorityList.empty, PriorityList.entries] using
      PriorityList.filter_entries_addAll PriorityList.empty (regs.map fun e => (e.1, e.2.value)) v
  · have hpre' : ∀ t ∈ pre.map Prod.fst, t resource = none := List.forall_mem_map.mpr hpre
    rw [get, PriorityList.toList_eq_map_entries, ← show order = r.sources.entries from rfl, horder,
      List.map_append, probe_append_of_none resource hpre']
    simp [probe, hs]
  · have hall : ∀ t ∈ order.map Prod.fst, t resource = none := List.forall_mem_map.mpr hnone
    rw [get, PriorityList.toList_eq_map_entries, ← show order = r.sources.entries from rfl,
      probe_of_none resource hall]

def loadedGetters (gs : List ResourceGetter) : List ResourceGetter :=
  gs.takeWhile ResourceGetter.loads

def loadRegistrations : List ResourceGetter → List (Source × Int)
  | [] => []
  | g :: gs =>
    if g.initOutcome.toBool then
      g.registrations.map (fun e => (e.1, e.2.value)) ++
        if g.registerOutcome.toBool then loadRegistrations gs else []
    else []

lemma loadGetters_fst :
    ∀ (gs : List ResourceGetter) (r : ResourceResolver),
      (r.loadGetters gs).1 =
        ⟨r.loader, r.getters ++ loadedGetters gs, r.sources.addAll (loadRegistrations gs)⟩
  | [], r => by simp [loadGetters, loadedGetters, loadRegistrations, PriorityList.addAll]
  | g :: gs, r => by
    cases hi : g.initOutcome with
    | error e =>
      simp [loadGetters, hi, loadedGetters, ResourceGetter.loads, Except.toBool, loadRegistrations,
        PriorityList.addAll]
    | ok u =>
      cases hr : g.registerOutcome with
      | error e =>
        simp [loadGetters, hi, hr, loadedGetters, ResourceGetter.loads, Except.toBool,
          loadRegistrations, registerAll_eq]
      | ok u' =>
        simp only [loadGetters, hi, hr]
        rw [loadGetters_fst gs]
        simp [loadedGetters, ResourceGetter.loads, hi, hr, Except.toBool, loadRegistrations,
          PriorityList.addAll, List.foldl_append]

/-- `n` calls of `load` on a new resolver, `get_plugin` making getters that behave alike at
every call. -/
def loadTimes (loader : PluginLoader) (getPlugin : String → ResourceGetter) (n : Nat) :
    ResourceResolver :=
  (fun r => (r.load getPlugin).1)^[n] (init loader)

/-- Each `load` initializes and registers every listed getter once more, up to the first
whose `initialize` or `register` raises: after `n` loads the getters list holds the getters
one load appends `n` times over, and every priority tier holds the registrations one load
makes at that priority `n` times over. -/
theorem load_repeats_registration (loader : PluginLoader) (getPlugin : String → ResourceGetter)
    (n : Nat) :
    (loadTimes loader getPlugin n).getters =
        (List.replicate n (loadedGetters (loader.classes.map getPlugin))).flatten ∧
      ∀ v, (loadTimes loader getPlugin n).sources.entries.filter (fun e => e.2 = v) =
        (List.replicate n ((loadRegistrations (loader.classes.map getPlugin)).filter
          fun e => e.2 = v)).flatten := by
  have hrun : loadTimes loader getPlugin n = ⟨loader,
      (List.replicate n (loadedGetters (loader.classes.map getPlugin))).flatten,
      PriorityList.empty.addAll
        (List.replicate n (loadRegistrations (loader.classes.map getPlugin))).flatten⟩ := by
    induction n with
    | zero => rfl
    | succ n ih =>
      rw [loadTimes, Function.iterate_succ_apply', ← loadTimes, ih, load, loadGetters_fst]
      simp [List.replicate_succ', PriorityList.addAll, List.foldl_append]
  rw [hrun]
  refine ⟨rfl, fun v => ?_⟩
  rw [PriorityList.filter_entries_addAll]
  simp [PriorityList.empty, PriorityList.entries, List.filter_flatten, List.map_replicate]

def oneGetterLoader : PluginLoader := ⟨["filer"]⟩

def filer : ResourceGetter := ⟨.ok (), [(fun _ => none, .level .local)], .ok ()⟩

theorem load_twice_duplicates :
    (loadTimes oneGetterLoader (fun _ => filer) 2).getters.length = 2 ∧
    (loadTimes oneGetterLoader (fun _ => filer) 2).sources.toList.length = 2 ∧
    (loadTimes oneGetterLoader (fun _ => filer) 1).getters.length = 1 ∧
    (loadTimes oneGetterLoader (fun _ => filer) 1).sources.toList.length = 1 := by
  decide

example : (loadTimes ⟨["filer", "base"]⟩
    (fun n => if n = "filer" then filer else .inherited) 3).getters.length = 3 := by
  decide

/-- A call that changes the resolver; `get` writes nothing to it. A load carries the getters
`get_plugin` makes at it. -/
inductive Call where
  | register (source : Source) (priority : Priority)
  | load (getPlugin : String → ResourceGetter)

def Call.apply (r : ResourceResolver) : Call → ResourceResolver
  | .register source priority => r.register source priority
  | .load getPlugin => (r.load getPlugin).1

def Call.getters (loader : PluginLoader) : Call → List ResourceGetter
  | .register _ _ => []
  | .load getPlugin => loadedGetters (loader.classes.map getPlugin)

def Call.registrations (loader : PluginLoader) : Call → List (Source × Int)
  | .register source priority => [(source, priority.value)]
  | .load getPlugin => loadRegistrations (loader.classes.map getPlugin)

lemma apply_eq (r : ResourceResolver) (c : Call) :
    c.apply r = ⟨r.loader, r.getters ++ c.getters r.loader,
      r.sources.addAll (c.registrations r.loader)⟩ := by
  cases c with
  | register source priority =>
    simp [Call.apply, register, Call.getters, Call.registrations, PriorityList.addAll]
  | load getPlugin => exact loadGetters_fst _ r

lemma foldl_apply_eq (calls : List Call) (r : ResourceResolver) :
    calls.foldl Call.apply r = ⟨r.loader, r.getters ++ calls.flatMap (Call.getters r.loader),
      r.sources.addAll (calls.flatMap (Call.registrations r.loader))⟩ := by
  induction calls generalizing r with
  | nil => simp [PriorityList.addAll]
  | cons c calls ih =>
    rw [List.foldl_cons, ih, apply_eq]
    simp [PriorityList.addAll, List.foldl_append]

/-- Along every run of `register` and `load` calls on a new resolver, loads stopped by a
getter's `initialize` or `register` included, the getters are those the loads appended, in
order, and each priority holds the registrations made at that priority, in the order they
were made. -/
theorem run_keeps_registrations (loader : PluginLoader) (calls : List Call) :
    let r := calls.foldl Call.apply (init loader)
    r.getters = calls.flatMap (Call.getters loader) ∧
      ∀ v, r.sources.entries.filter (fun e => e.2 = v) =
        (calls.flatMap (Call.registrations loader)).filter (fun e => e.2 = v) := by
  intro r
  refine ⟨by simp [r, foldl_apply_eq, init], fun v => ?_⟩
  simp only [r, foldl_apply_eq, PriorityList.filter_entries_addAll]
  rfl

end ResourceResolver

end WorkloadAutomation
