import WorkloadAutomation.TargetDescriptor

/-!
# Instantiating a target from its description

`instantiate_target` of `wa/framework/target/descriptor.py` turns a target description and the
user's parameters into the call of the description's target class: it seeds the target's,
the platform's and the connection's keyword arguments with the true defaults of their
parameters and sends each given value to the first of the three point maps that keys its
name (`instantiateTarget_routes`), raising `ValueError` for a name no map keys and
`RuntimeError` for an extra platform parameter that repeats a platform argument. A value
given under an alias of an assistant parameter is accepted and then reaches neither the
target nor `instantiate_assistant` (`dropped_value_unused`).
-/

namespace WorkloadAutomation

/-- What `instantiate_target`, `instantiate_assistant` and `get_default_config` read through
code outside the repository: a parameter's `default` and `deprecated`, the truth value of a
configuration value, and `get_config_point_map`, which keys a list of parameters by their
names and aliases. -/
structure ParamSchema (V : Type) where
  default : Parameter → V
  deprecated : Parameter → Bool
  truthy : V → Bool
  configPointMap : List Parameter → PyDict Parameter

inductive InstantiateError where
  | valueError (msg : String)
  | runtimeError (msg : String)
  | typeError (msg : String)
  deriving DecidableEq, Repr

/-- A keyword argument of the target class: a configuration value, or one of the entries
`instantiate_target` adds itself. -/
inductive TargetArg (V : Type) where
  | value (v : V)
  | platform (cls : String) (kwargs : PyDict V)
  | connectionSettings (settings : PyDict V)
  | connCls (cls : String)
  | connect (flag : Bool)

structure ClassCall (A : Type) where
  cls : String
  kwargs : PyDict A

structure AssistantCall (T V : Type) where
  cls : String
  target : T
  kwargs : PyDict V

structure PointMaps where
  target : PyDict Parameter
  platform : PyDict Parameter
  conn : PyDict Parameter
  assistant : PyDict Parameter

structure Gathered (V : Type) where
  tp : PyDict V
  pp : PyDict V
  cp : PyDict V

inductive Dest where
  | target
  | platform
  | conn
  | dropped
  deriving DecidableEq, Repr

def Gathered.put {V : Type} (g : Gathered V) (dest : Dest) (name : String) (value : V) :
    Gathered V :=
  match dest with
  | .target => { g with tp := g.tp.set name value }
  | .platform => { g with pp := g.pp.set name value }
  | .conn => { g with cp := g.cp.set name value }
  | .dropped => g

section Instantiate

variable {V : Type} (S : ParamSchema V)

def pointMaps (tdesc : TargetDescription) : PointMaps :=
  ⟨S.configPointMap tdesc.targetParams, S.configPointMap tdesc.platformParams,
    S.configPointMap tdesc.connParams, S.configPointMap tdesc.assistantParams⟩

/-- The first loop of `instantiate_target` over one point map: the true default of every entry
keyed by its parameter's own name rather than an alias. -/
def pointDefaults (m : PyDict Parameter) : PyDict V :=
  m.items.foldl (fun d e =>
    if S.truthy (S.default e.2) && e.1 == e.2.name then d.set e.1 (S.default e.2) else d)
    PyDict.empty

def routeParam (tdescName : String) (maps : PointMaps) (g : Gathered V) (name : String)
    (value : V) : Except InstantiateError (Gathered V) :=
  match maps.target.get? name with
  | some p => .ok (if S.deprecated p then g else { g with tp := g.tp.set name value })
  | none =>
    match maps.platform.get? name with
    | some p => .ok (if S.deprecated p then g else { g with pp := g.pp.set name value })
    | none =>
      match maps.conn.get? name with
      | some p => .ok (if S.deprecated p then g else { g with cp := g.cp.set name value })
      | none =>
        if maps.assistant.contains name then .ok g
        else .error (.valueError ("Unexpected parameter for " ++ tdescName ++ ": " ++ name))

def addExtra (pp : PyDict V) (name : String) (value : V) : Except InstantiateError (PyDict V) :=
  if pp.contains name then .error (.runtimeError ("Platform parameter clash: " ++ name))
  else .ok (pp.set name value)

/-- The keyword arguments of the target class: the gathered target arguments, then `platform`,
the platform class called with the platform arguments, `connection_settings` when there are
connection arguments, `conn_cls` and `connect` when given. -/
def targetKwargs (platformCls : String) (connection : Option String) (connect : Option Bool)
    (tp pp cp : PyDict V) : PyDict (TargetArg V) :=
  let tp := (tp.map TargetArg.value).set "platform" (.platform platformCls pp)
  let tp := if cp.items.isEmpty then tp else tp.set "connection_settings" (.connectionSettings cp)
  let tp := match connection with
    | some c => tp.set "conn_cls" (.connCls c)
    | none => tp
  match connect with
  | some b => tp.set "connect" (.connect b)
  | none => tp

/-- `instantiate_target(tdesc, params, connect, extra_platform_params)`. -/
def instantiateTarget (tdesc : TargetDescription) (params : PyDict V) (connect : Option Bool) (extraPlatformParams : Option (PyDict V)) :
    Except InstantiateError (ClassCall (TargetArg V)) := do
  let maps := pointMaps S tdesc
  let g ← params.items.foldlM (fun g e => routeParam S tdesc.name maps g e.1 e.2)
    ⟨pointDefaults S maps.target, pointDefaults S maps.platform, pointDefaults S maps.conn⟩
  let pp ← (extraPlatformParams.getD PyDict.empty).items.foldlM (fun pp e => addExtra pp e.1 e.2)
    g.pp
  match tdesc.target with
  | some cls => pure ⟨cls, targetKwargs (tdesc.platform.getD "Platform") tdesc.connection connect g.tp pp g.cp⟩
  | none => throw (.typeError "'NoneType' object is not callable")

/-- The keyword arguments the loop of `instantiate_assistant` gathers: for each assistant
parameter, the value given under its name, or else its default when that is true. -/
def assistantKwargs (tdesc : TargetDescription) (params : PyDict V) : PyDict V :=
  tdesc.assistantParams.foldl (fun a param =>
    match params.get? param.name with
    | some v => a.set param.name v
    | none => if S.truthy (S.default param) then a.set param.name (S.default param) else a)
    PyDict.empty

/-- `instantiate_assistant(tdesc, params, target)`. -/
def instantiateAssistant {T : Type} (tdesc : TargetDescription) (params : PyDict V) (target : T) :
    Except InstantiateError (AssistantCall T V) :=
  match tdesc.assistant with
  | some cls => .ok ⟨cls, target, assistantKwargs S tdesc params⟩
  | none => .error (.typeError "'NoneType' object is not callable")

/-- `TargetDescription.get_default_config()`. -/
def getDefaultConfig (tdesc : TargetDescription) : PyDict V :=
  [tdesc.targetParams, tdesc.platformParams, tdesc.connParams, tdesc.assistantParams].foldl
    (fun config ps => ps.foldl (fun config p =>
      if S.deprecated p then config else config.set p.name (S.default p)) config)
    PyDict.empty

def PointMaps.of (maps : PointMaps) : Dest → PyDict Parameter
  | .target => maps.target
  | .platform => maps.platform
  | .conn => maps.conn
  | .dropped => PyDict.empty

def Gathered.field {V : Type} (g : Gathered V) : Dest → PyDict V
  | .target => g.tp
  | .platform => g.pp
  | .conn => g.cp
  | .dropped => PyDict.empty

/-- Where a value given under `name` goes: the first of the target, platform and connection
maps that keys the name decides, and a deprecated entry there drops the value; a name that
only the assistant's map keys is dropped, and `none` stands for a name no map keys. -/
def destination (maps : PointMaps) (name : String) : Option Dest :=
  match maps.target.get? name, maps.platform.get? name, maps.conn.get? name with
  | some p, _, _ => some (if S.deprecated p then .dropped else .target)
  | none, some p, _ => some (if S.deprecated p then .dropped else .platform)
  | none, none, some p => some (if S.deprecated p then .dropped else .conn)
  | none, none, none => if maps.assistant.contains name then some .dropped else none

def routedValue (maps : PointMaps) (params : PyDict V) (dest : Dest) (name : String) : Option V :=
  if destination S maps name = some dest then
    (params.get? name).or ((pointDefaults S (maps.of dest)).get? name)
  else (pointDefaults S (maps.of dest)).get? name

lemma routeParam_eq (tdescName : String) (maps : PointMaps) (g : Gathered V) (name : String)
    (value : V) :
    routeParam S tdescName maps g name value =
      match destination S maps name with
      | some dest => .ok (g.put dest name value)
      | none => .error (.valueError ("Unexpected parameter for " ++ tdescName ++ ": " ++ name)) := by
  unfold routeParam destination
  cases maps.target.get? name with
  | some p => by_cases hd : S.deprecated p <;> simp [hd, Gathered.put]
  | none =>
    cases maps.platform.get? name with
    | some p => by_cases hd : S.deprecated p <;> simp [hd, Gathered.put]
    | none =>
      cases maps.conn.get? name with
      | some p => by_cases hd : S.deprecated p <;> simp [hd, Gathered.put]
      | none => by_cases ha : maps.assistant.contains name <;> simp [ha, Gathered.put]

lemma field_put {g : Gathered V} {dest dest' : Dest} (h : dest' ≠ .dropped) (name : String)
    (value : V) :
    (g.put dest name value).field dest' =
      if dest = dest' then (g.field dest').set name value else g.field dest' := by
  cases dest <;> cases dest' <;> simp_all [Gathered.put, Gathered.field]

lemma foldlM_routeParam (tdescName : String) (maps : PointMaps) (items : List (String × V))
    (h : ∀ e ∈ items, destination S maps e.1 ≠ none) (g : Gathered V) :
    items.foldlM (fun g e => routeParam S tdescName maps g e.1 e.2) g =
      .ok (items.foldl (fun (g : Gathered V) e =>
        g.put ((destination S maps e.1).getD .dropped) e.1 e.2) g) := by
  induction items generalizing g with
  | nil => rfl
  | cons e items ih =>
    obtain ⟨dest, hd⟩ := Option.ne_none_iff_exists'.mp (h e (List.mem_cons_self _ _))
    rw [List.foldlM_cons, routeParam_eq, hd]
    simpa [hd] using ih (fun e' he' => h e' (List.mem_cons_of_mem _ he')) _

lemma foldlM_routeParam_error (tdescName : String) (maps : PointMaps)
    {pre post : List (String × V)} {name : String} {value : V}
    (hpre : ∀ e ∈ pre, destination S maps e.1 ≠ none) (hname : destination S maps name = none)
    (g : Gathered V) :
    (pre ++ (name, value) :: post).foldlM (fun g e => routeParam S tdescName maps g e.1 e.2) g =
      .error (.valueError ("Unexpected parameter for " ++ tdescName ++ ": " ++ name)) := by
  rw [List.foldlM_append, foldlM_routeParam S tdescName maps pre hpre g]
  simp [bind, Except.bind, routeParam_eq, hname]

lemma field_foldl_put (maps : PointMaps) (items : List (String × V)) {dest : Dest}
    (hdest : dest ≠ .dropped) (g : Gathered V) :
    (items.foldl (fun (g : Gathered V) e =>
      g.put ((destination S maps e.1).getD .dropped) e.1 e.2) g).field dest =
      items.foldl (fun d e => if destination S maps e.1 == some dest then d.set e.1 e.2 else d)
        (g.field dest) := by
  induction items generalizing g with
  | nil => rfl
  | cons e items ih =>
    rw [List.foldl_cons, List.foldl_cons, ih, field_put hdest]
    congr 1
    cases hd : destination S maps e.1 with
    | none => simp [Ne.symm hdest]
    | some d => by_cases h : d = dest <;> simp [h]

def routeAll (maps : PointMaps) (params : PyDict V) : Gathered V :=
  params.items.foldl (fun g e => g.put ((destination S maps e.1).getD .dropped) e.1 e.2)
    ⟨pointDefaults S maps.target, pointDefaults S maps.platform, pointDefaults S maps.conn⟩

lemma get?_routeAll (maps : PointMaps) (params : PyDict V) {dest : Dest}
    (hdest : dest ≠ .dropped) (name : String) :
    ((routeAll S maps params).field dest).get? name = routedValue S maps params dest name := by
  have h := PyDict.get?_foldl_set_items params (fun n => destination S maps n == some dest) id
  simp only [id] at h
  rw [routeAll, field_foldl_put S maps _ hdest, h]
  cases dest <;> simp [routedValue, Gathered.field, PointMaps.of] at hdest ⊢

lemma destination_eq_none_iff (maps : PointMaps) (name : String) :
    destination S maps name = none ↔ maps.target.get? name = none ∧
      maps.platform.get? name = none ∧ maps.conn.get? name = none ∧
      maps.assistant.contains name = false := by
  unfold destination
  split <;> simp_all

lemma foldlM_addExtra (items : List (String × V)) (hkeys : (items.map Prod.fst).Nodup)
    (pp : PyDict V) (hfree : ∀ e ∈ items, pp.get? e.1 = none) :
    items.foldlM (fun pp e => addExtra pp e.1 e.2) pp =
      .ok (items.foldl (fun pp e => pp.set e.1 e.2) pp) := by
  induction items generalizing pp with
  | nil => rfl
  | cons e items ih =>
    rw [List.map_cons, List.nodup_cons] at hkeys
    have hstep : addExtra pp e.1 e.2 = .ok (pp.set e.1 e.2) := by
      simp [addExtra, PyDict.contains, hfree e (List.mem_cons_self _ _)]
    rw [List.foldlM_cons, hstep]
    refine ih hkeys.2 _ fun e' he' => ?_
    have hne : e'.1 ≠ e.1 := fun heq => hkeys.1 (heq ▸ List.mem_map_of_mem _ he')
    rw [PyDict.get?_set_ne _ _ hne]
    exact hfree e' (List.mem_cons_of_mem _ he')

lemma foldlM_addExtra_clash {pre post : List (String × V)} {name : String} {value : V}
    (hkeys : ((pre ++ (name, value) :: post).map Prod.fst).Nodup) (pp : PyDict V)
    (hpre : ∀ e ∈ pre, pp.get? e.1 = none) (hname : pp.get? name ≠ none) :
    (pre ++ (name, value) :: post).foldlM (fun pp e => addExtra pp e.1 e.2) pp =
      .error (.runtimeError ("Platform parameter clash: " ++ name)) := by
  rw [List.map_append, List.nodup_append] at hkeys
  have hout : name ∉ pre.map Prod.fst := fun h => hkeys.2.2 h (List.mem_cons_self _ _)
  have hkept : (pre.foldl (fun pp e => pp.set e.1 e.2) pp).get? name = pp.get? name := by
    have h := PyDict.get?_foldl_set pre Prod.fst (fun _ => true) Prod.snd pp name
    simp only [if_true, Bool.true_and] at h
    rw [h, List.filter_eq_nil_iff.mpr fun e he hn =>
      hout (List.mem_map.mpr ⟨e, he, by simpa using hn⟩)]
    rfl
  rw [List.foldlM_append, foldlM_addExtra pre hkeys.1 pp hpre]
  simp [bind, Except.bind, addExtra, PyDict.contains, hkept, Option.isSome_iff_ne_none.mpr hname]

lemma instantiateTarget_of_keyed {tdesc : TargetDescription} {params : PyDict V}
    (connect : Option Bool) (extra : Option (PyDict V))
    (hkeyed : ∀ n ∈ params.keys, destination S (pointMaps S tdesc) n ≠ none) :
    instantiateTarget S tdesc params connect extra = (do
      let pp ← (extra.getD PyDict.empty).items.foldlM (fun pp e => addExtra pp e.1 e.2)
        (routeAll S (pointMaps S tdesc) params).pp
      match tdesc.target with
      | some cls => pure ⟨cls, targetKwargs (tdesc.platform.getD "Platform") tdesc.connection connect
          (routeAll S (pointMaps S tdesc) params).tp pp (routeAll S (pointMaps S tdesc) params).cp⟩
      | none => throw (.typeError "'NoneType' object is not callable")) := by
  rw [instantiateTarget, foldlM_routeParam S _ _ _ fun e he => hkeyed e.1 (List.mem_map_of_mem _ he)]
  rfl

/-- A schema for the examples: a parameter's default and deprecation are its `default` and
`deprecated` keyword arguments, the empty string is false, and a list is keyed by its
parameters' names and by the names their `aliases` keyword arguments give, one entry per
alias. -/
def kwargSchema : ParamSchema String where
  default p := (p.kwargs.lookup "default").getD ""
  deprecated p := p.kwargs.lookup "deprecated" == some "True"
  truthy v := v != ""
  configPointMap ps := ps.foldl (fun m p =>
    (p.kwargs.filter fun kv => kv.1 == "aliases").foldl (fun m kv => m.set kv.2 p) (m.set p.name p))
    PyDict.empty

def sampleBoard : TargetDescription where
  name := "board_linux"
  source := .modulePath "config/targets.py"
  target := some "LinuxTarget"
  connection := some "SshConnection"
  assistant := some "LinuxAssistant"
  targetParams := [⟨"working_directory", []⟩]
  platformParams := [⟨"core_names", [("default", "a53")]⟩]
  connParams := [⟨"host", []⟩, ⟨"password", [("deprecated", "True")]⟩]
  assistantParams := [⟨"logcat_poll_period", [("aliases", "poll_period")]⟩]

def boardParams : PyDict String :=
  ⟨[("working_directory", "/tmp/wa"), ("host", "board"), ("password", "secret"),
    ("logcat_poll_period", "2")], by decide⟩

def boardModules : PyDict String := ⟨[("modules", "cpufreq")], by decide⟩

/-- Once every given name is keyed and the extra platform parameters name nothing the platform
already receives, `instantiate_target` calls the target class with what `routedValue` says
for the target and the connection, and for the platform the extra parameters over what
`routedValue` says. -/
theorem instantiateTarget_routes (tdesc : TargetDescription) (params : PyDict V) (connect : Option Bool) (extra : Option (PyDict V)) {cls : String}
    (hkeyed : ∀ n ∈ params.keys, destination S (pointMaps S tdesc) n ≠ none)
    (hfree : ∀ n ∈ (extra.getD PyDict.empty).keys,
      routedValue S (pointMaps S tdesc) params .platform n = none)
    (htarget : tdesc.target = some cls) :
    ∃ g : Gathered V,
      instantiateTarget S tdesc params connect extra =
        .ok ⟨cls, targetKwargs (tdesc.platform.getD "Platform") tdesc.connection connect g.tp g.pp g.cp⟩ ∧
      ∀ n, g.tp.get? n = routedValue S (pointMaps S tdesc) params .target n ∧
        g.pp.get? n = ((extra.getD PyDict.empty).get? n).or
          (routedValue S (pointMaps S tdesc) params .platform n) ∧
        g.cp.get? n = routedValue S (pointMaps S tdesc) params .conn n := by
  have hpp : ∀ n, (routeAll S (pointMaps S tdesc) params).pp.get? n = routedValue S (pointMaps S tdesc) params .platform n :=
    get?_routeAll S _ params (by decide : Dest.platform ≠ .dropped)
  refine ⟨⟨(routeAll S (pointMaps S tdesc) params).tp, (extra.getD PyDict.empty).items.foldl
    (fun pp e => pp.set e.1 e.2) (routeAll S (pointMaps S tdesc) params).pp,
    (routeAll S (pointMaps S tdesc) params).cp⟩,
    ?_, fun n => ⟨get?_routeAll S _ params (by decide : Dest.target ≠ .dropped) n, ?_,
      get?_routeAll S _ params (by decide : Dest.conn ≠ .dropped) n⟩⟩
  · rw [instantiateTarget_of_keyed S connect extra hkeyed,
      foldlM_addExtra _ (extra.getD PyDict.empty).nodup _ fun e he =>
        (hpp e.1).trans (hfree e.1 (List.mem_map_of_mem _ he))]
    simp [htarget, bind, Except.bind, pure, Except.pure]
  · have h := PyDict.get?_foldl_set_items (extra.getD PyDict.empty) (fun _ => true) id
      (routeAll S (pointMaps S tdesc) params).pp n
    simp only [if_true, id, Option.map_id'] at h
    rw [h, hpp, Option.map_id, id]

theorem instantiateTarget_routes_board :
    ∃ g : Gathered String,
      instantiateTarget kwargSchema sampleBoard boardParams (some true) (some boardModules) =
        .ok ⟨"LinuxTarget", targetKwargs "Platform" (some "SshConnection") (some true)
          g.tp g.pp g.cp⟩ ∧
      ∀ n, g.tp.get? n = routedValue kwargSchema (pointMaps kwargSchema sampleBoard) boardParams
          .target n ∧
        g.pp.get? n = (boardModules.get? n).or
          (routedValue kwargSchema (pointMaps kwargSchema sampleBoard) boardParams .platform n) ∧
        g.cp.get? n = routedValue kwargSchema (pointMaps kwargSchema sampleBoard) boardParams
          .conn n :=
  instantiateTarget_routes kwargSchema sampleBoard boardParams (some true) (some boardModules)
    (by decide) (by decide) rfl

/-- `instantiate_target` raises `ValueError` at the first given name that no point map keys,
before it reads the extra platform parameters or the target class. -/
theorem instantiateTarget_unexpected (tdesc : TargetDescription) (params : PyDict V)
    (connect : Option Bool) (extra : Option (PyDict V)) {pre post : List (String × V)}
    {name : String} {value : V} (hsplit : params.items = pre ++ (name, value) :: post)
    (hpre : ∀ e ∈ pre, destination S (pointMaps S tdesc) e.1 ≠ none)
    (hname : destination S (pointMaps S tdesc) name = none) :
    instantiateTarget S tdesc params connect extra =
      .error (.valueError ("Unexpected parameter for " ++ tdesc.name ++ ": " ++ name)) := by
  rw [instantiateTarget, hsplit, foldlM_routeParam_error S _ _ hpre hname]
  rfl

theorem instantiateTarget_unexpected_port :
    instantiateTarget kwargSchema sampleBoard
        ⟨[("host", "board"), ("port", "22")], by decide⟩ none none =
      .error (.valueError ("Unexpected parameter for " ++ "board_linux" ++ ": " ++ "port")) :=
  instantiateTarget_unexpected kwargSchema sampleBoard ⟨[("host", "board"), ("port", "22")], by decide⟩
    none none (show _ = [("host", "board")] ++ ("port", "22") :: [] from rfl)
    (by decide) (by decide)

/-- Once every given name is keyed, `instantiate_target` raises `RuntimeError` at the first
extra platform parameter whose name the platform already receives, from the user or as a
default. -/
theorem instantiateTarget_clash (tdesc : TargetDescription) (params : PyDict V)
    (connect : Option Bool) (extra : PyDict V) {pre post : List (String × V)} {name : String}
    {value : V} (hkeyed : ∀ n ∈ params.keys, destination S (pointMaps S tdesc) n ≠ none)
    (hsplit : extra.items = pre ++ (name, value) :: post)
    (hpre : ∀ e ∈ pre, routedValue S (pointMaps S tdesc) params .platform e.1 = none)
    (hname : routedValue S (pointMaps S tdesc) params .platform name ≠ none) :
    instantiateTarget S tdesc params connect (some extra) =
      .error (.runtimeError ("Platform parameter clash: " ++ name)) := by
  have hpp : ∀ n, (routeAll S (pointMaps S tdesc) params).pp.get? n =
      routedValue S (pointMaps S tdesc) params .platform n :=
    get?_routeAll S _ params (by decide : Dest.platform ≠ .dropped)
  rw [instantiateTarget_of_keyed S connect _ hkeyed, Option.getD_some, hsplit,
    foldlM_addExtra_clash (hsplit ▸ extra.nodup) _ (fun e he => (hpp e.1).trans (hpre e he))
      ((hpp name).trans_ne hname)]
  rfl

theorem instantiateTarget_clash_core_names :
    instantiateTarget kwargSchema sampleBoard boardParams none
        (some ⟨[("core_names", "a72")], by decide⟩) =
      .error (.runtimeError ("Platform parameter clash: " ++ "core_names")) :=
  instantiateTarget_clash kwargSchema sampleBoard boardParams none ⟨[("core_names", "a72")], by decide⟩
    (by decide) (show _ = [] ++ ("core_names", "a72") :: [] from rfl) (by decide)
    (by decide)

lemma getDefaultConfig_get? (tdesc : TargetDescription) (n : String) :
    (getDefaultConfig S tdesc).get? n =
      ((tdesc.targetParams ++ tdesc.platformParams ++ tdesc.connParams ++
        tdesc.assistantParams).filter fun p => !S.deprecated p && p.name == n).getLast?.map
        S.default := by
  have hstep : ∀ (config : PyDict V) p,
      (if S.deprecated p then config else config.set p.name (S.default p)) =
        if (!S.deprecated p) = true then config.set p.name (S.default p) else config :=
    fun config p => by cases S.deprecated p <;> rfl
  simp only [getDefaultConfig, List.foldl_cons, List.foldl_nil, ← List.foldl_append, hstep]
  rw [PyDict.get?_foldl_set, PyDict.get?_empty, Option.or_none]

lemma mem_keys_getDefaultConfig {tdesc : TargetDescription} {n : String}
    (hn : n ∈ (getDefaultConfig S tdesc).keys) :
    ∃ p ∈ tdesc.targetParams ++ tdesc.platformParams ++ tdesc.connParams ++ tdesc.assistantParams,
      p.name = n := by
  have hsome : (getDefaultConfig S tdesc).get? n ≠ none := fun h => PyDict.get?_eq_none_iff.mp h hn
  rw [getDefaultConfig_get?] at hsome
  obtain ⟨p, hp⟩ := Option.ne_none_iff_exists'.mp (mt Option.map_eq_none'.mpr hsome)
  obtain ⟨hmem, hname⟩ := List.mem_filter.mp (List.mem_of_mem_getLast? hp)
  exact ⟨p, hmem, (by simpa using hname : _ ∧ p.name = n).2⟩

/-- When each point map keys the names of its own list's parameters, `instantiate_target`
accepts the configuration `get_default_config` returns: every name in it is a parameter's, so
none is unexpected, and the target class is called with what `routedValue` says. -/
theorem instantiateTarget_defaultConfig (tdesc : TargetDescription) (connect : Option Bool)
    {cls : String}
    (hmap : ∀ ps ∈ [tdesc.targetParams, tdesc.platformParams, tdesc.connParams,
      tdesc.assistantParams], ∀ p ∈ ps, p.name ∈ (S.configPointMap ps).keys)
    (htarget : tdesc.target = some cls) :
    ∃ g : Gathered V,
      instantiateTarget S tdesc (getDefaultConfig S tdesc) connect none =
        .ok ⟨cls, targetKwargs (tdesc.platform.getD "Platform") tdesc.connection connect g.tp g.pp g.cp⟩ ∧
      ∀ dest, dest ≠ .dropped → ∀ n, (g.field dest).get? n =
        routedValue S (pointMaps S tdesc) (getDefaultConfig S tdesc) dest n := by
  have hkeyed : ∀ n ∈ (getDefaultConfig S tdesc).keys,
      destination S (pointMaps S tdesc) n ≠ none := by
    intro n hn hnone
    obtain ⟨p, hp, rfl⟩ := mem_keys_getDefaultConfig S hn
    obtain ⟨ht, hpl, hc, ha⟩ := (destination_eq_none_iff S _ _).mp hnone
    simp only [List.mem_append] at hp
    rcases hp with ((hp | hp) | hp) | hp
    · exact PyDict.get?_eq_none_iff.mp ht (hmap _ (by simp) p hp)
    · exact PyDict.get?_eq_none_iff.mp hpl (hmap _ (by simp) p hp)
    · exact PyDict.get?_eq_none_iff.mp hc (hmap _ (by simp) p hp)
    · exact absurd (PyDict.contains_iff.mpr (hmap _ (by simp) p hp)) (by simp [pointMaps] at ha ⊢; simp [ha])
  refine ⟨routeAll S (pointMaps S tdesc) (getDefaultConfig S tdesc), ?_,
    fun dest hdest n => get?_routeAll S _ _ hdest n⟩
  rw [instantiateTarget_of_keyed S connect none hkeyed]
  simp [htarget, bind, Except.bind, pure, Except.pure]

theorem instantiateTarget_defaultConfig_board :
    ∃ g : Gathered String,
      instantiateTarget kwargSchema sampleBoard (getDefaultConfig kwargSchema sampleBoard) none
          none =
        .ok ⟨"LinuxTarget", targetKwargs "Platform" (some "SshConnection") none g.tp g.pp g.cp⟩ ∧
      ∀ dest, dest ≠ .dropped → ∀ n, (g.field dest).get? n =
        routedValue kwargSchema (pointMaps kwargSchema sampleBoard)
          (getDefaultConfig kwargSchema sampleBoard) dest n :=
  instantiateTarget_defaultConfig kwargSchema sampleBoard none (by decide) rfl

/-- `instantiate_assistant` gives the assistant, under each name of its parameters, the value
given under that name, or else the true default of the last parameter of that name that has
one, and nothing under any other name. -/
theorem assistantKwargs_get? (tdesc : TargetDescription) (params : PyDict V) (n : String) :
    (assistantKwargs S tdesc params).get? n =
      if n ∈ tdesc.assistantParams.map Parameter.name then
        (params.get? n).or ((tdesc.assistantParams.filter fun p =>
          p.name == n && S.truthy (S.default p)).getLast?.map S.default)
      else none := by
  have hstep : ∀ (a : PyDict V) (param : Parameter),
      (match params.get? param.name with
        | some v => a.set param.name v
        | none => if S.truthy (S.default param) then a.set param.name (S.default param) else a) =
      if ((params.get? param.name).isSome || S.truthy (S.default param)) = true then
        a.set param.name ((params.get? param.name).getD (S.default param)) else a :=
    fun a param => by cases params.get? param.name <;> simp
  have hcond : (tdesc.assistantParams.filter fun p =>
      ((params.get? p.name).isSome || S.truthy (S.default p)) && p.name == n) =
      tdesc.assistantParams.filter fun p =>
        p.name == n && ((params.get? n).isSome || S.truthy (S.default p)) :=
    List.filter_congr fun p _ => by
      by_cases h : p.name = n
      · simp [h]
      · simp [beq_eq_false_iff_ne.mpr h]
  have hnamed : ∀ p ∈ (tdesc.assistantParams.filter fun p =>
      p.name == n && ((params.get? n).isSome || S.truthy (S.default p))).getLast?,
      (params.get? p.name).getD (S.default p) = (params.get? n).getD (S.default p) := by
    intro p hp
    obtain ⟨-, h⟩ := List.mem_filter.mp (List.mem_of_mem_getLast? hp)
    rw [(by simpa using h : p.name = n ∧ _).1]
  simp only [assistantKwargs, hstep]
  rw [PyDict.get?_foldl_set, PyDict.get?_empty, Option.or_none, hcond, Option.map_congr hnamed]
  split_ifs with hn
  · cases hv : params.get? n with
    | none => simp
    | some v =>
      obtain ⟨q, hq, rfl⟩ := List.mem_map.mp hn
      have hne : (tdesc.assistantParams.filter fun p => p.name == q.name) ≠ [] :=
        List.ne_nil_of_mem (List.mem_filter.mpr ⟨hq, by simp⟩)
      obtain ⟨p, hp⟩ := Option.ne_none_iff_exists'.mp (mt List.getLast?_eq_none_iff.mp hne)
      simp [hp]
  · rw [List.filter_eq_nil_iff.mpr fun p hp h =>
      hn (List.mem_map.mpr ⟨p, hp, (by simpa using h : p.name = n ∧ _).1⟩)]
    rfl

lemma foldlM_routeParam_set_dropped (tdescName : String) (maps : PointMaps) (params : PyDict V)
    {name : String} (hdrop : destination S maps name = some .dropped) (v : V) (g : Gathered V) :
    (params.set name v).items.foldlM (fun g e => routeParam S tdescName maps g e.1 e.2) g =
      params.items.foldlM (fun g e => routeParam S tdescName maps g e.1 e.2) g := by
  have hstep : ∀ g value, routeParam S tdescName maps g name value = .ok g := fun g value => by
    rw [routeParam_eq, hdrop]; rfl
  cases hc : params.contains name
  · rw [PyDict.set_items_of_not_contains v hc, List.foldlM_append]
    simp only [List.foldlM_cons, List.foldlM_nil, hstep]
    exact bind_pure _
  · rw [PyDict.set_items_of_contains v hc]
    induction params.items generalizing g with
    | nil => rfl
    | cons e items ih =>
      rw [List.map_cons, List.foldlM_cons, List.foldlM_cons]
      split
      · rename_i he
        rw [hstep, show routeParam S tdescName maps g e.1 e.2 = .ok g by rw [he]; exact hstep g e.2]
        exact ih g
      · simp only [ih]

/-- A value that `instantiate_target` drops and that is not under the name of an assistant
parameter reaches neither call: giving it changes neither what `instantiate_target` returns
nor what `instantiate_assistant` returns. A name that only the assistant's point map keys,
such as an alias of an assistant parameter, is accepted and then ignored that way. -/
theorem dropped_value_unused {T : Type} (tdesc : TargetDescription) (params : PyDict V)
    (connect : Option Bool) (extra : Option (PyDict V)) (target : T) {name : String}
    (hdrop : destination S (pointMaps S tdesc) name = some .dropped)
    (hna : name ∉ tdesc.assistantParams.map Parameter.name) (v : V) :
    instantiateTarget S tdesc (params.set name v) connect extra =
        instantiateTarget S tdesc params connect extra ∧
      instantiateAssistant S tdesc (params.set name v) target =
        instantiateAssistant S tdesc params target := by
  refine ⟨by rw [instantiateTarget, instantiateTarget, foldlM_routeParam_set_dropped S _ _ _ hdrop],
    ?_⟩
  have hkw : assistantKwargs S tdesc (params.set name v) = assistantKwargs S tdesc params :=
    List.foldl_ext _ _ _ fun a p hp => by
      rw [PyDict.get?_set_ne _ _ fun (he : p.name = name) => hna (he ▸ List.mem_map_of_mem _ hp)]
  simp only [instantiateAssistant, hkw]

theorem dropped_value_unused_alias :
    instantiateTarget kwargSchema sampleBoard (boardParams.set "poll_period" "5") none none =
        instantiateTarget kwargSchema sampleBoard boardParams none none ∧
      instantiateAssistant kwargSchema sampleBoard (boardParams.set "poll_period" "5") () =
        instantiateAssistant kwargSchema sampleBoard boardParams () :=
  dropped_value_unused kwargSchema sampleBoard boardParams none none () (by decide) (by decide) "5"

end Instantiate

end WorkloadAutomation
