import Mathlib.Data.List.MinMax
import WorkloadAutomation.PlatformOverrides

/-!
# The descriptor tables the repository ships

`TARGETS`, `ASSISTANTS`, `CONNECTION_PARAMS`, `PLATFORMS` and the parameter lists they are
built from, as `wa/framework/target/descriptor.py` writes them (`shippedTables`). A parameter
is given by its name and by the keyword arguments the modelled code reads through a schema:
the source text of its `default`, `deprecated`, and one `aliases` entry per alias.
-/

namespace WorkloadAutomation

def commonTargetParams : List Parameter :=
  [⟨"working_directory", []⟩, ⟨"executables_directory", []⟩, ⟨"modules", []⟩,
    ⟨"load_default_modules", [("default", "True")]⟩,
    ⟨"shell_prompt", [("default", "DEFAULT_SHELL_PROMPT")]⟩, ⟨"max_async", [("default", "50")]⟩]

def commonPlatformParams : List Parameter :=
  [⟨"core_names", []⟩, ⟨"core_clusters", []⟩, ⟨"big_core", []⟩, ⟨"model", []⟩, ⟨"modules", []⟩]

def vexpressPlatformParams : List Parameter :=
  [⟨"serial_port", []⟩, ⟨"baudrate", []⟩, ⟨"vemsd_mount", []⟩, ⟨"bootloader", []⟩,
    ⟨"hard_reset_method", []⟩]

def gem5PlatformParams : List Parameter :=
  [⟨"gem5_bin", []⟩, ⟨"gem5_args", []⟩, ⟨"gem5_virtio", []⟩, ⟨"name", [("default", "'gem5'")]⟩]

/-- `CONNECTION_PARAMS[AdbConnection]`. -/
def adbConnectionParams : List Parameter :=
  [⟨"device", [("aliases", "adb_name")]⟩, ⟨"adb_server", []⟩, ⟨"adb_port", []⟩,
    ⟨"poll_transfers", [("default", "True")]⟩, ⟨"start_transfer_poll_delay", [("default", "30")]⟩,
    ⟨"total_transfer_timeout", [("default", "3600")]⟩,
    ⟨"transfer_poll_period", [("default", "30")]⟩, ⟨"adb_as_root", [("default", "False")]⟩]

/-- `CONNECTION_PARAMS[SshConnection]`. -/
def sshConnectionParams : List Parameter :=
  [⟨"host", []⟩, ⟨"username", []⟩, ⟨"password", []⟩, ⟨"keyfile", []⟩,
    ⟨"port", [("default", "22")]⟩, ⟨"strict_host_check", [("default", "False")]⟩,
    ⟨"sudo_cmd", [("default", "DEFAULT_SSH_SUDO_COMMAND")]⟩, ⟨"use_scp", [("default", "False")]⟩,
    ⟨"poll_transfers", [("default", "True")]⟩, ⟨"start_transfer_poll_delay", [("default", "30")]⟩,
    ⟨"total_transfer_timeout", [("default", "3600")]⟩,
    ⟨"transfer_poll_period", [("default", "30")]⟩, ⟨"telnet", [("deprecated", "True")]⟩,
    ⟨"password_prompt", [("deprecated", "True")]⟩, ⟨"original_prompt", [("deprecated", "True")]⟩]

/-- `CONNECTION_PARAMS`, with the entry for `'ChromeOsConnection'` added after the literal. -/
def connectionParams : PyDict (List Parameter) :=
  ⟨[("AdbConnection", adbConnectionParams),
    ("SshConnection", sshConnectionParams),
    ("TelnetConnection", [⟨"host", []⟩, ⟨"username", []⟩, ⟨"password", []⟩, ⟨"port", []⟩,
      ⟨"password_prompt", []⟩, ⟨"original_prompt", []⟩,
      ⟨"sudo_cmd", [("default", "\"sudo -- sh -c \x7b\x7d\"")]⟩]),
    ("Gem5Connection", [⟨"host", []⟩, ⟨"username", [("default", "'root'")]⟩, ⟨"password", []⟩,
      ⟨"port", []⟩, ⟨"password_prompt", []⟩, ⟨"original_prompt", []⟩]),
    ("LocalConnection", [⟨"password", []⟩, ⟨"keep_password", [("default", "True")]⟩,
      ⟨"unrooted", [("default", "False")]⟩]),
    ("ChromeOsConnection", adbConnectionParams ++ sshConnectionParams)], by decide⟩

/-- The parameter `package_data_directory` of the Android and Chrome OS targets. -/
def packageDataDirectory : Parameter := ⟨"package_data_directory", [("default", "'/data/data'")]⟩

def targets : PyDict TargetTuple :=
  ⟨[("linux", ⟨("LinuxTarget", "SshConnection", []), commonTargetParams, none⟩),
    ("android", ⟨("AndroidTarget", "AdbConnection", []),
      commonTargetParams ++ [packageDataDirectory], none⟩),
    ("chromeos", ⟨("ChromeOsTarget", "ChromeOsConnection", []),
      commonTargetParams ++ [packageDataDirectory, ⟨"android_working_directory", []⟩,
        ⟨"android_executables_directory", []⟩], none⟩),
    ("local", ⟨("LocalLinuxTarget", "LocalConnection", ["Juno", "Gem5SimulationPlatform", "TC2"]),
      commonTargetParams, none⟩)], by decide⟩

/-- `ASSISTANTS`; the parameters of the assistant classes (of `wa.framework.target.assistant`,
not among the repository's files) are given by their class names. -/
def assistants (parameters : String → List Parameter) : PyDict Assistant :=
  ⟨[("linux", ⟨"LinuxAssistant", parameters "LinuxAssistant"⟩),
    ("android", ⟨"AndroidAssistant", parameters "AndroidAssistant"⟩),
    ("local", ⟨"LinuxAssistant", parameters "LinuxAssistant"⟩),
    ("chromeos", ⟨"ChromeOsAssistant", parameters "ChromeOsAssistant"⟩)],
    by simp only [List.map_cons, List.map_nil]; decide⟩

def junoPlatformOverrides : List Parameter :=
  [⟨"baudrate", [("default", "115200")]⟩, ⟨"vemsd_mount", [("default", "'/media/JUNO'")]⟩,
    ⟨"bootloader", [("default", "'u-boot'")]⟩, ⟨"hard_reset_method", [("default", "'dtr'")]⟩]

def tc2PlatformOverrides : List Parameter :=
  [⟨"baudrate", [("default", "38400")]⟩, ⟨"vemsd_mount", [("default", "'/media/VEMSD'")]⟩,
    ⟨"bootloader", [("default", "'bootmon'")]⟩, ⟨"hard_reset_method", [("default", "'reboottxt'")]⟩]

def platforms : PyDict PlatformTuple :=
  ⟨[("generic", ⟨⟨("Platform", none, none), commonPlatformParams, none⟩, none⟩),
    ("juno", ⟨⟨("Juno", none, some [⟨"host", []⟩]),
      commonPlatformParams ++ vexpressPlatformParams, some junoPlatformOverrides⟩, none⟩),
    ("tc2", ⟨⟨("TC2", none, none), commonPlatformParams ++ vexpressPlatformParams,
      some tc2PlatformOverrides⟩, none⟩),
    ("gem5", ⟨⟨("Gem5SimulationPlatform", some "Gem5Connection", none), gem5PlatformParams,
      none⟩, none⟩)], by decide⟩

/-- The tables `DefaultTargetDescriptor.get_descriptions` reads. -/
def shippedTables (assistantParameters : String → List Parameter) : DescriptorTables where
  targets := targets
  assistants := assistants assistantParameters
  connectionParams := connectionParams
  platforms := platforms

lemma shippedTables_platform_conns (assistantParameters : String → List Parameter) :
    ∀ p ∈ (shippedTables assistantParameters).platforms.items, ∀ c,
      p.2.slice.clsTuple.2.1 = some c → c ∈ (shippedTables assistantParameters).connectionParams.keys := by
  intro p hp c hc
  simp only [shippedTables, platforms, List.mem_cons, List.not_mem_nil, or_false] at hp
  rcases hp with rfl | rfl | rfl | rfl <;> cases hc
  show "Gem5Connection" ∈ connectionParams.keys
  decide

lemma platformRows_of_no_overrides (targetName : String) {es : List (String × PlatformTuple)}
    (h : ∀ e ∈ es, e.2.targetOverrides = none) (tp : List Parameter) :
    platformRows targetName es tp = es.map fun e => (e.1 ++ "_" ++ targetName, tp) := by
  induction es with
  | nil => rfl
  | cons e es ih =>
    have he : overrideParams tp e.2.targetOverrides = tp := by
      rw [h e (List.mem_cons_self _ _)]
      rfl
    simp only [platformRows, he, List.map_cons, ih fun e' he' => h e' (List.mem_cons_of_mem _ he')]

/-- When no platform has target overrides, every description `get_descriptions` gives
carries its own target's parameters, with the target's defaults applied. -/
theorem getDescriptions_own_target_params (tables : DescriptorTables)
    (hassist : ∀ t ∈ tables.targets.items, t.1 ∈ tables.assistants.keys)
    (hconn : ∀ t ∈ tables.targets.items, t.2.clsTuple.2.1 ∈ tables.connectionParams.keys)
    (hplat : ∀ p ∈ tables.platforms.items, ∀ c, p.2.slice.clsTuple.2.1 = some c →
      c ∈ tables.connectionParams.keys)
    (hnone : ∀ p ∈ tables.platforms.items, p.2.targetOverrides = none) :
    (getDescriptions tables).map (List.map nameAndTargetParams) =
      .ok (tables.targets.items.flatMap fun t =>
        (tables.platforms.items.filter fun p => p.2.slice.clsTuple.1 ∉ t.2.clsTuple.2.2).map
          fun p => (p.1 ++ "_" ++ t.1, overrideParams t.2.params t.2.defaults)) := by
  rw [getDescriptions, foldlM_targetStep tables hassist hconn hplat, List.map_nil, List.nil_append]
  congr 1
  exact List.flatMap_congr fun t _ => platformRows_of_no_overrides _
    (fun p hp => hnone p (List.mem_filter.mp hp).1) _

theorem getDescriptions_own_target_params_shipped :
    (getDescriptions (shippedTables fun _ => [])).map (List.map nameAndTargetParams) =
      .ok ((shippedTables fun _ => []).targets.items.flatMap fun t =>
        ((shippedTables fun _ => []).platforms.items.filter fun p =>
          p.2.slice.clsTuple.1 ∉ t.2.clsTuple.2.2).map
          fun p => (p.1 ++ "_" ++ t.1, overrideParams t.2.params t.2.defaults)) :=
  getDescriptions_own_target_params _ (by decide) (by decide) (shippedTables_platform_conns _)
    (by decide)

lemma platformRows_names (targetName : String) (es : List (String × PlatformTuple))
    (tp : List Parameter) :
    (platformRows targetName es tp).map Prod.fst = es.map fun e => e.1 ++ "_" ++ targetName := by
  induction es generalizing tp with
  | nil => rfl
  | cons e es ih => simp [platformRows, ih]

lemma append_underscore_inj {p p' t t' : String} (hp : '_' ∉ p.toList) (hp' : '_' ∉ p'.toList)
    (h : p ++ "_" ++ t = p' ++ "_" ++ t') : p = p' ∧ t = t' := by
  have hl : p.toList ++ '_' :: t.toList = p'.toList ++ '_' :: t'.toList := by
    simpa using congrArg String.toList h
  have htake : ∀ {a b : List Char}, '_' ∉ a → (a ++ '_' :: b).takeWhile (· != '_') = a :=
    fun ha => by
      rw [List.takeWhile_append_of_pos fun x hx => by
        simp only [bne_iff_ne, ne_eq]
        rintro rfl
        exact ha hx]
      simp
  have hpp : p.toList = p'.toList := by rw [← htake hp, hl, htake hp']
  rw [hpp, List.append_cancel_left_eq, List.cons.injEq] at hl
  exact ⟨String.ext hpp, String.ext hl.2⟩

/-- When no platform name holds an underscore, the descriptions `get_descriptions` gives have
distinct names: a name `{platform}_{target}` gives back its platform and its target. -/
theorem getDescriptions_names_nodup (tables : DescriptorTables)
    (hassist : ∀ t ∈ tables.targets.items, t.1 ∈ tables.assistants.keys)
    (hconn : ∀ t ∈ tables.targets.items, t.2.clsTuple.2.1 ∈ tables.connectionParams.keys)
    (hplat : ∀ p ∈ tables.platforms.items, ∀ c, p.2.slice.clsTuple.2.1 = some c →
      c ∈ tables.connectionParams.keys)
    (hunderscore : ∀ p ∈ tables.platforms.keys, '_' ∉ p.toList) :
    ∃ ds, getDescriptions tables = .ok ds ∧ (ds.map TargetDescription.name).Nodup := by
  have hrows := foldlM_targetStep tables hassist hconn hplat []
  rw [← getDescriptions] at hrows
  cases hd : getDescriptions tables with
  | error e => simp [hd, Except.map] at hrows
  | ok ds =>
    refine ⟨ds, rfl, ?_⟩
    simp only [hd, Except.map, Except.ok.injEq, List.map_nil, List.nil_append] at hrows
    have hnames : ds.map TargetDescription.name = tables.targets.items.flatMap fun t =>
        (tables.platforms.items.filter fun p => p.2.slice.clsTuple.1 ∉ t.2.clsTuple.2.2).map
          fun p => p.1 ++ "_" ++ t.1 := by
      simpa [List.map_map, nameAndTargetParams, List.map_flatMap, platformRows_names,
        Function.comp_def] using congrArg (List.map Prod.fst) hrows
    have hkey : ∀ t : String × TargetTuple, ∀ p ∈ tables.platforms.items.filter fun p =>
        p.2.slice.clsTuple.1 ∉ t.2.clsTuple.2.2, '_' ∉ p.1.toList := fun t p hp =>
      hunderscore p.1 (List.mem_map_of_mem _ (List.mem_filter.mp hp).1)
    rw [hnames, List.nodup_flatMap]
    refine ⟨fun t _ => ?_,
      (List.pairwise_map.mp tables.targets.nodup).imp fun hne x hx hx' => ?_⟩
    · have hinj : Function.Injective fun p : String => p ++ "_" ++ t.1 := fun a b h =>
        String.ext (by simpa using congrArg String.toList h)
      rw [← Function.comp_def (fun p : String => p ++ "_" ++ t.1) Prod.fst, ← List.map_map]
      exact (tables.platforms.nodup.sublist ((List.filter_sublist _).map _)).map hinj
    · obtain ⟨p, hp, rfl⟩ := List.mem_map.mp hx
      obtain ⟨p', hp', he⟩ := List.mem_map.mp hx'
      exact hne (append_underscore_inj (hkey _ p' hp') (hkey _ p hp) he).2.symm

theorem getDescriptions_names_nodup_shipped :
    ∃ ds, getDescriptions (shippedTables fun _ => []) = .ok ds ∧
      (ds.map TargetDescription.name).Nodup :=
  getDescriptions_names_nodup _ (by decide) (by decide) (shippedTables_platform_conns _)
    (by decide)

section TargetDefaults

variable (isSubclass : String → String → Bool) (mroLength : String → Nat)

/-- `_get_target_defaults(target)`: the loop over `TARGETS` that keeps the entry whose target
class `target` is a subclass of and whose MRO is longer than any kept before, starting from
`('linux', TARGETS['linux'])` with specificity 0. `issubclass` and `len(inspect.getmro(cls))`
read devlib's classes and are parameters. -/
def getTargetDefaults (targets : PyDict TargetTuple) (target : String) :
    Except KeyError (String × TargetTuple) := do
  let linux ← targets.getItem "linux"
  let (_, res) := targets.items.foldl (fun (acc : Nat × (String × TargetTuple)) e =>
    if isSubclass target e.2.clsTuple.1 then
      let newSpec := mroLength e.2.clsTuple.1
      if newSpec > acc.1 then (newSpec, e) else acc
    else acc) (0, ("linux", linux))
  pure res

def KeptEntry (fallback : String × TargetTuple) :
    Nat × (String × TargetTuple) → Option (String × TargetTuple) → Prop
  | acc, none => acc = (0, fallback)
  | acc, some c => acc = (mroLength c.2.clsTuple.1, c) ∧ 0 < mroLength c.2.clsTuple.1

lemma foldl_keptEntry (target : String) (fallback : String × TargetTuple)
    (l : List (String × TargetTuple)) {acc : Nat × (String × TargetTuple)}
    {o : Option (String × TargetTuple)} (h : KeptEntry mroLength fallback acc o) :
    KeptEntry mroLength fallback
      (l.foldl (fun (acc : Nat × (String × TargetTuple)) e =>
        if isSubclass target e.2.clsTuple.1 then
          if mroLength e.2.clsTuple.1 > acc.1 then (mroLength e.2.clsTuple.1, e) else acc
        else acc) acc)
      ((l.filter fun e => isSubclass target e.2.clsTuple.1 && 0 < mroLength e.2.clsTuple.1).foldl
        (List.argAux fun b c => mroLength c.2.clsTuple.1 < mroLength b.2.clsTuple.1) o) := by
  induction l generalizing acc o with
  | nil => exact h
  | cons e l ih =>
    rw [List.foldl_cons, List.filter_cons]
    by_cases hsub : isSubclass target e.2.clsTuple.1 = true
    · by_cases hpos : 0 < mroLength e.2.clsTuple.1
      · simp only [hsub, hpos, decide_eq_true_eq, Bool.and_self, if_true, List.foldl_cons,
          decide_True]
        apply ih
        cases o with
        | none =>
          obtain rfl := h
          simp [List.argAux, KeptEntry, hpos]
        | some c =>
          obtain ⟨rfl, hc⟩ := h
          by_cases hlt : mroLength c.2.clsTuple.1 < mroLength e.2.clsTuple.1
          · simp [List.argAux, KeptEntry, hlt, hpos]
          · simp [List.argAux, KeptEntry, hlt, hc]
      · have hacc : ¬ mroLength e.2.clsTuple.1 > acc.1 := by omega
        simpa [hsub, hpos, hacc] using ih h
    · simpa [hsub] using ih h

/-- `_get_target_defaults` returns the first entry of `TARGETS` of greatest MRO length among
those whose target class `target` is a subclass of, and `('linux', TARGETS['linux'])` when
there is none. -/
theorem getTargetDefaults_eq_argmax (targets : PyDict TargetTuple) (target : String)
    {linux : TargetTuple} (hlinux : targets.get? "linux" = some linux) :
    getTargetDefaults isSubclass mroLength targets target =
      .ok (((targets.items.filter fun e =>
        isSubclass target e.2.clsTuple.1 && 0 < mroLength e.2.clsTuple.1).argmax
          fun e => mroLength e.2.clsTuple.1).getD ("linux", linux)) := by
  have hkept := foldl_keptEntry isSubclass mroLength target ("linux", linux) targets.items
    (show KeptEntry mroLength ("linux", linux) (0, ("linux", linux)) none from rfl)
  simp only [getTargetDefaults, PyDict.getItem, hlinux, bind, Except.bind, pure, Except.pure]
  unfold List.argmax
  generalize List.foldl _ (0, ("linux", linux)) targets.items = res at hkept ⊢
  generalize List.foldl _ none _ = o at hkept ⊢
  cases o with
  | none => rw [show res = _ from hkept]; rfl
  | some c => rw [hkept.1]; rfl

def exampleMro : String → List String
  | "LinuxTarget" => ["LinuxTarget", "Target", "object"]
  | "AndroidTarget" => ["AndroidTarget", "Target", "object"]
  | "ChromeOsTarget" => ["ChromeOsTarget", "LinuxTarget", "Target", "object"]
  | "LocalLinuxTarget" => ["LocalLinuxTarget", "LinuxTarget", "Target", "object"]
  | cls => [cls, "object"]

theorem getTargetDefaults_eq_argmax_local :
    getTargetDefaults (fun cls base => base ∈ exampleMro cls) (fun cls => (exampleMro cls).length)
        targets "LocalLinuxTarget" =
      .ok (((targets.items.filter fun e => decide (e.2.clsTuple.1 ∈ exampleMro "LocalLinuxTarget") &&
        0 < (exampleMro e.2.clsTuple.1).length).argmax
          fun e => (exampleMro e.2.clsTuple.1).length).getD
            ("linux", ⟨("LinuxTarget", "SshConnection", []), commonTargetParams, none⟩)) :=
  getTargetDefaults_eq_argmax _ _ targets "LocalLinuxTarget" rfl

example : ["LocalLinuxTarget", "ChromeOsTarget", "AndroidTarget", "Target"].map (fun t =>
    (getTargetDefaults (fun cls base => base ∈ exampleMro cls) (fun cls => (exampleMro cls).length)
      targets t).map Prod.fst) = [.ok "local", .ok "chromeos", .ok "android", .ok "linux"] := rfl

end TargetDefaults

example : (getDescriptions (shippedTables fun _ => [])).map (List.map TargetDescription.name) =
    .ok ["generic_linux", "juno_linux", "tc2_linux", "gem5_linux", "generic_android",
      "juno_android", "tc2_android", "gem5_android", "generic_chromeos", "juno_chromeos",
      "tc2_chromeos", "gem5_chromeos", "generic_local"] := rfl

end WorkloadAutomation
