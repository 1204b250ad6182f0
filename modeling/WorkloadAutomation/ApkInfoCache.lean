import WorkloadAutomation.ApkInfo

/-!
# The apk info cache

`ApkInfoCache` of `wa/utils/android.py`: an in-memory copy of a dictionary persisted in
one file, read again whenever the file's `os.stat` differs from the stat the instance
recorded at its last read or write. Any number of instances share the file, and each
method call is one step on the file and on the calling instance. The stat a write gives
the file is the environment's: `statOf n` for the `n`th write. When no stat recurs, the
instances together behave as one dictionary.
-/

namespace WorkloadAutomation

/-- One `ApkInfoCache` object: its `last_modified` stat and its `cache` dictionary. -/
structure ApkInfoCache (Stat : Type) where
  lastModified : Option Stat
  cache : Table

structure CacheWorld (Stat : Type) where
  disk : Option (Table × Stat)
  writes : Nat
  instances : Nat → ApkInfoCache Stat

/-- `ValueError('ApkInfo for {} is already in cache.'.format(apk_info.path))`. -/
structure ValueError where
  message : String
  deriving DecidableEq, Repr

/-- `'{}'.format(x)` for an optional string. -/
def pyStr : Option String → String
  | none => "None"
  | some s => s

inductive CacheCall where
  | create (i : Nat)
  | store (i : Nat) (info : ApkInfo) (apkId : String) (overwrite : Bool)
  | getInfo (i : Nat) (key : String)

inductive CacheReply where
  | created
  | stored (r : Except ValueError Unit)
  | info (r : Option ApkInfo)

namespace ApkInfoCache

variable {Stat : Type} [DecidableEq Stat]

def blank : ApkInfoCache Stat := ⟨none, Table.empty⟩

/-- `_update_cache()`: read the file again when its stat is not the recorded one. -/
def updateCache (c : ApkInfoCache Stat) : Option (Table × Stat) → ApkInfoCache Stat
  | none => c
  | some (t, s) => if c.lastModified ≠ some s then ⟨some s, t⟩ else c

@[simp] lemma updateCache_updateCache (c : ApkInfoCache Stat) (d : Option (Table × Stat)) :
    (c.updateCache d).updateCache d = c.updateCache d := by
  rcases d with _ | ⟨t, s⟩
  · rfl
  · by_cases h : c.lastModified = some s <;> simp [updateCache, h]

end ApkInfoCache

namespace CacheWorld

variable {Stat : Type} [DecidableEq Stat]

def fresh : CacheWorld Stat := ⟨none, 0, fun _ => ApkInfoCache.blank⟩

def setInstance (w : CacheWorld Stat) (i : Nat) (c : ApkInfoCache Stat) : CacheWorld Stat :=
  { w with instances := Function.update w.instances i c }

omit [DecidableEq Stat] in
@[simp] lemma setInstance_self (w : CacheWorld Stat) (i : Nat) : w.setInstance i (w.instances i) = w := by
  simp [setInstance]

/-- `ApkInfoCache(path)` in slot `i`: `_check_env()`, then `_update_cache()`. -/
def create (w : CacheWorld Stat) (i : Nat) : CacheWorld Stat :=
  w.setInstance i (ApkInfoCache.blank.updateCache w.disk)

/-- `store(apk_info, apk_id, overwrite=True)` on instance `i`. -/
def store (statOf : Nat → Stat) (w : CacheWorld Stat) (i : Nat) (info : ApkInfo)
    (apkId : String) (overwrite : Bool) : CacheWorld Stat × Except ValueError Unit :=
  let c := (w.instances i).updateCache w.disk
  if (c.cache apkId).isSome && !overwrite then
    (w.setInstance i c, .error ⟨"ApkInfo for " ++ pyStr info.path ++ " is already in cache."⟩)
  else
    let t := c.cache.set apkId info.toPod
    (⟨some (t, statOf w.writes), w.writes + 1,
      Function.update w.instances i ⟨some (statOf w.writes), t⟩⟩, .ok ())

/-- `get_info(key)` on instance `i`. -/
def getInfo (w : CacheWorld Stat) (i : Nat) (key : String) : CacheWorld Stat × Option ApkInfo :=
  let c := (w.instances i).updateCache w.disk
  (w.setInstance i c, (c.cache key).map ApkInfo.fromPod)

def step (statOf : Nat → Stat) (w : CacheWorld Stat) : CacheCall → CacheWorld Stat × CacheReply
  | .create i => (w.create i, .created)
  | .store i info apkId overwrite =>
    ((w.store statOf i info apkId overwrite).1, .stored (w.store statOf i info apkId overwrite).2)
  | .getInfo i key => ((w.getInfo i key).1, .info (w.getInfo i key).2)

def run (statOf : Nat → Stat) : CacheWorld Stat → List CacheCall → CacheWorld Stat × List CacheReply
  | w, [] => (w, [])
  | w, call :: calls =>
    ((run statOf (w.step statOf call).1 calls).1,
      (w.step statOf call).2 :: (run statOf (w.step statOf call).1 calls).2)

end CacheWorld

def absStep (a : String → Option ApkInfo) : CacheCall → (String → Option ApkInfo) × CacheReply
  | .create _ => (a, .created)
  | .store _ info apkId overwrite =>
    if (a apkId).isSome && !overwrite then
      (a, .stored (.error ⟨"ApkInfo for " ++ pyStr info.path ++ " is already in cache."⟩))
    else (Function.update a apkId (some info), .stored (.ok ()))
  | .getInfo _ key => (a, .info (a key))

def absRun : (String → Option ApkInfo) → List CacheCall → (String → Option ApkInfo) × List CacheReply
  | a, [] => (a, [])
  | a, call :: calls =>
    ((absRun (absStep a call).1 calls).1, (absStep a call).2 :: (absRun (absStep a call).1 calls).2)

section Coherence

variable {Stat : Type} [DecidableEq Stat] (statOf : Nat → Stat)

def podTable (a : String → Option ApkInfo) : Table := fun k => (a k).map ApkInfo.toPod

structure InstanceOk (disk : Option (Table × Stat)) (writes : Nat) (a : String → Option ApkInfo)
    (c : ApkInfoCache Stat) : Prop where
  seen : ∀ s, c.lastModified = some s → ∃ n < writes, statOf n = s
  current : ∀ t s, disk = some (t, s) → c.lastModified = some s → c.cache = podTable a
  absent : disk = none → c.cache = podTable a

structure Coherent (w : CacheWorld Stat) (a : String → Option ApkInfo) : Prop where
  disk : (w.disk = none ∧ a = fun _ => none) ∨
    (0 < w.writes ∧ w.disk = some (podTable a, statOf (w.writes - 1)))
  instances : ∀ i, InstanceOk statOf w.disk w.writes a (w.instances i)

variable {statOf}

lemma podTable_set (a : String → Option ApkInfo) (k : String) (info : ApkInfo) :
    (podTable a).set k info.toPod = podTable (Function.update a k (some info)) := by
  funext k'
  by_cases h : k' = k <;> simp [podTable, Table.set, Function.update_apply, h]

lemma updateCache_ok {w : CacheWorld Stat} {a} (h : Coherent statOf w a) {c : ApkInfoCache Stat}
    (hc : InstanceOk statOf w.disk w.writes a c) :
    InstanceOk statOf w.disk w.writes a (c.updateCache w.disk) ∧ (c.updateCache w.disk).cache = podTable a := by
  rcases h.disk with ⟨hd, -⟩ | ⟨hpos, hd⟩
  · have hu : c.updateCache w.disk = c := by simp [hd, ApkInfoCache.updateCache]
    rw [hu]
    exact ⟨hc, hc.absent hd⟩
  · by_cases hl : c.lastModified = some (statOf (w.writes - 1))
    · have hu : c.updateCache w.disk = c := by simp [hd, ApkInfoCache.updateCache, hl]
      rw [hu]
      exact ⟨hc, hc.current _ _ hd hl⟩
    · have hu : c.updateCache w.disk = ⟨some (statOf (w.writes - 1)), podTable a⟩ := by
        simp [hd, ApkInfoCache.updateCache, hl]
      rw [hu]
      refine ⟨⟨fun s hs => ⟨w.writes - 1, by omega, Option.some.inj hs⟩,
        fun _ _ _ _ => rfl, fun hn => by simp [hd] at hn⟩, rfl⟩

omit [DecidableEq Stat] in
lemma setInstance_coherent {w : CacheWorld Stat} {a} (h : Coherent statOf w a) (i : Nat)
    {c : ApkInfoCache Stat} (hc : InstanceOk statOf w.disk w.writes a c) : Coherent statOf (w.setInstance i c) a :=
  ⟨h.disk, fun j => by
    by_cases hj : j = i
    · subst hj; simpa [CacheWorld.setInstance] using hc
    · simpa [CacheWorld.setInstance, hj] using h.instances j⟩

omit [DecidableEq Stat] in
lemma write_coherent (hinj : Function.Injective statOf) {w : CacheWorld Stat} {a}
    (h : Coherent statOf w a) (i : Nat) (a' : String → Option ApkInfo) :
    Coherent statOf ⟨some (podTable a', statOf w.writes), w.writes + 1,
      Function.update w.instances i ⟨some (statOf w.writes), podTable a'⟩⟩ a' := by
  refine ⟨.inr ⟨Nat.succ_pos _, by simp⟩, fun j => ?_⟩
  by_cases hj : j = i
  · subst hj
    refine ⟨fun s hs => ⟨w.writes, Nat.lt_succ_self _, ?_⟩, fun _ _ _ _ => ?_, fun hn => ?_⟩
    · simpa using hs
    · simp
    · cases hn
  · have hseen := (h.instances j).seen
    refine ⟨fun s hs => ?_, fun t s hd hs => ?_, fun hn => ?_⟩
    · obtain ⟨n, hn, e⟩ := hseen s (by simpa [Function.update_noteq hj] using hs)
      exact ⟨n, Nat.lt_succ_of_lt hn, e⟩
    · simp only [Option.some.injEq, Prod.mk.injEq] at hd
      obtain ⟨n, hn, e⟩ := hseen s (by simpa [Function.update_noteq hj] using hs)
      exact absurd (hinj (e.trans hd.2.symm)) (by omega)
    · cases hn

theorem step_refines (hinj : Function.Injective statOf) {w : CacheWorld Stat} {a}
    (h : Coherent statOf w a) (call : CacheCall) :
    Coherent statOf (w.step statOf call).1 (absStep a call).1 ∧
      (w.step statOf call).2 = (absStep a call).2 := by
  cases call with
  | create i =>
    have hb : InstanceOk statOf w.disk w.writes a ApkInfoCache.blank := by
      refine ⟨fun s hs => (by cases hs), fun _ _ _ hs => (by cases hs), fun hn => ?_⟩
      rcases h.disk with ⟨-, ha⟩ | ⟨-, hd⟩
      · subst ha
        rfl
      · simp [hd] at hn
    exact ⟨setInstance_coherent h i (updateCache_ok h hb).1, rfl⟩
  | store i info apkId overwrite =>
    obtain ⟨hok, hcache⟩ := updateCache_ok h (h.instances i)
    have hkey : (podTable a apkId).isSome = (a apkId).isSome := by simp [podTable]
    simp only [CacheWorld.step, CacheWorld.store, absStep, hcache, hkey]
    by_cases hrefuse : ((a apkId).isSome && !overwrite) = true
    · simp only [hrefuse, if_true]
      exact ⟨setInstance_coherent h i hok, by trivial⟩
    · simp only [hrefuse, if_false, podTable_set]
      exact ⟨write_coherent hinj h i _, by trivial⟩
  | getInfo i key =>
    obtain ⟨hok, hcache⟩ := updateCache_ok h (h.instances i)
    refine ⟨setInstance_coherent h i hok, ?_⟩
    simp [CacheWorld.step, CacheWorld.getInfo, absStep, hcache, podTable, Option.map_map,
      Function.comp_def]

theorem run_refines (hinj : Function.Injective statOf) (calls : List CacheCall) :
    ∀ {w : CacheWorld Stat} {a}, Coherent statOf w a →
      (w.run statOf calls).2 = (absRun a calls).2 := by
  induction calls with
  | nil => intro _ _ _; rfl
  | cons call calls ih =>
    intro w a h
    obtain ⟨h', hreply⟩ := step_refines hinj h call
    simp only [CacheWorld.run, absRun, hreply, ih h']

omit [DecidableEq Stat] in
lemma fresh_coherent : Coherent statOf CacheWorld.fresh (fun _ => none) :=
  ⟨.inl ⟨rfl, rfl⟩, fun _ => ⟨fun s hs => (by cases hs), fun _ _ hd => (by cases hd), fun _ => rfl⟩⟩

end Coherence

lemma store_refused_keeps_file {Stat : Type} [DecidableEq Stat] (statOf : Nat → Stat)
    (w : CacheWorld Stat) (i : Nat) (info : ApkInfo) (apkId : String) (overwrite : Bool)
    (e : ValueError) (h : (w.store statOf i info apkId overwrite).2 = .error e) :
    (w.store statOf i info apkId overwrite).1.disk = w.disk ∧
      (w.store statOf i info apkId overwrite).1.writes = w.writes := by
  unfold CacheWorld.store at h ⊢
  dsimp only at h ⊢
  split_ifs at h ⊢
  exact ⟨rfl, rfl⟩

/-- When every write gives the cache file a stat it never had before, any number of
instances sharing the file, starting with no file, reply to every sequence of calls as
one dictionary does; a refused store leaves the file as it was. -/
theorem cache_instances_share_one_dictionary {Stat : Type} [DecidableEq Stat]
    (statOf : Nat → Stat) (hfresh : Function.Injective statOf) (calls : List CacheCall) :
    (CacheWorld.run statOf CacheWorld.fresh calls).2 = (absRun (fun _ => none) calls).2 ∧
    ∀ (w : CacheWorld Stat) i info apkId e, (w.store statOf i info apkId false).2 = .error e →
      (w.store statOf i info apkId false).1.disk = w.disk ∧
        (w.store statOf i info apkId false).1.writes = w.writes :=
  ⟨run_refines hfresh calls fresh_coherent,
    fun w i info apkId e h => store_refused_keeps_file statOf w i info apkId false e h⟩

def sampleApkInfo (name : String) : ApkInfo :=
  ⟨some name, some name, none, none, some "1.0", some "1", none, [], some name, [], []⟩

def statCycleCalls : List CacheCall :=
  [.store 0 (sampleApkInfo "a.apk") "a" true, .store 1 (sampleApkInfo "b.apk") "b" true,
    .store 1 (sampleApkInfo "c.apk") "c" true, .getInfo 0 "b"]

theorem cache_instances_share_one_dictionary_cycle :
    Function.Injective (id : Nat → Nat) ∧
    ((CacheWorld.run id CacheWorld.fresh statCycleCalls).2 =
        (absRun (fun _ => none) statCycleCalls).2 ∧
      ∀ (w : CacheWorld Nat) i info apkId e, (w.store id i info apkId false).2 = .error e →
        (w.store id i info apkId false).1.disk = w.disk ∧
          (w.store id i info apkId false).1.writes = w.writes) :=
  ⟨Function.injective_id, cache_instances_share_one_dictionary id Function.injective_id statCycleCalls⟩

/-- Each write changes the stat, yet the third write gives back the stat of the first:
instance 0 then reads its own old dictionary and misses the key instance 1 stored. -/
theorem stat_cycle_hides_store :
    (∀ n, (n + 1) % 2 + 1 ≠ n % 2 + 1) ∧
    (CacheWorld.run (fun n => n % 2 + 1) CacheWorld.fresh statCycleCalls).2.getLast? =
      some (.info none) ∧
    (absRun (fun _ => none) statCycleCalls).2.getLast? = some (.info (some (sampleApkInfo "b.apk"))) :=
  ⟨fun n => by omega, rfl, rfl⟩

end WorkloadAutomation
