import WorkloadAutomation.ApkInfoCache
import WorkloadAutomation.ApkId

/-!
# Cached apk metadata

`get_cacheable_apk_info(path)` keys the module's cache instance by the path and the file's
mtime, returns the cached record on a hit and extracts and stores one on a miss. Here it
runs among rewrites of the apk files and stores made by other cache instances, each one
step. Extraction (`devlib`'s `ApkInfo(path)`) is a parameter, and a ghost history records
the contents each file had at each of its mtimes. The cache trusts what it holds, so a
foreign store of another record is returned; with honest stores every lookup returns the
extraction of the file's current contents.
-/

namespace WorkloadAutomation

/-- What `get_cacheable_apk_info` lets through: `os.stat` of a missing file, or a store the
cache refuses. -/
inductive ApkInfoError where
  | fileNotFound (path : String)
  | value (e : ValueError)

/-- The apk files (contents and mtime), the contents each file had at each mtime it had
(ghost state), and the apk info cache with its instances; instance 0 is the module's
`apk_info_cache`. -/
structure ApkSystem (Stat Contents : Type) where
  files : String → Option (Contents × Mtime)
  history : String → Mtime → Option Contents
  cache : CacheWorld Stat

inductive ApkCall (Contents : Type) where
  | lookup (path : String)
  | rewrite (path : String) (contents : Contents) (mtime : Mtime)
  | store (i : Nat) (info : ApkInfo) (apkId : String) (overwrite : Bool)

inductive ApkReply where
  | info (r : Except ApkInfoError (Option ApkInfo))
  | rewritten
  | stored (r : Except ValueError Unit)

namespace ApkSystem

variable {Stat Contents : Type} [DecidableEq Stat] (statOf : Nat → Stat)
  (extract : String → Contents → ApkInfo)

def start (files : String → Option (Contents × Mtime)) : ApkSystem Stat Contents :=
  ⟨files, fun p m => match files p with
    | some (c, m') => if m' = m then some c else none
    | none => none, CacheWorld.fresh⟩

/-- `get_cacheable_apk_info(path)`. -/
def getCacheableApkInfo (sys : ApkSystem Stat Contents) (path : String) :
    ApkSystem Stat Contents × Except ApkInfoError (Option ApkInfo) :=
  if path = "" then (sys, .ok none)
  else match sys.files path with
    | none => (sys, .error (.fileNotFound path))
    | some (contents, modified) =>
      match sys.cache.getInfo 0 (apkId path modified) with
      | (cw, some info) => ({ sys with cache := cw }, .ok (some info))
      | (cw, none) =>
        match cw.store statOf 0 (extract path contents) (apkId path modified) true with
        | (cw', .ok ()) => ({ sys with cache := cw' }, .ok (some (extract path contents)))
        | (cw', .error e) => ({ sys with cache := cw' }, .error (.value e))

def rewrite (sys : ApkSystem Stat Contents) (path : String) (contents : Contents) (mtime : Mtime) :
    ApkSystem Stat Contents :=
  ⟨Function.update sys.files path (some (contents, mtime)),
    fun p m => if p = path ∧ m = mtime then some contents else sys.history p m, sys.cache⟩

def step (sys : ApkSystem Stat Contents) : ApkCall Contents → ApkSystem Stat Contents × ApkReply
  | .lookup path =>
    ((sys.getCacheableApkInfo statOf extract path).1,
      .info (sys.getCacheableApkInfo statOf extract path).2)
  | .rewrite path contents mtime => (sys.rewrite path contents mtime, .rewritten)
  | .store i info apkId overwrite =>
    ({ sys with cache := (sys.cache.store statOf i info apkId overwrite).1 },
      .stored (sys.cache.store statOf i info apkId overwrite).2)

def Along (P : ApkSystem Stat Contents → ApkCall Contents → ApkReply → Prop) :
    ApkSystem Stat Contents → List (ApkCall Contents) → Prop
  | _, [] => True
  | sys, call :: calls => P sys call (sys.step statOf extract call).2 ∧
      Along P (sys.step statOf extract call).1 calls

def Admissible (sys : ApkSystem Stat Contents) : ApkCall Contents → ApkReply → Prop
  | .lookup path, _ => path ≠ "" ∧ (sys.files path).isSome
  | .rewrite path contents mtime, _ => ∀ c, sys.history path mtime = some c → c = contents
  | .store i _ _ _, _ => i ≠ 0

def HonestStore (sys : ApkSystem Stat Contents) (info : ApkInfo) (key : String) : Prop :=
  ∃ p m c, sys.history p m = some c ∧ key = apkId p m ∧ info = extract p c

def HonestRun (sys : ApkSystem Stat Contents) (call : ApkCall Contents) (reply : ApkReply) : Prop :=
  Admissible sys call reply ∧
    ∀ i info key overwrite, call = .store i info key overwrite → HonestStore extract sys info key

def AgreesWithExtraction (sys : ApkSystem Stat Contents) : ApkCall Contents → ApkReply → Prop
  | .lookup path, reply => ∀ c m, sys.files path = some (c, m) →
      reply = .info (.ok (some (extract path c)))
  | _, _ => True

def Honest (hist : String → Mtime → Option Contents) (t : Table) : Prop :=
  ∀ k pod, t k = some pod → ∃ p m c, hist p m = some c ∧ k = apkId p m ∧ pod = (extract p c).toPod

structure CacheHonest (hist : String → Mtime → Option Contents) (w : CacheWorld Stat) : Prop where
  disk : ∀ t s, w.disk = some (t, s) → Honest extract hist t
  instances : ∀ i, Honest extract hist (w.instances i).cache

structure Sound (sys : ApkSystem Stat Contents) : Prop where
  files : ∀ p c m, sys.files p = some (c, m) → sys.history p m = some c
  cache : CacheHonest extract sys.history sys.cache

structure Settled (w : CacheWorld Stat) (key : String) (pod : ApkInfoPod) : Prop where
  synced : (w.instances 0).updateCache w.disk = w.instances 0
  holds : (w.instances 0).cache key = some pod

variable {statOf extract}

lemma honest_set {hist : String → Mtime → Option Contents} {t : Table} (h : Honest extract hist t)
    {k : String} {info : ApkInfo} (hk : ∃ p m c, hist p m = some c ∧ k = apkId p m ∧ info = extract p c) :
    Honest extract hist (t.set k info.toPod) := by
  intro k' pod hk'
  by_cases e : k' = k
  · subst e
    obtain ⟨p, m, c, hh, rfl, rfl⟩ := hk
    simp only [Table.set, Function.update_same, Option.some.injEq] at hk'
    exact ⟨p, m, c, hh, rfl, hk'.symm⟩
  · exact h k' pod (by simpa [Table.set, Function.update_noteq e] using hk')

lemma updateCache_honest {hist : String → Mtime → Option Contents} {w : CacheWorld Stat}
    (h : CacheHonest extract hist w) (i : Nat) :
    Honest extract hist ((w.instances i).updateCache w.disk).cache := by
  unfold ApkInfoCache.updateCache
  split
  · exact h.instances i
  · split
    · exact h.disk _ _ ‹_›
    · exact h.instances i

omit [DecidableEq Stat] in
lemma setInstance_honest {hist : String → Mtime → Option Contents} {w : CacheWorld Stat}
    (h : CacheHonest extract hist w) (i : Nat) {c : ApkInfoCache Stat}
    (hc : Honest extract hist c.cache) : CacheHonest extract hist (w.setInstance i c) :=
  ⟨h.disk, fun j => by
    by_cases hj : j = i
    · subst hj; simpa [CacheWorld.setInstance] using hc
    · simpa [CacheWorld.setInstance, hj] using h.instances j⟩

variable (statOf) in
lemma store_honest {hist : String → Mtime → Option Contents} {w : CacheWorld Stat}
    (h : CacheHonest extract hist w) (i : Nat) {info : ApkInfo} {key : String} (overwrite : Bool)
    (hk : ∃ p m c, hist p m = some c ∧ key = apkId p m ∧ info = extract p c) :
    CacheHonest extract hist (w.store statOf i info key overwrite).1 := by
  have hu := updateCache_honest h i
  unfold CacheWorld.store
  dsimp only
  split_ifs
  · exact setInstance_honest h i hu
  · refine ⟨fun t s hd => ?_, fun j => ?_⟩
    · simp only [Option.some.injEq, Prod.mk.injEq] at hd
      exact hd.1 ▸ honest_set hu hk
    · by_cases hj : j = i
      · subst hj; simpa using honest_set hu hk
      · simpa [Function.update_noteq hj] using h.instances j

lemma honest_mono {hist hist' : String → Mtime → Option Contents} {t : Table}
    (h : Honest extract hist t) (hh : ∀ p m c, hist p m = some c → hist' p m = some c) :
    Honest extract hist' t := fun k pod hk => by
  obtain ⟨p, m, c, e, rfl, rfl⟩ := h k pod hk
  exact ⟨p, m, c, hh p m c e, rfl, rfl⟩

omit [DecidableEq Stat] in
lemma honest_hit {sys : ApkSystem Stat Contents} (h : Sound extract sys) {t : Table}
    (ht : Honest extract sys.history t) {p : String} {c : Contents} {m : Mtime}
    (hf : sys.files p = some (c, m)) {pod : ApkInfoPod} (hpod : t (apkId p m) = some pod) :
    ApkInfo.fromPod pod = extract p c := by
  obtain ⟨p', m', c', hh, hk, rfl⟩ := ht _ pod hpod
  obtain ⟨rfl, rfl⟩ := apkId_injective hk
  have : c' = c := Option.some.inj (hh.symm.trans (h.files p c m hf))
  simp [this]

variable (statOf) in
lemma store_overwrite_ok (w : CacheWorld Stat) (i : Nat) (info : ApkInfo) (key : String) :
    (w.store statOf i info key true).2 = .ok () := by
  simp [CacheWorld.store]

variable (statOf extract) in
lemma getCacheableApkInfo_existing (sys : ApkSystem Stat Contents) {path : String}
    (hne : path ≠ "") {c : Contents} {m : Mtime} (hf : sys.files path = some (c, m)) :
    sys.getCacheableApkInfo statOf extract path =
      let c0 := (sys.cache.instances 0).updateCache sys.cache.disk
      let cw := sys.cache.setInstance 0 c0
      match c0.cache (apkId path m) with
      | some pod => ({ sys with cache := cw }, .ok (some (ApkInfo.fromPod pod)))
      | none => ({ sys with cache := (cw.store statOf 0 (extract path c) (apkId path m) true).1 },
          .ok (some (extract path c))) := by
  have hstore := store_overwrite_ok statOf (sys.cache.setInstance 0
    ((sys.cache.instances 0).updateCache sys.cache.disk)) 0 (extract path c) (apkId path m)
  cases hc : ((sys.cache.instances 0).updateCache sys.cache.disk).cache (apkId path m) with
  | some pod => simp [getCacheableApkInfo, hne, hf, CacheWorld.getInfo, hc]
  | none =>
    simp only [getCacheableApkInfo, hne, if_false, hf, CacheWorld.getInfo, hc, Option.map_none']
    split
    · next cw' heq => simp [heq]
    · next cw' e heq => simp [heq] at hstore

variable (statOf) in
lemma getCacheableApkInfo_spec {sys : ApkSystem Stat Contents} (h : Sound extract sys)
    {path : String} (hne : path ≠ "") {c : Contents} {m : Mtime}
    (hf : sys.files path = some (c, m)) :
    Sound extract (sys.getCacheableApkInfo statOf extract path).1 ∧
      (sys.getCacheableApkInfo statOf extract path).2 = .ok (some (extract path c)) := by
  have hu := updateCache_honest h.cache 0
  have hw := setInstance_honest h.cache 0 hu
  rw [getCacheableApkInfo_existing statOf extract sys hne hf]
  dsimp only
  split
  · next pod hc => exact ⟨⟨h.files, hw⟩, by rw [honest_hit h hu hf hc]⟩
  · exact ⟨⟨h.files, store_honest statOf hw 0 true ⟨path, m, c, h.files path c m hf, rfl, rfl⟩⟩, rfl⟩

variable (statOf extract) in
lemma getCacheableApkInfo_settles (sys : ApkSystem Stat Contents) {path : String}
    (hne : path ≠ "") {c : Contents} {m : Mtime} (hf : sys.files path = some (c, m)) :
    ∃ pod, Settled (sys.getCacheableApkInfo statOf extract path).1.cache (apkId path m) pod ∧
      (sys.getCacheableApkInfo statOf extract path).2 = .ok (some (ApkInfo.fromPod pod)) ∧
      (sys.getCacheableApkInfo statOf extract path).1.files = sys.files := by
  rw [getCacheableApkInfo_existing statOf extract sys hne hf]
  dsimp only
  split
  · next pod hc => exact ⟨pod, ⟨by simp [CacheWorld.setInstance], by simpa [CacheWorld.setInstance] using hc⟩, rfl, rfl⟩
  · exact ⟨(extract path c).toPod, ⟨by simp [CacheWorld.store, ApkInfoCache.updateCache],
      by simp [CacheWorld.store, Table.set]⟩, by simp, rfl⟩

variable (statOf extract) in
lemma getCacheableApkInfo_of_settled {sys : ApkSystem Stat Contents} {path : String}
    (hne : path ≠ "") {c : Contents} {m : Mtime} (hf : sys.files path = some (c, m))
    {pod : ApkInfoPod} (hs : Settled sys.cache (apkId path m) pod) :
    sys.getCacheableApkInfo statOf extract path = (sys, .ok (some (ApkInfo.fromPod pod))) := by
  rw [getCacheableApkInfo_existing statOf extract sys hne hf]
  simp [hs.synced, hs.holds]

theorem step_sound {sys : ApkSystem Stat Contents} (h : Sound extract sys) (call : ApkCall Contents)
    (hadm : HonestRun extract sys call (sys.step statOf extract call).2) :
    Sound extract (sys.step statOf extract call).1 ∧
      AgreesWithExtraction extract sys call (sys.step statOf extract call).2 := by
  cases call with
  | lookup path =>
    obtain ⟨⟨hne, hsome⟩, -⟩ := hadm
    obtain ⟨⟨c, m⟩, hf⟩ := Option.isSome_iff_exists.mp hsome
    obtain ⟨hs, hr⟩ := getCacheableApkInfo_spec statOf h hne hf
    refine ⟨hs, fun c' m' hf' => ?_⟩
    rw [hf] at hf'
    obtain ⟨rfl, rfl⟩ := Prod.mk.inj (Option.some.inj hf')
    simp [step, hr]
  | rewrite path contents mtime =>
    show Sound extract (sys.rewrite path contents mtime) ∧ True
    have hadm := hadm.1
    have hmono : ∀ p m c, sys.history p m = some c →
        (sys.rewrite path contents mtime).history p m = some c := by
      intro p m c hh
      by_cases e : p = path ∧ m = mtime
      · obtain ⟨rfl, rfl⟩ := e
        simp [rewrite, hadm c hh]
      · simp [rewrite, e, hh]
    refine ⟨⟨fun p c m hf => ?_, ⟨fun t s hd => honest_mono (h.cache.disk t s hd) hmono,
      fun i => honest_mono (h.cache.instances i) hmono⟩⟩, trivial⟩
    by_cases e : p = path
    · subst e
      simp only [rewrite, Function.update_same, Option.some.injEq, Prod.mk.injEq] at hf
      simp [rewrite, hf.1, hf.2]
    · simp only [rewrite, Function.update_noteq e] at hf
      simp [rewrite, e, h.files p c m hf]
  | store i info key overwrite =>
    exact ⟨⟨h.files, store_honest statOf h.cache i overwrite (hadm.2 i info key overwrite rfl)⟩, trivial⟩

theorem along_agrees (calls : List (ApkCall Contents)) :
    ∀ {sys : ApkSystem Stat Contents}, Sound extract sys →
      Along statOf extract (HonestRun extract) sys calls →
      Along statOf extract (AgreesWithExtraction extract) sys calls := by
  induction calls with
  | nil => intro _ _ _; trivial
  | cons call calls ih =>
    intro sys h hrun
    obtain ⟨hs, hagree⟩ := step_sound h call hrun.1
    exact ⟨hagree, ih hs hrun.2⟩

omit [DecidableEq Stat] in
lemma start_sound (files : String → Option (Contents × Mtime)) :
    Sound extract (start files : ApkSystem Stat Contents) := by
  refine ⟨fun p c m hf => ?_, ⟨fun t s hd => (by cases hd), fun i k pod hk => (by cases hk)⟩⟩
  simp only [start] at hf ⊢
  simp [hf]

/-- Starting from the apk files and no cache file, along every run of lookups of existing
files, rewrites that never give a file an mtime it had before with other contents, and
stores by other instances that hold the extraction of the file their key names, every
lookup returns the extraction of the file's current contents. -/
theorem cached_lookup_is_extraction (statOf : Nat → Stat) (extract : String → Contents → ApkInfo)
    (files : String → Option (Contents × Mtime)) (calls : List (ApkCall Contents))
    (hrun : Along statOf extract (HonestRun extract) (start files) calls) :
    Along statOf extract (AgreesWithExtraction extract) (start files) calls :=
  along_agrees calls (start_sound files) hrun

end ApkSystem

def tenSeconds : Mtime := ⟨"10.0", .fixed (i := ['1', '0']) (f := ['0']) ⟨by simp, by decide⟩ ⟨by simp, by decide⟩⟩

def packageExtract (path contents : String) : ApkInfo := { sampleApkInfo path with package := some contents }

/-- One apk, `app.apk`, of package `com.example.app`. -/
def oneApk (p : String) : Option (String × Mtime) :=
  if p = "app.apk" then some ("com.example.app", tenSeconds) else none

/-- Instance 1 stores another package's record under `app.apk`'s key; then a lookup. -/
def foreignStoreCalls : List (ApkCall String) :=
  [.store 1 (packageExtract "app.apk" "com.example.other") (apkId "app.apk" tenSeconds) true,
    .lookup "app.apk"]

def twentySeconds : Mtime := ⟨"20.0", .fixed (i := ['2', '0']) (f := ['0']) ⟨by simp, by decide⟩ ⟨by simp, by decide⟩⟩

/-- A lookup of `app.apk`; the file rewritten with another package at a later mtime;
instance 1 storing the extraction of the new contents under the new key; a lookup. -/
def rewriteStoreCalls : List (ApkCall String) :=
  [.lookup "app.apk", .rewrite "app.apk" "com.example.app2" twentySeconds,
    .store 1 (packageExtract "app.apk" "com.example.app2") (apkId "app.apk" twentySeconds) true,
    .lookup "app.apk"]

theorem cached_lookup_is_extraction_app :
    ApkSystem.Along (fun n => n) packageExtract (ApkSystem.HonestRun packageExtract)
      (ApkSystem.start oneApk) rewriteStoreCalls ∧
    ApkSystem.Along (fun n => n) packageExtract (ApkSystem.AgreesWithExtraction packageExtract)
      (ApkSystem.start oneApk) rewriteStoreCalls := by
  have hrun : ApkSystem.Along (fun n => n) packageExtract (ApkSystem.HonestRun packageExtract)
      (ApkSystem.start oneApk) rewriteStoreCalls :=
    ⟨⟨⟨by decide, rfl⟩, fun _ _ _ _ h => by cases h⟩,
      ⟨(fun c h => by cases h), fun _ _ _ _ h => by cases h⟩,
      ⟨show (1 : Nat) ≠ 0 by decide, fun _ _ _ _ h => by
        cases h
        exact ⟨"app.apk", twentySeconds, "com.example.app2", rfl, rfl, rfl⟩⟩,
      ⟨⟨by decide, rfl⟩, fun _ _ _ _ h => by cases h⟩, trivial⟩
  exact ⟨hrun, ApkSystem.cached_lookup_is_extraction _ _ _ _ hrun⟩

/-- The cache returns whatever another instance stored under a file's key. -/
theorem foreign_store_is_returned :
    ApkSystem.Along (fun n => n) packageExtract ApkSystem.Admissible (ApkSystem.start oneApk)
      foreignStoreCalls ∧
    ¬ ApkSystem.Along (fun n => n) packageExtract (ApkSystem.AgreesWithExtraction packageExtract)
      (ApkSystem.start oneApk) foreignStoreCalls := by
  refine ⟨⟨show (1 : Nat) ≠ 0 by decide, ⟨by decide, rfl⟩, trivial⟩, fun h => ?_⟩
  have hreply := h.2.1 "com.example.app" tenSeconds rfl
  have hcomputed : (ApkSystem.step (fun n => n) packageExtract
      (ApkSystem.step (fun n => n) packageExtract (ApkSystem.start oneApk)
        (.store 1 (packageExtract "app.apk" "com.example.other") (apkId "app.apk" tenSeconds) true)).1
      (.lookup "app.apk")).2 = .info (.ok (some (packageExtract "app.apk" "com.example.other"))) := rfl
  have := hreply.symm.trans hcomputed
  simp [packageExtract] at this

end WorkloadAutomation
