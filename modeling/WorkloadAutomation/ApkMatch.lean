import WorkloadAutomation.CacheableApkInfo
import WorkloadAutomation.Version
import WorkloadAutomation.ResourceKinds

/-!
# Matching apk files

`ApkFile.match` of `resource.py` and the predicates it calls. Each predicate except the
file-name one reads the candidate's metadata through `get_cacheable_apk_info`, so a match
runs on the apk system of `CacheableApkInfo` and may store into the cache as it goes.
Python's `re.search` is a parameter.
-/

namespace WorkloadAutomation

structure ReError where
  msg : String
  deriving DecidableEq, Repr

/-- Python's `re.search(pattern, string)`, outside the repository: whether the pattern
matches somewhere in the string, or the `re.error` compiling the pattern raises. -/
abbrev ReSearch := String → String → Except ReError Bool

inductive MatchError where
  | apkInfo (e : ApkInfoError)
  | regex (e : ReError)
  | indexError

abbrev MatchM (Stat Contents : Type) := ExceptT MatchError (StateM (ApkSystem Stat Contents))

/-- Modelled from the spec: `list_or_string` of `wa.utils.types`, which is missing from the
repository's files; a version request as the list of versions it names. -/
def VersionRequest.toList : VersionRequest → List String
  | .one v => [v]
  | .many vs => vs

def VersionRequest.truthy : VersionRequest → Bool
  | .one v => v ≠ ""
  | .many vs => !vs.isEmpty

def uiautoMarker : String := "com.arm.wa.uiauto"

section Predicates

variable {Stat Contents : Type} [DecidableEq Stat] (statOf : Nat → Stat)
  (extract : String → Contents → ApkInfo)

/-- `get_cacheable_apk_info(path)` inside a match. -/
def cachedInfo (path : String) : MatchM Stat Contents (Option ApkInfo) :=
  ExceptT.mk fun sys =>
    match sys.getCacheableApkInfo statOf extract path with
    | (sys', .ok info) => (.ok info, sys')
    | (sys', .error e) => (.error (.apkInfo e), sys')

def versionAnswer (version : VersionRequest) : Option ApkInfo → Bool
  | none => false
  | some info => version.toList.any fun v =>
      some v == info.versionName || some v == info.versionCode ||
        looseVersionMatching v info.versionName

/-- `apk_version_matches(path, version)`. -/
def apkVersionMatches (path : String) (version : VersionRequest) : MatchM Stat Contents Bool := do
  let info ← cachedInfo statOf extract path
  return versionAnswer version info

def rangeAnswer (minVersion maxVersion : Option String) : Option ApkInfo → Bool
  | some info => rangeVersionMatching info.versionName minVersion maxVersion
  | none => rangeVersionMatching (some "") minVersion maxVersion

/-- `apk_version_matches_range(path, min_version, max_version)`. -/
def apkVersionMatchesRange (path : String) (minVersion maxVersion : Option String) :
    MatchM Stat Contents Bool := do
  let info ← cachedInfo statOf extract path
  return rangeAnswer minVersion maxVersion info

/-- `file_name_matches(path, pattern)`, which reads no metadata. -/
def fileNameAnswer (reSearch : ReSearch) (path pattern : String) : Except MatchError Bool :=
  let filename := String.mk (basename path.toList)
  if pyContains pattern.toList filename.toList then .ok true
  else match reSearch pattern filename with
    | .ok found => .ok found
    | .error e => .error (.regex e)

/-- `file_name_matches(path, pattern)`. -/
def fileNameMatches (reSearch : ReSearch) (path pattern : String) : MatchM Stat Contents Bool :=
  MonadExcept.ofExcept (fileNameAnswer reSearch path pattern)

def uiautoAnswer (uiauto : Bool) : Option ApkInfo → Bool
  | none => false
  | some info => uiauto == pyContains uiautoMarker.toList (info.package.getD "").toList

/-- `uiauto_test_matches(path, uiauto)`. -/
def uiautoTestMatches (path : String) (uiauto : Bool) : MatchM Stat Contents Bool := do
  let info ← cachedInfo statOf extract path
  return uiautoAnswer uiauto info

def packageAnswer (package : String) : Option ApkInfo → Bool
  | none => false
  | some info => info.package == some package

/-- `package_name_matches(path, package)`. -/
def packageNameMatches (path package : String) : MatchM Stat Contents Bool := do
  let info ← cachedInfo statOf extract path
  return packageAnswer package info

/-- What `apk_abi_matches` returns once it has the metadata; `supported_abi_[0]` of an
empty list raises `IndexError`. -/
def abiAnswer (supportedAbi : List (Option String)) (exactAbi : Bool) :
    Option ApkInfo → Except MatchError Bool
  | none => .ok false
  | some info =>
    let nativeCode := info.nativeCode.getD []
    if nativeCode.isEmpty then .ok true
    else if exactAbi then
      match supportedAbi with
      | [] => .error .indexError
      | abi :: _ => .ok (abi.any (· ∈ nativeCode))
    else .ok (supportedAbi.any fun abi => abi.any (· ∈ nativeCode))

/-- `apk_abi_matches(path, supported_abi, exact_abi)`. -/
def apkAbiMatches (path : String) (supportedAbi : List (Option String)) (exactAbi : Bool) :
    MatchM Stat Contents Bool := do
  let info ← cachedInfo statOf extract path
  MonadExcept.ofExcept (abiAnswer supportedAbi exactAbi info)

/-- `ApkFile.match(path)`. -/
def ApkFile.matches (reSearch : ReSearch) (req : ApkFile) (path : String) :
    MatchM Stat Contents Bool := do
  let uiautoMatches ← uiautoTestMatches statOf extract path req.uiauto
  let versionMatches ← if req.version.any VersionRequest.truthy then
      apkVersionMatches statOf extract path (req.version.getD (.many [])) else pure true
  let versionRangeMatches ← if pyTruthy req.maxVersion || pyTruthy req.minVersion then
      apkVersionMatchesRange statOf extract path req.minVersion req.maxVersion else pure true
  let nameMatches ← if pyTruthy req.variant then
      fileNameMatches reSearch path (req.variant.getD "") else pure true
  let packageMatches ← if pyTruthy req.package then
      packageNameMatches statOf extract path (req.package.getD "") else pure true
  let abiMatches ← if !(req.supportedAbi.getD []).isEmpty then
      apkAbiMatches statOf extract path (req.supportedAbi.getD []) req.exactAbi else pure true
  return nameMatches && versionMatches && versionRangeMatches && uiautoMatches &&
    packageMatches && abiMatches

/-- What `ApkFile.match` returns when every lookup gives the record `info`: its code with
each predicate reading `info`. -/
def matchAnswer (reSearch : ReSearch) (req : ApkFile) (path : String) (info : Option ApkInfo) :
    Except MatchError Bool := do
  let uiautoMatches := uiautoAnswer req.uiauto info
  let versionMatches ← if req.version.any VersionRequest.truthy then
      pure (versionAnswer (req.version.getD (.many [])) info) else pure true
  let versionRangeMatches ← if pyTruthy req.maxVersion || pyTruthy req.minVersion then
      pure (rangeAnswer req.minVersion req.maxVersion info) else pure true
  let nameMatches ← if pyTruthy req.variant then
      fileNameAnswer reSearch path (req.variant.getD "") else pure true
  let packageMatches ← if pyTruthy req.package then
      pure (packageAnswer (req.package.getD "") info) else pure true
  let abiMatches ← if !(req.supportedAbi.getD []).isEmpty then
      abiAnswer (req.supportedAbi.getD []) req.exactAbi info else pure true
  return nameMatches && versionMatches && versionRangeMatches && uiautoMatches &&
    packageMatches && abiMatches

lemma except_ite_bind {ε α β : Type} (c : Bool) (r : Except ε α) (a₀ : α) (g : α → Except ε β) :
    (if c then r >>= g else pure a₀ >>= g) = (if c then r else pure a₀) >>= g := by
  cases c <;> rfl

lemma except_ite_pure {ε α : Type} (c : Bool) (a b : α) :
    (if c then pure a else pure b : Except ε α) = pure (if c then a else b) := by
  cases c <;> rfl

lemma matchAnswer_eq (reSearch : ReSearch) (req : ApkFile) (path : String) (info : Option ApkInfo) :
    matchAnswer reSearch req path info =
      ((if pyTruthy req.variant then fileNameAnswer reSearch path (req.variant.getD "")
        else pure true) >>= fun nameMatches =>
      (if !(req.supportedAbi.getD []).isEmpty then
        abiAnswer (req.supportedAbi.getD []) req.exactAbi info else pure true) >>= fun abiMatches =>
      pure (nameMatches &&
        (if req.version.any VersionRequest.truthy then
          versionAnswer (req.version.getD (.many [])) info else true) &&
        (if pyTruthy req.maxVersion || pyTruthy req.minVersion then
          rangeAnswer req.minVersion req.maxVersion info else true) &&
        uiautoAnswer req.uiauto info &&
        (if pyTruthy req.package then packageAnswer (req.package.getD "") info else true) &&
        abiMatches)) := by
  simp only [matchAnswer, except_ite_bind]
  simp only [except_ite_pure]
  simp only [pure_bind]

end Predicates

section Run

variable {ε σ α β : Type} {x : ExceptT ε (StateM σ) α} {f : α → ExceptT ε (StateM σ) β} {s s' : σ}

lemma run_bind_of_ok {a : α} (h : x.run s = (.ok a, s')) : (x >>= f).run s = (f a).run s' := by
  simp only [ExceptT.run_bind]
  change (x.run >>= _) s = _
  simp only [bind, StateT.bind, h]

lemma run_bind_of_error {e : ε} (h : x.run s = (.error e, s')) :
    (x >>= f).run s = (.error e, s') := by
  simp only [ExceptT.run_bind]
  change (x.run >>= _) s = _
  simp only [bind, StateT.bind, h]
  rfl

lemma run_bind_of_pure {r : Except ε α} {g : α → Except ε β} (h : x.run s = (r, s))
    (hf : ∀ a, (f a).run s = (g a, s)) : (x >>= f).run s = (r >>= g, s) := by
  cases r with
  | error e => exact run_bind_of_error h
  | ok a => exact (run_bind_of_ok h).trans (hf a)

lemma run_ite_bind {r : Except ε α} {g : α → Except ε β} (h : x.run s = (r, s))
    (hf : ∀ a, (f a).run s = (g a, s)) (c : Bool) (a₀ : α) :
    (if c then x >>= f else pure a₀ >>= f).run s = (if c then r >>= g else pure a₀ >>= g, s) := by
  cases c
  · exact hf a₀
  · exact run_bind_of_pure h hf

lemma run_ofExcept (r : Except ε α) :
    (MonadExcept.ofExcept r : ExceptT ε (StateM σ) α).run s = (r, s) := by
  cases r <;> rfl

end Run

section Runs

variable {Stat Contents : Type} [DecidableEq Stat] (statOf : Nat → Stat)
  (extract : String → Contents → ApkInfo)

lemma cachedInfo_run {sys sys' : ApkSystem Stat Contents} {path : String} {info : Option ApkInfo}
    (h : sys.getCacheableApkInfo statOf extract path = (sys', .ok info)) :
    (cachedInfo statOf extract path).run sys = (.ok info, sys') := by
  simp only [cachedInfo, ExceptT.run, ExceptT.mk, h]

theorem matches_run (reSearch : ReSearch) (req : ApkFile) (sys : ApkSystem Stat Contents)
    {path : String} (hne : path ≠ "") {c : Contents} {m : Mtime}
    (hf : sys.files path = some (c, m)) :
    ∃ info, (sys.getCacheableApkInfo statOf extract path).2 = .ok (some info) ∧
      (ApkFile.matches statOf extract reSearch req path).run sys =
        (matchAnswer reSearch req path (some info), (sys.getCacheableApkInfo statOf extract path).1) := by
  obtain ⟨pod, hs, hr, hfiles⟩ := ApkSystem.getCacheableApkInfo_settles statOf extract sys hne hf
  refine ⟨_, hr, ?_⟩
  generalize hs1 : (sys.getCacheableApkInfo statOf extract path).1 = s1 at hs hfiles
  have h0 := cachedInfo_run statOf extract (Prod.ext hs1 hr)
  -- after the first lookup every lookup returns `info` and leaves `s1` as it is
  have hl := cachedInfo_run statOf extract
    (ApkSystem.getCacheableApkInfo_of_settled statOf extract hne (hfiles ▸ hf) hs)
  have hu : (uiautoTestMatches statOf extract path req.uiauto).run sys =
      (.ok (uiautoAnswer req.uiauto (some (ApkInfo.fromPod pod))), s1) := run_bind_of_ok h0
  have hv : ∀ vr, (apkVersionMatches statOf extract path vr).run s1 =
      (.ok (versionAnswer vr (some (ApkInfo.fromPod pod))), s1) := fun _ => run_bind_of_ok hl
  have hrange : ∀ lo hi, (apkVersionMatchesRange statOf extract path lo hi).run s1 =
      (.ok (rangeAnswer lo hi (some (ApkInfo.fromPod pod))), s1) := fun _ _ => run_bind_of_ok hl
  have hp : ∀ p, (packageNameMatches statOf extract path p).run s1 =
      (.ok (packageAnswer p (some (ApkInfo.fromPod pod))), s1) := fun _ => run_bind_of_ok hl
  have habi : ∀ abis exact, (apkAbiMatches statOf extract path abis exact).run s1 =
      (abiAnswer abis exact (some (ApkInfo.fromPod pod)), s1) := fun _ _ => (run_bind_of_ok hl).trans (run_ofExcept _)
  unfold ApkFile.matches
  exact (run_bind_of_ok hu).trans <|
    run_ite_bind (hv _) (fun _ =>
    run_ite_bind (hrange _ _) (fun _ =>
    run_ite_bind (run_ofExcept _) (fun _ =>
    run_ite_bind (hp _) (fun _ =>
    run_ite_bind (habi _ _) (fun _ => rfl) _ _) _ _) _ _) _ _) _ _

end Runs

end WorkloadAutomation
