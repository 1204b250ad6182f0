import WorkloadAutomation.Text
import Mathlib.Data.List.Lex
import Mathlib.Data.String.Basic

/-!
# Version tuples and version matching

`version_tuple` belongs to `wa.utils.types`, which is not among the repository's files, so
it is modelled from the spec (section 4.1): a version splits at its dots, decimal segments
are coerced to numbers so that tuple comparison follows semantic version order, and an
empty or absent version gives the empty tuple. Over it, `range_version_matching` and
`loose_version_matching` of `resource.py` are translated as written.
-/

namespace WorkloadAutomation

inductive VersionAtom where
  | num (n : Nat)
  | str (s : String)
  deriving DecidableEq, Repr

def VersionAtom.lt : VersionAtom → VersionAtom → Bool
  | .num a, .num b => decide (a < b)
  | .num _, .str _ => true
  | .str _, .num _ => false
  | .str a, .str b => decide (a < b)

def tupleLt : List VersionAtom → List VersionAtom → Bool
  | [], [] => false
  | [], _ :: _ => true
  | _ :: _, [] => false
  | a :: as, b :: bs => if a = b then tupleLt as bs else a.lt b

def TupleLe (a b : List VersionAtom) : Prop := a = b ∨ tupleLt a b = true

lemma VersionAtom.lt_eq_false_of_lt {a b : VersionAtom} (h : a.lt b = true) : b.lt a = false := by
  cases a <;> cases b <;>
    simp only [VersionAtom.lt, decide_eq_true_eq, decide_eq_false_iff_not, Bool.false_eq_true] at h ⊢
  · exact Nat.lt_asymm h
  · exact lt_asymm (α := String) h

lemma VersionAtom.lt_or_lt_of_ne {a b : VersionAtom} (h : a ≠ b) : a.lt b = true ∨ b.lt a = true := by
  cases a <;> cases b <;> simp only [VersionAtom.lt, decide_eq_true_eq, ne_eq, VersionAtom.num.injEq,
    VersionAtom.str.injEq, or_true, true_or] at h ⊢
  · exact Nat.lt_or_gt_of_ne h
  · exact lt_or_gt_of_ne (α := String) h

theorem tupleLt_eq_false_iff (a b : List VersionAtom) : tupleLt b a = false ↔ TupleLe a b := by
  induction a generalizing b with
  | nil => cases b <;> simp [tupleLt, TupleLe]
  | cons x xs ih =>
    cases b with
    | nil => simp [tupleLt, TupleLe]
    | cons y ys =>
      by_cases h : x = y
      · subst h
        simp [tupleLt, TupleLe, ih]
      · have hne : y ≠ x := Ne.symm h
        simp only [tupleLt, TupleLe, if_neg h, if_neg hne, List.cons.injEq, h, false_and, false_or]
        rcases VersionAtom.lt_or_lt_of_ne h with hxy | hyx
        · simp [hxy, VersionAtom.lt_eq_false_of_lt hxy]
        · simp [hyx, VersionAtom.lt_eq_false_of_lt hyx]

/-- `int(s)` of a string of ASCII digits. -/
def digitsValue (cs : List Char) : Nat :=
  cs.foldl (fun n c => 10 * n + (c.toNat - '0'.toNat)) 0

def segmentAtom (seg : List Char) : VersionAtom :=
  if seg ≠ [] ∧ seg.all Char.isDigit then .num (digitsValue seg) else .str (String.mk seg)

/-- Modelled from the spec: `version_tuple` of `wa.utils.types`, which is missing from the
repository's files. The dot-separated segments, numeric ones coerced; the empty tuple for
an empty or absent version. -/
def versionTuple : Option String → List VersionAtom
  | none => []
  | some s => if s = "" then [] else (s.toList.splitOn '.').map segmentAtom

def pyTruthy : Option String → Bool
  | none => false
  | some s => s ≠ ""

/-- `range_version_matching(apk_version, min_version=None, max_version=None)`. -/
def rangeVersionMatching (apkVersion : Option String) (minVersion maxVersion : Option String) :
    Bool :=
  if !pyTruthy apkVersion then false
  else
    let apkVersionTuple := versionTuple (some (apkVersion.getD ""))
    if pyTruthy maxVersion && tupleLt (versionTuple maxVersion) apkVersionTuple then false
    else if pyTruthy minVersion && tupleLt apkVersionTuple (versionTuple minVersion) then false
    else true

/-- `loose_version_matching(config_version, apk_version)`. -/
def looseVersionMatching (configVersion : String) (apkVersion : Option String) : Bool :=
  let configVersionTuple := versionTuple (some configVersion)
  let apkVersionTuple := versionTuple apkVersion
  if apkVersionTuple.length < configVersionTuple.length then false
  else (List.range configVersionTuple.length).all fun i =>
    configVersionTuple[i]? == apkVersionTuple[i]?

lemma prefix_check_iff {α : Type} [DecidableEq α] (l₁ l₂ : List α) :
    (if l₂.length < l₁.length then false
      else (List.range l₁.length).all fun i => l₁[i]? == l₂[i]?) = true ↔ l₁ <+: l₂ := by
  rw [List.prefix_iff_eq_take]
  split_ifs with h
  · simp only [Bool.false_eq_true, false_iff]
    intro e
    have := congrArg List.length e
    simp at this
    omega
  · simp only [List.all_eq_true, List.mem_range, beq_iff_eq]
    constructor
    · intro hi
      apply List.ext_getElem?
      intro i
      by_cases hi' : i < l₁.length
      · rw [hi i hi', List.getElem?_take_of_lt hi']
      · rw [List.getElem?_eq_none (by omega), List.getElem?_eq_none (by simp; omega)]
    · intro e i hi
      rw [e, List.getElem?_take_of_lt (by simpa using hi)]

theorem rangeVersionMatching_eq_true_iff (apkVersion minVersion maxVersion : Option String) :
    rangeVersionMatching apkVersion minVersion maxVersion = true ↔ pyTruthy apkVersion ∧
      (pyTruthy minVersion → TupleLe (versionTuple minVersion) (versionTuple apkVersion)) ∧
      (pyTruthy maxVersion → TupleLe (versionTuple apkVersion) (versionTuple maxVersion)) := by
  rw [← tupleLt_eq_false_iff, ← tupleLt_eq_false_iff]
  cases apkVersion with
  | none => simp [rangeVersionMatching, pyTruthy]
  | some a =>
    simp only [rangeVersionMatching, Option.getD_some]
    cases pyTruthy (some a) <;> cases pyTruthy minVersion <;> cases pyTruthy maxVersion <;>
      simp [and_comm]

theorem looseVersionMatching_iff (configVersion : String) (apkVersion : Option String) :
    looseVersionMatching configVersion apkVersion = true ↔
      versionTuple (some configVersion) <+: versionTuple apkVersion :=
  prefix_check_iff _ _

def IsNumericVersion (s : String) (ns : List Nat) : Prop :=
  ∃ segs : List (List Char), segs ≠ [] ∧ (∀ seg ∈ segs, seg ≠ [] ∧ ∀ c ∈ seg, c.isDigit) ∧
    s.toList = ['.'].intercalate segs ∧ ns = segs.map digitsValue

def versionLe (xs ys : List Nat) : Prop := xs = ys ∨ List.Lex (· < ·) xs ys

/-- What a `min_version` or `max_version` argument asks: nothing when it is `None` or
empty, the bound `ns` when it is a numeric version. -/
inductive VersionBound : Option String → Option (List Nat) → Prop
  | none : VersionBound none none
  | empty : VersionBound (some "") none
  | version {s ns} : IsNumericVersion s ns → VersionBound (some s) (some ns)

lemma lex_cons_iff {x y : Nat} {xs ys : List Nat} :
    List.Lex (· < ·) (x :: xs) (y :: ys) ↔ x < y ∨ (x = y ∧ List.Lex (· < ·) xs ys) := by
  constructor
  · intro h
    cases h with
    | cons h => exact .inr ⟨rfl, h⟩
    | rel h => exact .inl h
  · rintro (h | ⟨rfl, h⟩)
    · exact .rel h
    · exact .cons h

lemma versionLe_cons {x y : Nat} {xs ys : List Nat} :
    versionLe (x :: xs) (y :: ys) ↔ x < y ∨ (x = y ∧ versionLe xs ys) := by
  unfold versionLe
  rw [lex_cons_iff]
  constructor
  · rintro (h | h | ⟨rfl, h⟩)
    · simp only [List.cons.injEq] at h
      exact .inr ⟨h.1, .inl h.2⟩
    · exact .inl h
    · exact .inr ⟨rfl, .inr h⟩
  · rintro (h | ⟨rfl, h | h⟩)
    · exact .inr (.inl h)
    · exact .inl (by rw [h])
    · exact .inr (.inr ⟨rfl, h⟩)

theorem tupleLt_map_num_eq_false (xs ys : List Nat) :
    tupleLt (ys.map .num) (xs.map .num) = false ↔ versionLe xs ys := by
  induction xs generalizing ys with
  | nil =>
    cases ys with
    | nil => simp [tupleLt, versionLe]
    | cons y ys => simp [tupleLt, versionLe, List.Lex.nil]
  | cons x xs ih =>
    cases ys with
    | nil => simp [tupleLt, versionLe, List.Lex.not_nil_right]
    | cons y ys =>
      rw [versionLe_cons]
      by_cases hxy : y = x
      · subst hxy
        simp [tupleLt, ih]
      · simp only [List.map_cons, tupleLt, VersionAtom.num.injEq, hxy, if_false, VersionAtom.lt,
          decide_eq_false_iff_not, Ne.symm hxy, false_and, or_false]
        omega

lemma digits_no_dot {seg : List Char} (h : ∀ c ∈ seg, c.isDigit) : '.' ∉ seg :=
  fun hm => absurd (h '.' hm) (by decide)

lemma splitOn_numeric {s : String} {ns : List Nat} (h : IsNumericVersion s ns) :
    ∃ segs : List (List Char), (∀ seg ∈ segs, seg ≠ [] ∧ ∀ c ∈ seg, c.isDigit) ∧
      s.toList.splitOn '.' = segs ∧ ns = segs.map digitsValue ∧ s ≠ "" := by
  obtain ⟨segs, hne, hseg, hs, rfl⟩ := h
  have hsplit : s.toList.splitOn '.' = segs :=
    hs ▸ List.splitOn_intercalate segs '.' (fun seg hm => digits_no_dot (hseg seg hm).2) hne
  refine ⟨segs, hseg, hsplit, rfl, ?_⟩
  rintro rfl
  obtain ⟨seg, rest, rfl⟩ := List.exists_cons_of_ne_nil hne
  have := (hseg seg (by simp)).1
  simp_all [List.splitOn]

lemma versionTuple_of_numeric {s : String} {ns : List Nat} (h : IsNumericVersion s ns) :
    versionTuple (some s) = ns.map .num := by
  obtain ⟨segs, hseg, hsplit, rfl, hne⟩ := splitOn_numeric h
  simp only [versionTuple, hne, if_false, hsplit, List.map_map]
  refine List.map_congr_left fun seg hm => ?_
  simp [segmentAtom, (hseg seg hm).1, List.all_eq_true.mpr (hseg seg hm).2]

lemma pyTruthy_of_numeric {s : String} {ns : List Nat} (h : IsNumericVersion s ns) :
    pyTruthy (some s) = true := by
  obtain ⟨-, -, -, -, hne⟩ := splitOn_numeric h
  simpa [pyTruthy] using hne

lemma max_check_eq_false {hi : Option String} {nhi : Option (List Nat)} (na : List Nat)
    (hhi : VersionBound hi nhi) :
    (pyTruthy hi && tupleLt (versionTuple hi) (na.map .num)) = false ↔
      ∀ h ∈ nhi, versionLe na h := by
  cases hhi with
  | none => simp [pyTruthy]
  | empty => simp [pyTruthy]
  | version hv =>
    simp [pyTruthy_of_numeric hv, versionTuple_of_numeric hv, tupleLt_map_num_eq_false]

lemma min_check_eq_false {lo : Option String} {nlo : Option (List Nat)} (na : List Nat)
    (hlo : VersionBound lo nlo) :
    (pyTruthy lo && tupleLt (na.map .num) (versionTuple lo)) = false ↔
      ∀ l ∈ nlo, versionLe l na := by
  cases hlo with
  | none => simp [pyTruthy]
  | empty => simp [pyTruthy]
  | version hv =>
    simp [pyTruthy_of_numeric hv, versionTuple_of_numeric hv, tupleLt_map_num_eq_false]

/-- On numeric versions, `range_version_matching` holds exactly when the version lies
between the bounds in numeric version order; a bound that is `None` or empty imposes
nothing. -/
theorem range_version_matching_iff {a : String} {lo hi : Option String} {na : List Nat}
    {nlo nhi : Option (List Nat)} (ha : IsNumericVersion a na) (hlo : VersionBound lo nlo)
    (hhi : VersionBound hi nhi) :
    rangeVersionMatching (some a) lo hi = true ↔
      (∀ l ∈ nlo, versionLe l na) ∧ (∀ h ∈ nhi, versionLe na h) := by
  rw [← max_check_eq_false na hhi, ← min_check_eq_false na hlo]
  simp only [rangeVersionMatching, pyTruthy_of_numeric ha, Option.getD_some,
    versionTuple_of_numeric ha]
  cases pyTruthy hi && tupleLt (versionTuple hi) (na.map .num) <;>
    cases pyTruthy lo && tupleLt (na.map .num) (versionTuple lo) <;> simp

theorem range_version_matching_ten_two :
    IsNumericVersion "10.2" [10, 2] ∧ VersionBound (some "9.0") (some [9, 0]) ∧
      VersionBound (some "") none ∧
      (rangeVersionMatching (some "10.2") (some "9.0") (some "") = true ↔
        (∀ l ∈ some [9, 0], versionLe l [10, 2]) ∧ (∀ h ∈ (none : Option (List Nat)), versionLe [10, 2] h)) :=
  have ha : IsNumericVersion "10.2" [10, 2] := ⟨[['1', '0'], ['2']], by simp, by decide, by decide, rfl⟩
  have hlo : VersionBound (some "9.0") (some [9, 0]) :=
    .version ⟨[['9'], ['0']], by simp, by decide, by decide, rfl⟩
  ⟨ha, hlo, .empty, range_version_matching_iff ha hlo .empty⟩

end WorkloadAutomation
