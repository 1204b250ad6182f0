import Mathlib.Data.Nat.Digits
import WorkloadAutomation.ApkId
import WorkloadAutomation.ApkInfoCache
import WorkloadAutomation.Version
import WorkloadAutomation.Shlex

/-!
# The launch command of an APK

`build_apk_launch_command` of `wa/utils/android.py` writes `am start -W`, the component to
start and one option per entry of `apk_args`, chosen by `isinstance` tests on the value;
string values go through `shlex.quote`. Read back by `shlex.split`, the command gives the
words it was built from, with `str(value)` for every value, and a value of any other type
raises `ValueError` instead.
-/

namespace WorkloadAutomation

open Shlex

def IsFloatText (r : List Char) : Prop :=
  IsFloatRepr r ∨ (∃ r', r = '-' :: r' ∧ IsFloatRepr r') ∨
    r ∈ ["inf".toList, "-inf".toList, "nan".toList]

structure PyFloat where
  text : String
  isText : IsFloatText text.toList

/-- A value of `apk_args`. A Python `bool` is an `int` as well; `int` holds the other ints.
A value of any other type is kept by its `str` and the name of its class. -/
inductive ExtraValue where
  | str (s : String)
  | float (f : PyFloat)
  | bool (b : Bool)
  | int (n : Int)
  | other (text name : String)

/-- The classes `build_apk_launch_command` tests with `isinstance`. -/
inductive PyClass where
  | str
  | float
  | bool
  | int

namespace ExtraValue

/-- `isinstance(v, cls)`: a `bool` is an instance of `int` too. -/
def isInstance : ExtraValue → PyClass → Bool
  | .str _, .str | .float _, .float | .bool _, .bool | .bool _, .int | .int _, .int => true
  | _, _ => false

/-- `str(v)`, which `'{}'.format(v)` prints. -/
def pyStr : ExtraValue → String
  | .str s => s
  | .float f => f.text
  | .bool b => if b then "True" else "False"
  | .int n => toString n
  | .other text _ => text

/-- The name of `type(v)`, which `'{}'.format(type(v))` prints as `<class 'name'>`. -/
def className : ExtraValue → String
  | .str _ => "str"
  | .float _ => "float"
  | .bool _ => "bool"
  | .int _ => "int"
  | .other _ name => name

end ExtraValue

def encodeApkArg (v : ExtraValue) : Except String (String × String) :=
  if v.isInstance .str then .ok ("--es", quote v.pyStr)
  else if v.isInstance .float then .ok ("--ef", v.pyStr)
  else if v.isInstance .bool then .ok ("--ez", v.pyStr)
  else if v.isInstance .int then .ok ("--ei", v.pyStr)
  else .error ("Unable to encode " ++ v.pyStr ++ " <class '" ++ v.className ++ "'>")

/-- One turn of the loop over `apk_args.items()`. -/
def appendApkArg (argsString : String) (item : String × ExtraValue) : Except String String := do
  let (arg, v) ← encodeApkArg item.2
  pure (argsString ++ " " ++ arg ++ " " ++ item.1 ++ " " ++ v)

/-- `build_apk_launch_command(package, activity, apk_args)`, with `apk_args` in insertion
order; `None` is the empty list, on which the loop is skipped as well. -/
def buildApkLaunchCommand (package activity : Option String)
    (apkArgs : List (String × ExtraValue)) : Except String String := do
  let argsString ← apkArgs.foldlM appendApkArg ""
  if !pyTruthy activity then
    pure ("am start -W " ++ pyStr package ++ " " ++ argsString)
  else
    pure ("am start -W -n " ++ pyStr package ++ "/" ++ pyStr activity ++ " " ++ argsString)

def extraFlag : ExtraValue → Option String
  | .str _ => some "--es"
  | .float _ => some "--ef"
  | .bool _ => some "--ez"
  | .int _ => some "--ei"
  | .other _ _ => none

/-- The words the extras should give: the option, the key and `str(value)` for each, in
order; none when a value has none of the four types. -/
def extraWords : List (String × ExtraValue) → Option (List String)
  | [] => some []
  | (k, v) :: rest => do
    let flag ← extraFlag v
    let words ← extraWords rest
    pure (flag :: k :: v.pyStr :: words)

def componentWords (package : String) : Option String → List String
  | some a => ["-n", package ++ "/" ++ a]
  | none => [package]

section Plain

lemma digitChar_not_special : ∀ m < 10, isSpecial (Nat.digitChar m) = false := by
  decide

lemma digitChar_cons_plain (n : Nat) {acc : List Char} (hacc : ∀ c ∈ acc, isSpecial c = false) :
    IsPlain (Nat.digitChar (n % 10) :: acc) :=
  ⟨List.cons_ne_nil _ _,
    List.forall_mem_cons.mpr ⟨digitChar_not_special _ (Nat.mod_lt n (by decide)), hacc⟩⟩

lemma toDigitsCore_plain (fuel n : Nat) {acc : List Char} (hacc : ∀ c ∈ acc, isSpecial c = false) :
    IsPlain (Nat.toDigitsCore 10 (fuel + 1) n acc) := by
  induction fuel generalizing n acc with
  | zero => simp only [Nat.toDigitsCore]; split <;> exact digitChar_cons_plain n hacc
  | succ fuel ih =>
    rw [Nat.toDigitsCore]
    split
    · exact digitChar_cons_plain n hacc
    · exact ih _ (digitChar_cons_plain n hacc).2

lemma int_text_plain (n : Int) : IsPlain (toString n).toList := by
  cases n with
  | ofNat m => exact toDigitsCore_plain m m (by simp)
  | negSucc m =>
    exact IsPlain.append (u := ['-']) (by decide) (toDigitsCore_plain (m + 1) (m + 1) (by simp)).2

lemma IsFloatRepr.chars {r : List Char} (h : IsFloatRepr r) :
    ∀ c ∈ r, c.isDigit ∨ c ∈ ['.', 'e', '+', '-'] := by
  cases h with
  | fixed hi hf =>
    intro c hc
    simp only [List.mem_append, List.mem_cons] at hc
    rcases hc with hc | rfl | hc
    · exact .inl (hi.2 c hc)
    · simp
    · exact .inl (hf.2 c hc)
  | sci sign hm hs he =>
    intro c hc
    simp only [List.mem_append, List.mem_cons] at hc
    rcases hc with hc | rfl | rfl | hc
    · rcases hm c hc with hd | rfl
      · exact .inl hd
      · simp
    · simp
    · rcases hs with rfl | rfl <;> simp
    · exact .inl (he.2 c hc)

lemma float_text_plain (f : PyFloat) : IsPlain f.text.toList := by
  have hchar : ∀ c, c.isDigit ∨ c ∈ ['.', 'e', '+', '-'] → isSpecial c = false := fun c hc =>
    isSpecial_eq_false (p := fun c => c.isDigit || c ∈ ['.', 'e', '+', '-']) (by decide)
      (by simpa using hc)
  have hrepr : ∀ {r}, IsFloatRepr r → IsPlain r := fun h =>
    ⟨by cases h <;> simp, fun c hc => hchar c (h.chars c hc)⟩
  rcases f.isText with h | ⟨r, hr, h⟩ | h
  · exact hrepr h
  · rw [hr]
    exact IsPlain.append (u := ['-']) (by decide) (hrepr h).2
  · simp only [List.mem_cons, List.mem_singleton, List.not_mem_nil, or_false] at h
    rcases h with h | h | h <;> rw [h] <;> decide

end Plain

lemma encodeApkArg_of_extraFlag {v : ExtraValue} {flag : String} (h : extraFlag v = some flag) :
    ∃ text, encodeApkArg v = .ok (flag, text) ∧ Reads text.toList v.pyStr.toList := by
  cases v with
  | str s => cases h; exact ⟨_, rfl, reads_quote s⟩
  | float f => cases h; exact ⟨_, rfl, reads_plain (float_text_plain f)⟩
  | bool b => cases h; cases b <;> exact ⟨_, rfl, reads_plain (by decide)⟩
  | int n => cases h; exact ⟨_, rfl, reads_plain (int_text_plain n)⟩
  | other => cases h

lemma encodeApkArg_of_extraFlag_eq_none {v : ExtraValue} (h : extraFlag v = none) :
    encodeApkArg v = .error ("Unable to encode " ++ v.pyStr ++ " <class '" ++ v.className ++ "'>") := by
  cases v <;> first | rfl | cases h

lemma extraFlag_plain {v : ExtraValue} {flag : String} (h : extraFlag v = some flag) :
    IsPlain flag.toList := by
  cases v <;> cases h <;> decide

lemma foldlM_appendApkArg {l : List (String × ExtraValue)} {words : List String}
    (hk : ∀ e ∈ l, IsPlain e.1.toList) (h : extraWords l = some words) (acc : String) :
    ∃ ws : List (List Char × List Char), (∀ p ∈ ws, Reads p.1 p.2) ∧
      ws.map Prod.snd = words.map String.toList ∧
      l.foldlM appendApkArg acc = .ok (acc ++ String.mk (ws.flatMap fun p => ' ' :: p.1)) := by
  induction l generalizing acc words with
  | nil =>
    cases h
    exact ⟨[], by simp, rfl, by rw [List.foldlM_nil]; exact congrArg Except.ok (String.append_empty acc).symm⟩
  | cons e l ih =>
    obtain ⟨k, v⟩ := e
    obtain ⟨flag, hflag, h⟩ := Option.bind_eq_some.mp h
    obtain ⟨rest, hrest, h⟩ := Option.bind_eq_some.mp h
    cases h
    obtain ⟨text, henc, hreads⟩ := encodeApkArg_of_extraFlag hflag
    obtain ⟨ws, hws, hmap, hfold⟩ :=
      ih (fun e he => hk e (List.mem_cons_of_mem _ he)) hrest
        (acc ++ " " ++ flag ++ " " ++ k ++ " " ++ text)
    refine ⟨(flag.toList, flag.toList) :: (k.toList, k.toList) :: (text.toList, v.pyStr.toList) :: ws,
      ?_, by simp [hmap], ?_⟩
    · simp only [List.mem_cons]
      rintro p (rfl | rfl | rfl | hp)
      · exact reads_plain (extraFlag_plain hflag)
      · exact reads_plain (hk _ (List.mem_cons_self _ _))
      · exact hreads
      · exact hws p hp
    · have happ : appendApkArg acc (k, v) = .ok (acc ++ " " ++ flag ++ " " ++ k ++ " " ++ text) := by
        simp only [appendApkArg, henc]
        rfl
      rw [List.foldlM_cons, happ]
      show l.foldlM appendApkArg _ = _
      rw [hfold]
      exact congrArg Except.ok (String.ext (by simp))

lemma split_of_words {cmd : String} {heads : List String} {ws : List (List Char × List Char)}
    (hheads : ∀ w ∈ heads, IsPlain w.toList) (hws : ∀ p ∈ ws, Reads p.1 p.2)
    (hcmd : ' ' :: cmd.toList = (heads.flatMap fun w => ' ' :: w.toList) ++
      ' ' :: ws.flatMap fun p => ' ' :: p.1) :
    split cmd = .ok (heads ++ (ws.map Prod.snd).map String.mk) := by
  have hheads' : ∀ p ∈ heads.map fun w => (w.toList, w.toList), Reads p.1 p.2 := by
    simpa using fun w hw => reads_plain (hheads w hw)
  have hrun : Lexer.init.run cmd.toList =
      .ok (heads.map String.toList ++ ws.map Prod.snd) := by
    calc Lexer.init.run cmd.toList
        = Lexer.init.run ((heads.map fun w => (w.toList, w.toList)).flatMap (fun p => ' ' :: p.1) ++
            ' ' :: ws.flatMap fun p => ' ' :: p.1) := by
          rw [← run_init_space (c := ' ') (by decide), hcmd, List.flatMap_map]
      _ = (Lexer.init.run (ws.flatMap (fun p => ' ' :: p.1) ++ [])).map
            (heads.map String.toList ++ ·) := by
          rw [run_words hheads' (by rintro c r ⟨⟩; decide), run_init_space (by decide),
            List.append_nil, List.map_map]
          rfl
      _ = _ := by
          rw [run_words hws (by rintro c r ⟨⟩), run_init_nil]
          simp only [Except.map, List.append_nil]
  have hmk : (String.mk ∘ String.toList) = id := funext fun _ => rfl
  rw [split, hrun]
  show Except.ok (List.map String.mk (heads.map String.toList ++ ws.map Prod.snd)) = _
  rw [List.map_append, List.map_map, hmk, List.map_id]

lemma head_words_plain {package : String} {activity : Option String}
    (hp : IsPlain package.toList) (ha : ∀ a ∈ activity, IsPlain a.toList) :
    ∀ w ∈ ["am", "start", "-W"] ++ componentWords package activity, IsPlain w.toList := by
  refine List.forall_mem_append.mpr ⟨by decide, ?_⟩
  cases activity with
  | none => simpa [componentWords] using hp
  | some a =>
    refine List.forall_mem_cons.mpr ⟨by decide, List.forall_mem_singleton.mpr ?_⟩
    exact (hp.append (w := ['/']) (by decide)).append (ha a rfl).2

lemma buildApkLaunchCommand_text {package : String} {activity : Option String}
    {apkArgs : List (String × ExtraValue)} {argsString : String} (ha : ∀ a ∈ activity, a ≠ "")
    (hfold : apkArgs.foldlM appendApkArg "" = .ok argsString) :
    ∃ cmd, buildApkLaunchCommand (some package) activity apkArgs = .ok cmd ∧
      ' ' :: cmd.toList = ((["am", "start", "-W"] ++ componentWords package activity).flatMap
        fun w => ' ' :: w.toList) ++ ' ' :: argsString.toList := by
  cases activity with
  | none =>
    exact ⟨_, by simp only [buildApkLaunchCommand, hfold]; rfl, by simp [pyStr, componentWords]⟩
  | some a =>
    have htruthy : pyTruthy (some a) = true := by simpa [pyTruthy] using ha a rfl
    exact ⟨_, by simp only [buildApkLaunchCommand, hfold, htruthy]; rfl,
      by simp [pyStr, componentWords]⟩

theorem split_apk_launch_command (package : String) (activity : Option String)
    (apkArgs : List (String × ExtraValue)) (hp : IsPlain package.toList)
    (ha : ∀ a ∈ activity, IsPlain a.toList) (hk : ∀ e ∈ apkArgs, IsPlain e.1.toList) :
    (∀ words, extraWords apkArgs = some words →
      ∃ cmd, buildApkLaunchCommand (some package) activity apkArgs = .ok cmd ∧
        split cmd = .ok (["am", "start", "-W"] ++ componentWords package activity ++ words)) ∧
    (∀ pre k v post, apkArgs = pre ++ (k, v) :: post → (extraWords pre).isSome →
      extraFlag v = none →
      buildApkLaunchCommand (some package) activity apkArgs =
        .error ("Unable to encode " ++ v.pyStr ++ " <class '" ++ v.className ++ "'>")) := by
  constructor
  · intro words h
    obtain ⟨ws, hws, hmap, hfold⟩ := foldlM_appendApkArg hk h ""
    have hne : ∀ a ∈ activity, a ≠ "" := fun a h he => (ha a h).1 (by rw [he]; rfl)
    obtain ⟨cmd, hcmd, htext⟩ := buildApkLaunchCommand_text hne hfold
    have hwords : (ws.map Prod.snd).map String.mk = words := by
      rw [hmap, List.map_map]
      exact List.map_id _
    exact ⟨cmd, hcmd, hwords ▸ split_of_words (head_words_plain hp ha) hws htext⟩
  · rintro pre k v post rfl hpre hv
    obtain ⟨wpre, hwpre⟩ := Option.isSome_iff_exists.mp hpre
    obtain ⟨ws, -, -, hfold⟩ :=
      foldlM_appendApkArg (fun e he => hk e (List.mem_append_left _ he)) hwpre ""
    have happ : ∀ acc, appendApkArg acc (k, v) =
        .error ("Unable to encode " ++ v.pyStr ++ " <class '" ++ v.className ++ "'>") := fun acc => by
      simp only [appendApkArg, encodeApkArg_of_extraFlag_eq_none hv]
      rfl
    simp only [buildApkLaunchCommand, List.foldlM_append, hfold, List.foldlM_cons, happ]
    rfl

def sampleApkArgs : List (String × ExtraValue) :=
  [("message", .str "it's \"here\""),
    ("ratio", .float ⟨"0.5", .inl (.fixed (i := ['0']) (f := ['5']) ⟨by decide, by decide⟩
      ⟨by decide, by decide⟩)⟩),
    ("enabled", .bool true), ("count", .int (-3))]

theorem split_sample_launch_command :
    IsPlain "com.example.app".toList ∧ IsPlain ".MainActivity".toList ∧
      (∀ e ∈ sampleApkArgs, IsPlain e.1.toList) ∧
      ∃ cmd, buildApkLaunchCommand (some "com.example.app") (some ".MainActivity")
          sampleApkArgs = .ok cmd ∧
        split cmd = .ok ["am", "start", "-W", "-n", "com.example.app/.MainActivity",
          "--es", "message", "it's \"here\"", "--ef", "ratio", "0.5", "--ez", "enabled", "True",
          "--ei", "count", "-3"] :=
  ⟨by decide, by decide, by decide,
    (split_apk_launch_command _ _ _ (by decide) (by rintro a ⟨⟩; decide) (by decide)).1 _ rfl⟩

end WorkloadAutomation
