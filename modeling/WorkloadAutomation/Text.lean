import Mathlib.Data.List.Basic
import Mathlib.Data.List.Infix

/-!
# Python text primitives

The `str` operations the resource, cache and logcat code call, on a string seen as its
list of characters: `os.path.basename`, `str.split(sep)` (which is `List.splitOn`: an
empty string splits into one empty part, as in Python), the `in` test on substrings and
the whitespace of `str.isspace`, `str.strip` and `str.split()`.
-/

namespace WorkloadAutomation

/-- `str.isspace` on one character: the code points Python treats as whitespace. -/
def isPySpace (c : Char) : Bool :=
  c.val ∈ [9, 10, 11, 12, 13, 28, 29, 30, 31, 32, 133, 160, 5760, 8192, 8193, 8194, 8195,
    8196, 8197, 8198, 8199, 8200, 8201, 8202, 8232, 8233, 8239, 8287, 12288]

lemma isPySpace_of_isDigit {c : Char} (h : c.isDigit) : isPySpace c = false := by
  by_contra hs
  simp only [isPySpace, Bool.not_eq_false, decide_eq_true_eq] at hs
  simp only [Char.isDigit] at h
  generalize c.val = v at h hs
  revert h
  revert hs
  revert v
  decide

/-- The decimal digits of Python's Unicode database: the characters `\d` matches in a `str`
pattern and `int()` reads, with their values. Among the ASCII characters they are `0` to `9`;
the rest of the table is left open. -/
structure DecimalDigits where
  digitValue : Char → Option Nat
  ascii : ∀ c : Char, c.toNat < 128 →
    digitValue c = if c.isDigit then some (c.toNat - '0'.toNat) else none

namespace DecimalDigits

def isDigit (d : DecimalDigits) (c : Char) : Bool := (d.digitValue c).isSome

def asciiOnly : DecimalDigits where
  digitValue c := if c.isDigit then some (c.toNat - '0'.toNat) else none
  ascii _ _ := rfl

lemma toNat_lt_of_isDigit {c : Char} (h : c.isDigit = true) : c.toNat < 128 := by
  simp only [Char.isDigit, Bool.and_eq_true, decide_eq_true_eq] at h
  have h57 : c.val.toNat ≤ 57 := h.2
  exact Nat.lt_of_le_of_lt h57 (by decide)

lemma digitValue_of_isDigit (d : DecimalDigits) {c : Char} (h : c.isDigit = true) :
    d.digitValue c = some (c.toNat - '0'.toNat) := by
  rw [d.ascii c (toNat_lt_of_isDigit h), if_pos h]

lemma isDigit_ascii (d : DecimalDigits) {c : Char} (h : c.toNat < 128) : d.isDigit c = c.isDigit := by
  rw [isDigit, d.ascii c h]
  split <;> simp_all

lemma isDigit_eq_false (d : DecimalDigits) {c : Char} (h : c.toNat < 128) (hc : c.isDigit = false) :
    d.isDigit c = false :=
  (d.isDigit_ascii h).trans hc

lemma isDigit_of_ascii (d : DecimalDigits) {c : Char} (h : c.isDigit = true) : d.isDigit c = true :=
  (d.isDigit_ascii (toNat_lt_of_isDigit h)).trans h

def AgreeOn (d d' : DecimalDigits) (s : List Char) : Prop := ∀ c ∈ s, d.digitValue c = d'.digitValue c

lemma agreeOn_of_ascii (d d' : DecimalDigits) {s : List Char} (hs : ∀ c ∈ s, c.toNat < 128) :
    AgreeOn d d' s := fun c hc => by rw [d.ascii c (hs c hc), d'.ascii c (hs c hc)]

lemma AgreeOn.symm {d d' : DecimalDigits} {s : List Char} (h : AgreeOn d d' s) : AgreeOn d' d s :=
  fun c hc => (h c hc).symm

lemma AgreeOn.mono {d d' : DecimalDigits} {s t : List Char} (h : AgreeOn d d' s) (hts : t ⊆ s) :
    AgreeOn d d' t := fun c hc => h c (hts hc)

lemma AgreeOn.isDigit {d d' : DecimalDigits} {s : List Char} (h : AgreeOn d d' s) {c : Char}
    (hc : c ∈ s) : d.isDigit c = d'.isDigit c := by
  rw [DecimalDigits.isDigit, DecimalDigits.isDigit, h c hc]

end DecimalDigits

/-- The number a string of decimal digits stands for, as `int()` reads it. -/
def decimalValue (d : DecimalDigits) (s : List Char) : Nat :=
  s.foldl (fun n c => 10 * n + (d.digitValue c).getD 0) 0

lemma decimalValue_congr {d d' : DecimalDigits} {s : List Char} (h : d.AgreeOn d' s) :
    decimalValue d s = decimalValue d' s :=
  List.foldl_ext _ _ 0 fun _ c hc => by rw [h c hc]

def pyContains (sub s : List Char) : Bool := decide (sub <:+: s)

/-- `posixpath.basename`: what follows the last `/`. -/
def basename (p : List Char) : List Char :=
  (p.reverse.takeWhile (· != '/')).reverse

theorem basename_append_slash (d : List Char) {f : List Char} (hf : '/' ∉ f) :
    basename (d ++ '/' :: f) = f := by
  have hall : ∀ c ∈ f.reverse, (c != '/') = true := by
    intro c hc
    have : c ≠ '/' := fun h => hf (h ▸ List.mem_reverse.mp hc)
    simpa using this
  simp [basename, List.reverse_append, List.takeWhile_append_of_pos hall]

theorem splitOn_append_sep {sep : Char} {xs : List Char} (hx : sep ∉ xs) (rest : List Char) :
    (xs ++ sep :: rest).splitOn sep = xs :: rest.splitOn sep :=
  List.splitOnP_first _ xs (fun c hc => by simpa using ne_of_mem_of_not_mem hc hx) sep (by simp) rest

theorem splitOn_of_not_mem {sep : Char} {xs : List Char} (hx : sep ∉ xs) :
    xs.splitOn sep = [xs] :=
  List.splitOnP_eq_single _ xs (fun c hc => by simpa using ne_of_mem_of_not_mem hc hx)

lemma intercalate_cons_cons (sep a b : List Char) (l : List (List Char)) :
    sep.intercalate (a :: b :: l) = a ++ sep ++ sep.intercalate (b :: l) := by
  simp [List.intercalate]

/-- `str.strip()`: the string without the whitespace at either end. -/
def pyStrip (s : List Char) : List Char :=
  ((s.dropWhile isPySpace).reverse.dropWhile isPySpace).reverse

/-- `str.split(None, maxsplit)`: runs of whitespace separate the parts, leading whitespace
is skipped, and once `maxsplit` parts are split off the rest, from its first
non-whitespace character to the end, is the last part. -/
def pySplitWs : Nat → List Char → List (List Char)
  | 0, s => if s.dropWhile isPySpace = [] then [] else [s.dropWhile isPySpace]
  | n + 1, s =>
    if s.dropWhile isPySpace = [] then []
    else (s.dropWhile isPySpace).takeWhile (!isPySpace ·) ::
      pySplitWs n ((s.dropWhile isPySpace).dropWhile (!isPySpace ·))

def AllSpace (g : List Char) : Prop := ∀ c ∈ g, isPySpace c = true

def IsField (w : List Char) : Prop := w ≠ [] ∧ ∀ c ∈ w, isPySpace c = false

def Delimited (r : List Char) : Prop := ∀ c t, r = c :: t → isPySpace c = true

instance (g : List Char) : Decidable (AllSpace g) := inferInstanceAs (Decidable (∀ c ∈ g, _))

instance (w : List Char) : Decidable (IsField w) := inferInstanceAs (Decidable (_ ∧ _))

lemma delimited_iff (r : List Char) : Delimited r ↔ r.head?.all isPySpace = true := by
  cases r <;> simp [Delimited]

instance (r : List Char) : Decidable (Delimited r) := decidable_of_iff _ (delimited_iff r).symm

section Split

lemma dropWhile_space_field {g w r : List Char} (hg : AllSpace g) (hw : IsField w) :
    (g ++ (w ++ r)).dropWhile isPySpace = w ++ r := by
  obtain ⟨c, w', rfl⟩ := List.exists_cons_of_ne_nil hw.1
  rw [List.dropWhile_append_of_pos hg]
  simp [hw.2 c (by simp)]

lemma takeWhile_field {w r : List Char} (hw : IsField w) (hr : Delimited r) :
    (w ++ r).takeWhile (!isPySpace ·) = w := by
  rw [List.takeWhile_append_of_pos (fun c hc => by simp [hw.2 c hc])]
  cases r with
  | nil => simp
  | cons c t => simp [hr c t rfl]

lemma dropWhile_field {w r : List Char} (hw : IsField w) (hr : Delimited r) :
    (w ++ r).dropWhile (!isPySpace ·) = r := by
  rw [List.dropWhile_append_of_pos (fun c hc => by simp [hw.2 c hc])]
  cases r with
  | nil => simp
  | cons c t => simp [hr c t rfl]

lemma pySplitWs_field (n : Nat) {g w r : List Char} (hg : AllSpace g) (hw : IsField w)
    (hr : Delimited r) : pySplitWs (n + 1) (g ++ (w ++ r)) = w :: pySplitWs n r := by
  have hne : w ++ r ≠ [] := by simp [hw.1]
  simp only [pySplitWs, dropWhile_space_field hg hw, hne, if_false, takeWhile_field hw hr,
    dropWhile_field hw hr]

lemma head_dropWhile_eq_false {p : Char → Bool} {l t : List Char} {c : Char}
    (h : l.dropWhile p = c :: t) : p c = false := by
  simpa [h] using List.head_dropWhile_not p l (by simp [h])

lemma pySplitWs_eq_cons {n : Nat} {s w : List Char} {ws : List (List Char)}
    (h : pySplitWs (n + 1) s = w :: ws) :
    ∃ g r, s = g ++ (w ++ r) ∧ AllSpace g ∧ IsField w ∧ Delimited r ∧ pySplitWs n r = ws := by
  simp only [pySplitWs] at h
  split_ifs at h with hs
  obtain ⟨hw, hws⟩ := List.cons.inj h
  obtain ⟨c, t', hct⟩ := List.exists_cons_of_ne_nil hs
  have hc : isPySpace c = false := head_dropWhile_eq_false hct
  refine ⟨s.takeWhile isPySpace, (s.dropWhile isPySpace).dropWhile (!isPySpace ·), ?_,
    fun c hc => List.mem_takeWhile_imp hc, ⟨?_, ?_⟩, ?_, hws⟩
  · rw [← hw, List.takeWhile_append_dropWhile, List.takeWhile_append_dropWhile]
  · rw [← hw, hct]; simp [hc]
  · intro d hd
    rw [← hw] at hd
    simpa using List.mem_takeWhile_imp hd
  · intro d u hdu
    simpa using head_dropWhile_eq_false hdu

end Split

section Strip

lemma dropWhile_dropWhile_space (s : List Char) :
    (s.dropWhile isPySpace).dropWhile isPySpace = s.dropWhile isPySpace := by
  cases h : s.dropWhile isPySpace with
  | nil => rfl
  | cons c t => simp [head_dropWhile_eq_false h]

lemma pyStrip_dropWhile (s : List Char) : pyStrip (s.dropWhile isPySpace) = pyStrip s := by
  simp only [pyStrip, dropWhile_dropWhile_space]

lemma pyStrip_last_part (r : List Char) : pyStrip ((pySplitWs 0 r).head?.getD []) = pyStrip r := by
  unfold pySplitWs
  split_ifs with h
  · simp [pyStrip, h]
  · simp [pyStrip_dropWhile]

lemma pyStrip_prefix (s : List Char) : pyStrip s <+: s.dropWhile isPySpace := by
  refine ⟨((s.dropWhile isPySpace).reverse.takeWhile isPySpace).reverse, ?_⟩
  rw [pyStrip, ← List.reverse_append, List.takeWhile_append_dropWhile, List.reverse_reverse]

lemma pyStrip_head {s t : List Char} {c : Char} (h : pyStrip s = c :: t) : isPySpace c = false := by
  obtain ⟨u, hu⟩ := pyStrip_prefix s
  rw [h] at hu
  exact head_dropWhile_eq_false hu.symm

lemma pyStrip_getLast {s t : List Char} {c : Char} (h : pyStrip s = t ++ [c]) :
    isPySpace c = false := by
  have h' : ((s.dropWhile isPySpace).reverse.dropWhile isPySpace) = c :: t.reverse := by
    rw [← List.reverse_reverse ((s.dropWhile isPySpace).reverse.dropWhile isPySpace)]
    simpa [pyStrip] using congrArg List.reverse h
  exact head_dropWhile_eq_false h'

end Strip

end WorkloadAutomation
