import Mathlib.Data.Nat.Digits
import WorkloadAutomation.Text

/-!
# Levels in the database

`cast_level` and `adapt_level` of `wa/utils/postgres.py`. A level is written as the text
`name(value)` and read back with the pattern `([^\()]*)\((\d*)\)`, whose second group is a
run of decimal digits, possibly empty: on `x()` the caster calls `int('')`, which raises
`ValueError`. `\d` and `int()` read the decimal digits of Python's Unicode database, the
table `DecimalDigits`.
-/

namespace WorkloadAutomation

/-- The exceptions of the casters and adapters of `wa.utils.postgres`. -/
inductive PgError where
  | importError (msg : String)
  | interfaceError (msg : String)
  | valueError (msg : String)
  | indexError (msg : String)
  deriving DecidableEq, Repr

/-- `level(name, value)` of `wa.utils.types`, which is not among the repository's files: the
name and the number it is built from, the `name` and `value` that `adapt_level` reads. -/
structure Level where
  name : String
  value : Int
  deriving DecidableEq, Repr

@[simp] lemma DecimalDigits.isDigit_close_paren (d : DecimalDigits) : d.isDigit ')' = false :=
  d.isDigit_eq_false (by decide) rfl

/-- `[^\()]`: any character but a parenthesis. -/
def isNotParen (c : Char) : Bool := c != '(' && c != ')'

/-- `re.match(r"([^\()]*)\((\d*)\)", value)`: the two groups, when the pattern matches at the
start of `value`. The first group runs up to the first parenthesis, which has to be `(`;
the second takes the digits after it, which have to be followed by `)`. Backtracking
cannot help: a shorter first group is followed by a character that is not `(`, a shorter
second one by a digit, which is not `)`. -/
def matchLevel (d : DecimalDigits) (value : List Char) : Option (List Char × List Char) :=
  match value.dropWhile isNotParen with
  | '(' :: rest =>
    match rest.dropWhile d.isDigit with
    | ')' :: _ => some (value.takeWhile isNotParen, rest.takeWhile d.isDigit)
    | _ => none
  | _ => none

@[simp] lemma decimalValue_nil (d : DecimalDigits) : decimalValue d [] = 0 := rfl

/-- `int(s)` for a string `s` of decimal digits: `ValueError` when it is empty. -/
def pyIntOfDigits (d : DecimalDigits) (s : List Char) : Except PgError Int :=
  if s = [] then .error (.valueError "invalid literal for int() with base 10: ''")
  else .ok (decimalValue d s)

/-- `cast_level(value, cur)`; `psycopg2` says whether `from psycopg2 import InterfaceError`
succeeded. -/
def castLevel (psycopg2 : Bool) (d : DecimalDigits) (value : Option String) :
    Except PgError (Option Level) :=
  if !psycopg2 then .error (.importError "There was a problem importing psycopg2.")
  else
    match value with
    | none => .ok none
    | some v =>
      match matchLevel d v.toList with
      | some (name, digits) =>
        (pyIntOfDigits d digits).map fun number => some ⟨String.mk name, number⟩
      | none => .error (.interfaceError ("Bad level representation: " ++ v))

/-- `adapt_level(a_level)`: `"{}({})".format(a_level.name, a_level.value)`. -/
def adaptLevel (l : Level) : String := l.name ++ "(" ++ toString l.value ++ ")"

theorem matchLevel_eq_some_iff (d : DecimalDigits) (value name digits : List Char) :
    matchLevel d value = some (name, digits) ↔
      ∃ rest, value = name ++ '(' :: digits ++ ')' :: rest ∧
        name.all isNotParen ∧ digits.all d.isDigit := by
  constructor
  · intro h
    unfold matchLevel at h
    split at h
    · rename_i rest hrest
      split at h
      · rename_i rest' hrest'
        cases h
        refine ⟨rest', ?_, List.all_takeWhile, List.all_takeWhile⟩
        conv_lhs => rw [← List.takeWhile_append_dropWhile isNotParen value, hrest,
          ← List.takeWhile_append_dropWhile d.isDigit rest, hrest']
        simp
      · cases h
    · cases h
  · rintro ⟨rest, rfl, hn, hd⟩
    rw [List.all_eq_true] at hn hd
    simp [matchLevel, List.dropWhile_append_of_pos hn, List.takeWhile_append_of_pos hn,
      List.dropWhile_append_of_pos hd, List.takeWhile_append_of_pos hd, isNotParen]

section Cast

variable (d : DecimalDigits)

lemma castLevel_of_match {v : String} {name digits rest : List Char}
    (hv : v.toList = name ++ '(' :: digits ++ ')' :: rest) (hn : name.all isNotParen)
    (hd : digits.all d.isDigit) :
    castLevel true d (some v) =
      (pyIntOfDigits d digits).map fun number => some ⟨String.mk name, number⟩ := by
  simp only [castLevel, Bool.not_true, Bool.false_eq_true, ↓reduceIte,
    (matchLevel_eq_some_iff d v.toList name digits).mpr ⟨rest, hv, hn, hd⟩]

lemma castLevel_of_no_match {v : String}
    (h : ∀ name digits rest, v.toList = name ++ '(' :: digits ++ ')' :: rest →
      name.all isNotParen → digits.all d.isDigit → False) :
    castLevel true d (some v) = .error (.interfaceError ("Bad level representation: " ++ v)) := by
  cases hm : matchLevel d v.toList with
  | none => simp only [castLevel, Bool.not_true, Bool.false_eq_true, ↓reduceIte, hm]
  | some p =>
    obtain ⟨rest, hv, hn, hd⟩ := (matchLevel_eq_some_iff d _ p.1 p.2).mp hm
    exact (h _ _ _ hv hn hd).elim

/-- On `x()` the pattern matches with an empty digit run, and `int('')` raises `ValueError`:
`cast_level` returns no level and raises no `InterfaceError`, whatever the digit table. -/
theorem cast_level_empty_digits (d : DecimalDigits) :
    castLevel true d (some "x()") =
      .error (.valueError "invalid literal for int() with base 10: ''") :=
  (@castLevel_of_match d "x()" ['x'] [] [] rfl rfl rfl).trans rfl

end Cast

lemma digitChar_ascii :
    ∀ m < 10, (Nat.digitChar m).isDigit = true ∧ (Nat.digitChar m).toNat - '0'.toNat = m := by
  decide

lemma foldl_decimal (f : Char → Nat) (a : Nat) (l : List Char) :
    l.foldl (fun n c => 10 * n + f c) a =
      a * 10 ^ l.length + l.foldl (fun n c => 10 * n + f c) 0 := by
  induction l generalizing a with
  | nil => simp
  | cons c l ih =>
    simp only [List.foldl_cons, List.length_cons]
    rw [ih, ih (10 * 0 + f c)]
    ring

lemma decimalValue_cons (d : DecimalDigits) (c : Char) (l : List Char) :
    decimalValue d (c :: l) = (d.digitValue c).getD 0 * 10 ^ l.length + decimalValue d l := by
  rw [decimalValue, List.foldl_cons, foldl_decimal]
  simp [decimalValue]

lemma digitChar_cons (d : DecimalDigits) (n : Nat) {acc : List Char}
    (hacc : ∀ c ∈ acc, c.isDigit) :
    (∀ c ∈ Nat.digitChar (n % 10) :: acc, c.isDigit) ∧
      decimalValue d (Nat.digitChar (n % 10) :: acc) =
        n % 10 * 10 ^ acc.length + decimalValue d acc := by
  obtain ⟨hdig, hval⟩ := digitChar_ascii (n % 10) (Nat.mod_lt n (by decide))
  exact ⟨List.forall_mem_cons.mpr ⟨hdig, hacc⟩,
    by rw [decimalValue_cons, d.digitValue_of_isDigit hdig, hval, Option.getD_some]⟩

lemma toDigitsCore_decimal (d : DecimalDigits) {fuel n : Nat} (hn : n ≤ fuel) {acc : List Char}
    (hacc : ∀ c ∈ acc, c.isDigit) :
    Nat.toDigitsCore 10 (fuel + 1) n acc ≠ [] ∧
      (∀ c ∈ Nat.toDigitsCore 10 (fuel + 1) n acc, c.isDigit) ∧
      decimalValue d (Nat.toDigitsCore 10 (fuel + 1) n acc) =
        n * 10 ^ acc.length + decimalValue d acc := by
  induction fuel generalizing n acc with
  | zero =>
    obtain rfl : n = 0 := Nat.le_zero.mp hn
    exact ⟨List.cons_ne_nil _ _, digitChar_cons d 0 hacc⟩
  | succ fuel ih =>
    obtain ⟨hacc', hstep⟩ := digitChar_cons d n hacc
    rw [Nat.toDigitsCore]
    split
    · exact ⟨List.cons_ne_nil _ _, hacc', hstep.trans (by rw [Nat.mod_eq_of_lt (by omega)])⟩
    · obtain ⟨hne, hall, hv⟩ := ih (n := n / 10) (by omega) hacc'
      refine ⟨hne, hall, ?_⟩
      rw [hv, hstep, List.length_cons, pow_succ]
      conv_rhs => rw [← Nat.div_add_mod n 10]
      ring

lemma castLevel_adaptLevel (d : DecimalDigits) (name : String) (n : Nat)
    (hn : name.toList.all isNotParen) :
    castLevel true d (some (adaptLevel ⟨name, n⟩)) = .ok (some ⟨name, n⟩) := by
  obtain ⟨hne, hall, hv⟩ := @toDigitsCore_decimal d n n (le_refl n) [] (by simp)
  have htext : (adaptLevel ⟨name, n⟩).toList =
      name.toList ++ '(' :: Nat.toDigitsCore 10 (n + 1) n [] ++ ')' :: [] := by
    simp [adaptLevel]
    rfl
  rw [castLevel_of_match d htext hn
    (List.all_eq_true.mpr fun c hc => d.isDigit_of_ascii (hall c hc))]
  simp [pyIntOfDigits, hne, hv, Except.map]

/-- With `psycopg2` imported, `cast_level` on a string: where the pattern matches, a level of
`int` of the digit run, which raises `ValueError` when the run is empty; where it does not,
`InterfaceError`; and on the text `adapt_level` writes for a parenthesis-free name and a
natural number, that level. -/
theorem cast_level_outcomes (d : DecimalDigits) :
    (∀ (v : String) name digits rest, v.toList = name ++ '(' :: digits ++ ')' :: rest →
      name.all isNotParen → digits.all d.isDigit →
      castLevel true d (some v) =
        if digits = [] then .error (.valueError "invalid literal for int() with base 10: ''")
        else .ok (some ⟨String.mk name, decimalValue d digits⟩)) ∧
    (∀ v : String, (∀ name digits rest, v.toList = name ++ '(' :: digits ++ ')' :: rest →
        name.all isNotParen → digits.all d.isDigit → False) →
      castLevel true d (some v) = .error (.interfaceError ("Bad level representation: " ++ v))) ∧
    (∀ (name : String) (n : Nat), name.toList.all isNotParen →
      castLevel true d (some (adaptLevel ⟨name, n⟩)) = .ok (some ⟨name, n⟩)) := by
  refine ⟨fun v name digits rest hv hn hd => ?_, fun v h => castLevel_of_no_match d h,
    castLevel_adaptLevel d⟩
  rw [castLevel_of_match d hv hn hd]
  by_cases h : digits = [] <;> simp [pyIntOfDigits, h, Except.map]

theorem cast_level_outcomes_ascii :
    castLevel true .asciiOnly (some "high(3)") = .ok (some ⟨"high", 3⟩) ∧
      castLevel true .asciiOnly (some "high") =
        .error (.interfaceError "Bad level representation: high") ∧
      castLevel true .asciiOnly (some (adaptLevel ⟨"low", 12⟩)) = .ok (some ⟨"low", 12⟩) :=
  ⟨((cast_level_outcomes .asciiOnly).1 "high(3)" "high".toList ['3'] [] rfl (by decide)
      (by decide)).trans rfl,
    (cast_level_outcomes .asciiOnly).2.1 "high" fun name digits rest hv _ _ =>
      absurd (by rw [hv]; simp : '(' ∈ "high".toList) (by decide),
    (cast_level_outcomes .asciiOnly).2.2 "low" 12 (by decide)⟩

end WorkloadAutomation
