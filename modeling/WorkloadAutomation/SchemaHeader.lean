import WorkloadAutomation.LogcatGrammar
import WorkloadAutomation.PostgresArray

/-!
# The schema file's version header

`get_schema` of `wa/utils/postgres.py` reads the PostgreSQL schema file. When the text starts
with `--!VERSION` it reads the version from the header `--!VERSION!<major>.<minor>!ENDVERSION!`
and returns it with the SQL up to the next end marker (`getSchema_eq_ok_iff`), and it reads
back every header written for two natural numbers (`getSchema_written`); without the header
it returns locals it never assigned, which raises `UnboundLocalError`.
-/

namespace WorkloadAutomation

/-- The exceptions `get_schema` raises on the text of the file. The two `ValueError`s are given
by their cause: the number of parts unpacked, or the text `int` refused. -/
inductive SchemaError where
  | unboundLocalError (name : String)
  | unpackError (got : Nat)
  | invalidLiteral (text : List Char)
  | indexError (msg : String)
  deriving DecidableEq, Repr

section Split

variable {sep : List Char}

lemma pyIndex_add_length_le (hsep : sep ≠ []) {s : List Char} {i : Nat}
    (h : pyIndex sep s = some i) : i + sep.length ≤ s.length := by
  have hle := List.IsPrefix.length_le ( pyIndex_prefix h)
  have hpos := List.length_pos.mpr hsep
  rw [List.length_drop] at hle
  omega

/-- `s.split(sep)` for a non-empty `sep`: the texts between its occurrences, found from the
left without overlap. -/
def pySplitOn (sep : List Char) (hsep : sep ≠ []) (s : List Char) : List (List Char) :=
  match _h : pyIndex sep s with
  | some i => s.take i :: pySplitOn sep hsep (s.drop (i + sep.length))
  | none => [s]
termination_by s.length
decreasing_by
  have hle := pyIndex_add_length_le hsep _h
  have hpos := List.length_pos.mpr hsep
  simp only [List.length_drop]
  omega

variable (hsep : sep ≠ [])

lemma pySplitOn_of_pyIndex {s : List Char} {i : Nat} (h : pyIndex sep s = some i) :
    pySplitOn sep hsep s = s.take i :: pySplitOn sep hsep (s.drop (i + sep.length)) := by
  rw [pySplitOn]
  split <;> simp_all

lemma pySplitOn_of_no_sep {s : List Char} (h : ¬ sep <:+: s) : pySplitOn sep hsep s = [s] := by
  rw [pySplitOn]
  split <;> simp_all [(pyIndex_eq_none_iff hsep s).mpr h]

include hsep in
lemma not_infix_take_of_pyIndex {s : List Char} {i : Nat} (h : pyIndex sep s = some i) :
    ¬ sep <:+: s.take i := by
  induction s generalizing i with
  | nil => simp [pyIndex, hsep] at h
  | cons c s ih =>
    rw [pyIndex.eq_2] at h
    split_ifs at h with hp
    · obtain rfl := (Option.some.inj h).symm
      simpa using hsep
    · obtain ⟨j, hj, rfl⟩ := Option.map_eq_some'.mp h
      rw [List.take_succ_cons, List.infix_cons_iff]
      rintro (hpre | hinf)
      · exact hp (hpre.trans ((List.prefix_cons_inj c).mpr (List.take_prefix j s)))
      · exact ih hj hinf

lemma pySplitOn_eq_cons {s a : List Char} {ps : List (List Char)}
    (h : pySplitOn sep hsep s = a :: ps) :
    ¬ sep <:+: a ∧
      (ps = [] ∧ s = a ∨ ∃ s', s = a ++ sep ++ s' ∧ ps = pySplitOn sep hsep s') := by
  cases hi : pyIndex sep s with
  | none =>
    have hn := (pyIndex_eq_none_iff hsep s).mp hi
    obtain ⟨rfl, rfl⟩ := List.cons.inj ((pySplitOn_of_no_sep hsep hn).symm.trans h)
    exact ⟨hn, .inl ⟨rfl, rfl⟩⟩
  | some i =>
    obtain ⟨rfl, rfl⟩ := List.cons.inj ((pySplitOn_of_pyIndex hsep hi).symm.trans h)
    obtain ⟨t, ht⟩ := pyIndex_prefix hi
    have hdrop : s.drop (i + sep.length) = t := by rw [← List.drop_drop, ← ht, List.drop_left]
    refine ⟨not_infix_take_of_pyIndex hsep hi, .inr ⟨t, ?_, by rw [hdrop]⟩⟩
    rw [List.append_assoc, ht, List.take_append_drop]

lemma pySplitOn_ne_nil (s : List Char) : pySplitOn sep hsep s ≠ [] := by
  rw [pySplitOn]
  split <;> simp

end Split

section Straddle

variable {sep init : List Char} {c : Char} (hlast : sep = init ++ [c]) (hc : c ∉ init)
include hlast hc

lemma not_prefix_straddle {p rest : List Char} (hp : p ≠ []) (hnot : ¬ sep <:+: p) :
    ¬ sep <+: p ++ (sep ++ rest) := by
  intro h
  have hpre : p <+: p ++ (sep ++ rest) := List.prefix_append p _
  rcases le_or_lt sep.length p.length with hle | hlt
  · exact hnot (List.prefix_of_prefix_length_le h hpre hle).isInfix
  · obtain ⟨t, ht⟩ := List.prefix_of_prefix_length_le hpre h hlt.le
    have htpre : t <+: sep ++ rest := by
      rwa [← ht, List.prefix_append_right_inj, ht] at h
    have hsl : sep.length = init.length + 1 := by
      rw [hlast, List.length_append, List.length_singleton]
    have hlen : p.length + t.length = sep.length := by rw [← List.length_append, ht]
    have hpos := List.length_pos.mpr hp
    have hinit : init <+: sep ++ rest := by
      rw [hlast, List.append_assoc]; exact List.prefix_append _ _
    have htinit : t <+: init := List.prefix_of_prefix_length_le htpre hinit (by omega)
    have ht0 : t ≠ [] := by rintro rfl; simp only [List.length_nil] at hlen; omega
    have hct : t.getLast? = some c := by
      rw [← List.getLast?_append_of_ne_nil p ht0, ht, hlast, List.getLast?_concat]
    exact hc (htinit.subset (List.mem_of_getLast?_eq_some hct))

lemma pyIndex_append {pre rest : List Char} (hpre : ¬ sep <:+: pre) :
    pyIndex sep (pre ++ (sep ++ rest)) = some pre.length := by
  induction pre with
  | nil =>
    obtain ⟨d, ds, hd⟩ := List.exists_cons_of_ne_nil (by rw [hlast]; simp : sep ≠ [])
    rw [List.nil_append, hd, List.cons_append, pyIndex.eq_2]
    exact if_pos (List.prefix_append (d :: ds) rest)
  | cons a pre ih =>
    have hnot : ¬ sep <+: a :: (pre ++ (sep ++ rest)) :=
      not_prefix_straddle hlast hc (List.cons_ne_nil a pre) hpre
    rw [List.cons_append, pyIndex.eq_2, if_neg hnot,
      ih fun h => hpre (h.trans (List.suffix_cons a pre).isInfix)]
    rfl

lemma pySplitOn_append (hsep : sep ≠ []) {pre rest : List Char} (hpre : ¬ sep <:+: pre) :
    pySplitOn sep hsep (pre ++ (sep ++ rest)) = pre :: pySplitOn sep hsep rest := by
  rw [pySplitOn_of_pyIndex hsep (pyIndex_append hlast hc hpre), List.take_left, List.drop_append,
    List.drop_left]

lemma pySplitOn_eq_cons_cons_iff (hsep : sep ≠ []) {s a b : List Char} :
    (∃ ps, pySplitOn sep hsep s = a :: b :: ps) ↔
      ∃ rest, s = a ++ sep ++ b ++ rest ∧ ¬ sep <:+: a ∧ ¬ sep <:+: b ∧
        (rest = [] ∨ sep <+: rest) := by
  constructor
  · rintro ⟨ps, h⟩
    obtain ⟨ha, ⟨hnil, -⟩ | ⟨s', rfl, hs'⟩⟩ := pySplitOn_eq_cons hsep h
    · cases hnil
    obtain ⟨hb, ⟨-, rfl⟩ | ⟨s'', rfl, -⟩⟩ := pySplitOn_eq_cons hsep hs'.symm
    · exact ⟨[], by simp, ha, hb, .inl rfl⟩
    · exact ⟨sep ++ s'', by simp, ha, hb, .inr (List.prefix_append _ _)⟩
  · rintro ⟨rest, rfl, ha, hb, hrest⟩
    refine ⟨(pySplitOn sep hsep (b ++ rest)).tail, ?_⟩
    rw [List.append_assoc, List.append_assoc, pySplitOn_append hlast hc hsep ha]
    rcases hrest with rfl | ⟨r, rfl⟩
    · rw [List.append_nil, pySplitOn_of_no_sep hsep hb]
      rfl
    · rw [pySplitOn_append hlast hc hsep hb]
      rfl

end Straddle

/-- `s.strip(chars)`: `s` without the characters of `chars` at either end. -/
def pyStripChars (chars s : List Char) : List Char :=
  ((s.dropWhile (chars.contains ·)).reverse.dropWhile (chars.contains ·)).reverse

/-- `schema_major, schema_minor = parts`, which raises `ValueError` unless there are two. -/
def unpackTwo : List (List Char) → Except SchemaError (List Char × List Char)
  | [a, b] => .ok (a, b)
  | parts => .error (.unpackError parts.length)

/-- `int(text)`, raising `ValueError` where `int` reads no number. -/
def intOrError (d : DecimalDigits) (text : List Char) : Except SchemaError Int :=
  match pyInt d text with
  | some n => .ok n
  | none => .error (.invalidLiteral text)

/-- `'!ENDVERSION!\n'`, which ends the header. -/
def endVersion : List Char := "!ENDVERSION!\n".toList

lemma endVersion_ne_nil : endVersion ≠ [] := by decide

/-- `get_schema(schemafilepath)`, given the text `sqlfile.read()` returns. -/
def getSchema (d : DecimalDigits) (sqlCommands : List Char) :
    Except SchemaError (Int × Int × List Char) :=
  if "--!VERSION".toList <+: sqlCommands then do
    let splitcommands := pySplitOn endVersion endVersion_ne_nil sqlCommands
    let (schemaMajor, schemaMinor) ←
      unpackTwo ((pyStripChars "--!VERSION!".toList (splitcommands.headD [])).splitOn '.')
    let major ← intOrError d schemaMajor
    let minor ← intOrError d schemaMinor
    match splitcommands[1]? with
    | some rest => pure (major, minor, rest)
    | none => throw (.indexError "list index out of range")
  else throw (.unboundLocalError "schema_major_")

lemma unpackTwo_eq_ok {parts : List (List Char)} {a b : List Char} :
    unpackTwo parts = .ok (a, b) ↔ parts = [a, b] := by
  unfold unpackTwo
  split <;> simp_all

lemma intOrError_eq_ok {d : DecimalDigits} {text : List Char} {n : Int} :
    intOrError d text = .ok n ↔ pyInt d text = some n := by
  unfold intOrError
  split <;> simp_all

lemma bind_eq_ok {ε α β : Type} {x : Except ε α} {f : α → Except ε β} {b : β} :
    x >>= f = .ok b ↔ ∃ a, x = .ok a ∧ f a = .ok b := by
  cases x <;> simp [bind, Except.bind]

def HeaderVersion (d : DecimalDigits) (header : List Char) (major minor : Int) : Prop :=
  ∃ a b, (pyStripChars "--!VERSION!".toList header).splitOn '.' = [a, b] ∧
    pyInt d a = some major ∧ pyInt d b = some minor

lemma getSchema_eq_ok_iff_split {d : DecimalDigits} {s sql : List Char} {major minor : Int} :
    getSchema d s = .ok (major, minor, sql) ↔
      "--!VERSION".toList <+: s ∧ ∃ header ps,
        pySplitOn endVersion endVersion_ne_nil s = header :: sql :: ps ∧
        HeaderVersion d header major minor := by
  obtain ⟨header, ps, hps⟩ := List.exists_cons_of_ne_nil (pySplitOn_ne_nil endVersion_ne_nil s)
  unfold getSchema
  split_ifs with hp
  · simp only [hps, List.headD_cons, bind_eq_ok, Prod.exists, unpackTwo_eq_ok, intOrError_eq_ok,
      HeaderVersion, true_and]
    rcases ps with _ | ⟨sql', ps⟩
    · simp [throw, throwThe, MonadExceptOf.throw]
    · simp only [List.getElem?_cons_succ, List.getElem?_cons_zero, pure, Except.pure,
        Except.ok.injEq, Prod.mk.injEq, List.cons.injEq]
      exact ⟨fun ⟨a, b, hs, _, ha, _, hb, hM, hm, hsql⟩ =>
          ⟨hp, header, ps, ⟨rfl, hsql, rfl⟩, a, b, hs, hM ▸ ha, hm ▸ hb⟩,
        fun ⟨_, _, _, ⟨hh, hsql, _⟩, a, b, hs, ha, hb⟩ =>
          ⟨a, b, hh ▸ hs, _, ha, _, hb, rfl, rfl, hsql⟩⟩
  · exact iff_of_false (by rintro ⟨⟩) fun h => hp h.1

def SchemaText (s header sql rest : List Char) : Prop :=
  "--!VERSION".toList <+: s ∧ s = header ++ endVersion ++ sql ++ rest ∧
    ¬ endVersion <:+: header ∧ ¬ endVersion <:+: sql ∧ (rest = [] ∨ endVersion <+: rest)

lemma split_iff_schemaText (s : List Char) {header sql : List Char} :
    ("--!VERSION".toList <+: s ∧ ∃ ps, pySplitOn endVersion endVersion_ne_nil s = header :: sql :: ps) ↔
      ∃ rest, SchemaText s header sql rest := by
  have hlast : endVersion = "!ENDVERSION!".toList ++ ['\n'] := rfl
  rw [@pySplitOn_eq_cons_cons_iff _ _ _ hlast (by decide) endVersion_ne_nil s]
  simp only [SchemaText, exists_and_left]

lemma getSchema_of_schemaText {d : DecimalDigits} {s header sql rest : List Char} {major minor : Int}
    (hs : SchemaText s header sql rest) (hv : HeaderVersion d header major minor) :
    getSchema d s = .ok (major, minor, sql) := by
  obtain ⟨hp, ps, hps⟩ := (split_iff_schemaText s).mpr ⟨rest, hs⟩
  exact getSchema_eq_ok_iff_split.mpr ⟨hp, header, ps, hps, hv⟩

/-- What `get_schema` reads: a text that starts with `--!VERSION`, a header holding no end
marker, the end marker, SQL holding none, and then nothing or another end marker with what
follows it. It returns the header's version and that SQL. -/
theorem getSchema_eq_ok_iff (d : DecimalDigits) (s sql : List Char) (major minor : Int) :
    getSchema d s = .ok (major, minor, sql) ↔
      "--!VERSION".toList <+: s ∧ ∃ header rest, s = header ++ endVersion ++ sql ++ rest ∧
        ¬ endVersion <:+: header ∧ ¬ endVersion <:+: sql ∧ (rest = [] ∨ endVersion <+: rest) ∧
        HeaderVersion d header major minor := by
  refine ⟨fun h => ?_, fun ⟨hp, header, rest, hs, hh, hq, hr, hv⟩ =>
    getSchema_of_schemaText ⟨hp, hs, hh, hq, hr⟩ hv⟩
  obtain ⟨hp, header, ps, hps, hv⟩ := getSchema_eq_ok_iff_split.mp h
  obtain ⟨rest, -, hs, hh, hq, hr⟩ := (split_iff_schemaText s).mp ⟨hp, ps, hps⟩
  exact ⟨hp, header, rest, hs, hh, hq, hr, hv⟩

section Written

lemma toString_digits (n : Nat) :
    (toString n).toList ≠ [] ∧ ∀ c ∈ (toString n).toList, c.isDigit :=
  let h := @toDigitsCore_decimal .asciiOnly n n (le_refl n) [] (by simp)
  ⟨h.1, h.2.1⟩

lemma pyInt_toString (d : DecimalDigits) (n : Nat) : pyInt d (toString n).toList = some (n : Int) := by
  obtain ⟨hne, hall, hv⟩ := @toDigitsCore_decimal d n n (le_refl n) [] (by simp)
  have htext : (toString n).toList = Nat.toDigitsCore 10 (n + 1) n [] := rfl
  rw [htext, pyInt_eq_some_iff d ⟨hne, fun c hc => isPySpace_of_isDigit (hall c hc)⟩]
  refine ⟨[], [Nat.toDigitsCore 10 (n + 1) n []], by simp, List.cons_ne_nil _ _,
    by simpa using ⟨hne, fun c hc => d.isDigit_of_ascii (hall c hc)⟩, .inl ⟨.inl rfl, ?_⟩⟩
  rw [List.flatten_singleton, hv]
  simp

lemma pyStripChars_append_of_mem {chars p s : List Char} (hp : ∀ a ∈ p, a ∈ chars) :
    pyStripChars chars (p ++ s) = pyStripChars chars s := by
  rw [pyStripChars, pyStripChars, List.dropWhile_append_of_pos (by simpa using hp)]

lemma pyStripChars_of_ends {chars s : List Char} (hhead : ∀ a ∈ s.head?, a ∉ chars)
    (hlast : ∀ a ∈ s.getLast?, a ∉ chars) : pyStripChars chars s = s := by
  rw [pyStripChars, dropWhile_of_head (s := s) fun a ha => by simpa using hhead a ha,
    dropWhile_of_head fun a ha => by simpa using hlast a (by simpa using ha), List.reverse_reverse]

lemma not_mem_of_isDigit {c : Char} {ds : List Char} (hds : ∀ d ∈ ds, d.isDigit)
    (hc : c.isDigit = false) : c ∉ ds :=
  fun hm => by simp [hds c hm] at hc

lemma splitOn_pyStripChars_written (major minor : Nat) :
    (pyStripChars "--!VERSION!".toList ("--!VERSION!".toList ++ (toString major).toList ++
      '.' :: (toString minor).toList)).splitOn '.' =
        [(toString major).toList, (toString minor).toList] := by
  obtain ⟨hne₁, hd₁⟩ := toString_digits major
  obtain ⟨hne₂, hd₂⟩ := toString_digits minor
  have hfixed : ∀ c ∈ "--!VERSION!".toList, c.isDigit = false := by decide
  have hlast := List.getLast?_append_of_ne_nil ((toString major).toList ++ ['.']) hne₂
  simp only [List.append_assoc, List.singleton_append] at hlast
  rw [List.append_assoc, pyStripChars_append_of_mem fun _ ha => ha, pyStripChars_of_ends
      (fun a ha hm => not_mem_of_isDigit hd₁ (hfixed a hm)
        (List.mem_of_mem_head? (by rwa [List.head?_append_of_ne_nil _ hne₁] at ha)))
      (fun a ha hm => not_mem_of_isDigit hd₂ (hfixed a hm)
        (List.mem_of_getLast?_eq_some (hlast ▸ ha))),
    splitOn_append_sep (not_mem_of_isDigit hd₁ (by decide)),
    splitOn_of_not_mem (not_mem_of_isDigit hd₂ (by decide))]

/-- `get_schema` reads back a header written for two natural numbers, in front of SQL that
holds no end marker. -/
theorem getSchema_written (d : DecimalDigits) (major minor : Nat) (sql : List Char)
    (hsql : ¬ endVersion <:+: sql) :
    getSchema d ("--!VERSION!".toList ++ (toString major).toList ++ '.' :: (toString minor).toList ++
      endVersion ++ sql) = .ok (major, minor, sql) := by
  refine getSchema_of_schemaText (show SchemaText _ _ _ [] from
    ⟨?_, (List.append_nil _).symm, fun h => ?_, hsql, .inl rfl⟩) ⟨_, _, splitOn_pyStripChars_written major minor, pyInt_toString d major,
    pyInt_toString d minor⟩
  · simp only [List.append_assoc]
    exact (by decide : "--!VERSION".toList <+: "--!VERSION!".toList).trans (List.prefix_append _ _)
  · have hnl := h.subset (by decide : '\n' ∈ endVersion)
    simp only [List.mem_append, List.mem_cons] at hnl
    rcases hnl with (h | h) | h | h
    · exact absurd h (by decide)
    · exact not_mem_of_isDigit (toString_digits major).2 (by decide) h
    · exact absurd h (by decide)
    · exact not_mem_of_isDigit (toString_digits minor).2 (by decide) h

theorem getSchema_written_runs :
    getSchema .asciiOnly ("--!VERSION!".toList ++ (toString 1).toList ++ '.' :: (toString 6).toList ++
      endVersion ++ "CREATE TABLE Runs (oid uuid);".toList) =
        .ok (1, 6, "CREATE TABLE Runs (oid uuid);".toList) :=
  getSchema_written .asciiOnly 1 6 _ (by decide)

end Written

end WorkloadAutomation
