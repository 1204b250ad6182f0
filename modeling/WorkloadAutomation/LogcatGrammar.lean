import WorkloadAutomation.Logcat

/-!
# Which logcat lines parse

The lines `parse_line` turns into events, as a grammar: after stripping, five
whitespace-separated fields `DATE TIME PID TID LEVEL`, then the tag, `': '` and the
message, each field read as the event says, for any table of decimal digits. One
definition serves two readings, which differ in the calendar that decides which days exist
and in which `LEVEL` fields name a level.
-/

namespace WorkloadAutomation

section SplitColonSpace

lemma splitColonSpace_eq_some_iff {s a b : List Char} :
    splitColonSpace s = some (a, b) ↔ s = a ++ ':' :: ' ' :: b ∧ ¬ [':', ' '] <:+: a := by
  constructor
  · intro h
    induction s generalizing a with
    | nil => simp [splitColonSpace] at h
    | cons c rest ih =>
      unfold splitColonSpace at h
      split_ifs at h with hp
      · obtain ⟨rfl, rfl⟩ := Prod.mk.inj (Option.some.inj h)
        obtain ⟨t, ht⟩ := hp
        simp only [List.cons_append, List.nil_append, List.cons.injEq] at ht
        obtain ⟨rfl, rfl⟩ := ht
        simp
      · obtain ⟨⟨a', b'⟩, h', he⟩ := Option.map_eq_some'.mp h
        obtain ⟨rfl, rfl⟩ := Prod.mk.inj he
        obtain ⟨rfl, ha'⟩ := ih h'
        refine ⟨rfl, fun hi => ?_⟩
        rcases List.infix_cons_iff.mp hi with hi | hi
        · exact hp (hi.trans (by simp))
        · exact ha' hi
  · rintro ⟨rfl, ha⟩
    induction a with
    | nil => simp [splitColonSpace]
    | cons c a' ih =>
      have hp : ¬ [':', ' '] <+: c :: (a' ++ ':' :: ' ' :: b) := by
        rintro ⟨t, ht⟩
        cases a' with
        | nil => simp at ht
        | cons d a'' =>
          simp only [List.cons_append, List.nil_append, List.cons.injEq] at ht
          obtain ⟨rfl, rfl, -⟩ := ht
          exact ha (List.infix_cons_iff.mpr (.inl (by simp)))
      rw [List.cons_append, splitColonSpace, if_neg hp,
        ih (fun hi => ha (hi.trans (List.suffix_cons c a').isInfix))]
      rfl

end SplitColonSpace

def IsGap (g : List Char) : Prop := g ≠ [] ∧ AllSpace g

instance (g : List Char) : Decidable (IsGap g) := inferInstanceAs (Decidable (_ ∧ _))

def SplitsAs (metadata date time pid tid level tag : List Char) : Prop :=
  ∃ g₁ g₂ g₃ g₄, metadata = date ++ g₁ ++ time ++ g₂ ++ pid ++ g₃ ++ tid ++ g₄ ++ level ++ tag ∧
    IsField date ∧ IsField time ∧ IsField pid ∧ IsField tid ∧ IsField level ∧
    IsGap g₁ ∧ IsGap g₂ ∧ IsGap g₃ ∧ IsGap g₄ ∧ Delimited tag

section SplitWs

lemma delimited_gap {g : List Char} (hg : IsGap g) (r : List Char) : Delimited (g ++ r) := by
  obtain ⟨c, g', rfl⟩ := List.exists_cons_of_ne_nil hg.1
  intro d t h
  obtain ⟨rfl, -⟩ := List.cons.inj h
  exact hg.2 _ (List.mem_cons_self _ _)

lemma isGap_of_delimited {g w r : List Char} (hd : Delimited (g ++ (w ++ r))) (hg : AllSpace g)
    (hw : IsField w) : IsGap g := by
  refine ⟨fun h => ?_, hg⟩
  subst h
  obtain ⟨c, w', rfl⟩ := List.exists_cons_of_ne_nil hw.1
  have := hd c _ rfl
  rw [hw.2 c (by simp)] at this
  exact Bool.false_ne_true this

lemma pySplitWs_of_splitsAs {metadata date time pid tid level tag : List Char}
    (h : SplitsAs metadata date time pid tid level tag) :
    pySplitWs 5 metadata = date :: time :: pid :: tid :: level :: pySplitWs 0 tag := by
  obtain ⟨g₁, g₂, g₃, g₄, rfl, hd, ht, hp, hi, hl, hg₁, hg₂, hg₃, hg₄, htag⟩ := h
  simp only [List.append_assoc]
  rw [← List.nil_append (date ++ _), pySplitWs_field 4 (fun _ h => by simp at h) hd (delimited_gap hg₁ _),
    pySplitWs_field 3 hg₁.2 ht (delimited_gap hg₂ _), pySplitWs_field 2 hg₂.2 hp (delimited_gap hg₃ _),
    pySplitWs_field 1 hg₃.2 hi (delimited_gap hg₄ _), pySplitWs_field 0 hg₄.2 hl htag]

lemma splitsAs_of_pySplitWs {metadata date time pid tid level : List Char}
    {parts : List (List Char)} (hhead : ∀ c t, metadata = c :: t → isPySpace c = false)
    (h : pySplitWs 5 metadata = date :: time :: pid :: tid :: level :: parts) :
    ∃ tag, SplitsAs metadata date time pid tid level tag ∧ pySplitWs 0 tag = parts := by
  obtain ⟨g₀, r₁, rfl, hg₀, hd, hr₁, h₁⟩ := pySplitWs_eq_cons h
  obtain ⟨g₁, r₂, rfl, hg₁, ht, hr₂, h₂⟩ := pySplitWs_eq_cons h₁
  obtain ⟨g₂, r₃, rfl, hg₂, hp, hr₃, h₃⟩ := pySplitWs_eq_cons h₂
  obtain ⟨g₃, r₄, rfl, hg₃, hi, hr₄, h₄⟩ := pySplitWs_eq_cons h₃
  obtain ⟨g₄, tag, rfl, hg₄, hl, htag, h₅⟩ := pySplitWs_eq_cons h₄
  have hg₀' : g₀ = [] := by
    cases g₀ with
    | nil => rfl
    | cons c t =>
      have := hhead c _ rfl
      rw [hg₀ c (by simp)] at this
      exact absurd this (by decide)
  subst hg₀'
  refine ⟨tag, ⟨g₁, g₂, g₃, g₄, by simp, hd, ht, hp, hi, hl, isGap_of_delimited hr₁ hg₁ ht,
    isGap_of_delimited hr₂ hg₂ hp, isGap_of_delimited hr₃ hg₃ hi,
    isGap_of_delimited hr₄ hg₄ hl, htag⟩, h₅⟩

end SplitWs

/-- `DATE` and `TIME` read by `'%m-%d %H:%M:%S.%f'` as the date and time `t`, its year
aside: the format's separators split them into fields, each all of one alternative of its
directive, and `t` holds the fields' values. -/
def ReadsAs (d : DecimalDigits) (date time : List Char) (t : DateTime) : Prop :=
  ∃ mo dd h mi s f, date = mo ++ '-' :: dd ∧ time = h ++ ':' :: (mi ++ ':' :: (s ++ '.' :: f)) ∧
    fullMatch d monthDirective mo ∧ fullMatch d dayDirective dd ∧ fullMatch d hourDirective h ∧
    fullMatch d minuteDirective mi ∧ fullMatch d secondDirective s ∧
    fullMatch d fractionDirective f ∧ t.month = decimalValue d mo ∧ t.day = decimalValue d dd ∧
    t.hour = decimalValue d h ∧ t.minute = decimalValue d mi ∧ t.second = decimalValue d s ∧
    t.microsecond = fractionValue d f

def ValidIn (daysIn : Nat → Nat) (t : DateTime) : Prop :=
  1 ≤ t.month ∧ t.month ≤ 12 ∧ 1 ≤ t.day ∧ t.day ≤ daysIn t.month ∧ t.hour ≤ 23 ∧
    t.minute ≤ 59 ∧ t.second ≤ 59 ∧ t.microsecond ≤ 999999

instance (daysIn : Nat → Nat) (t : DateTime) : Decidable (ValidIn daysIn t) :=
  inferInstanceAs (Decidable (_ ∧ _))

section Strptime

lemma valid_iff (t : DateTime) : t.valid = true ↔ ValidIn (daysInMonth t.year) t := by
  simp [DateTime.valid, ValidIn, and_assoc]

lemma daysInMonth_1900_le (year month : Nat) : daysInMonth 1900 month ≤ daysInMonth year month := by
  unfold daysInMonth
  split_ifs <;> simp_all

lemma mem_of_zipWith_all {f : CharClass → Char → Bool} {alt : List CharClass} {s : List Char}
    (hl : alt.length = s.length) (h : (List.zipWith f alt s).all id = true) :
    ∀ c ∈ s, ∃ cls ∈ alt, f cls c = true := by
  induction alt generalizing s with
  | nil => cases s with
    | nil => intro c hc; cases hc
    | cons _ _ => cases hl
  | cons cls alt ih =>
    cases s with
    | nil => cases hl
    | cons c s =>
      simp only [List.zipWith_cons_cons, List.all_cons, id, Bool.and_eq_true] at h
      intro d hd
      rcases List.mem_cons.mp hd with rfl | hd
      · exact ⟨cls, List.mem_cons_self _ _, h.1⟩
      · obtain ⟨cls', hm, hc⟩ := ih (Nat.succ.inj hl) h.2 d hd
        exact ⟨cls', List.mem_cons_of_mem _ hm, hc⟩

lemma not_mem_of_fullMatch {d : DecimalDigits} {dir : Directive} {s : List Char} {c : Char}
    (hc : ∀ alt ∈ dir, ∀ cls ∈ alt, cls.accepts d c = false) (h : fullMatch d dir s = true) :
    c ∉ s := by
  intro hs
  obtain ⟨alt, halt, hm⟩ := List.any_eq_true.mp h
  simp only [Bool.and_eq_true, beq_iff_eq] at hm
  obtain ⟨cls, hcls, htrue⟩ := mem_of_zipWith_all hm.1 hm.2 c hs
  exact Bool.false_ne_true ((hc alt halt cls hcls).symm.trans htrue)

lemma CharClass.accepts_ascii (d : DecimalDigits) (cls : CharClass) {c : Char}
    (hc : c.toNat < 128) : cls.accepts d c = cls.accepts .asciiOnly c := by
  cases cls with
  | oneOf s => rfl
  | digit => exact (d.isDigit_ascii hc).trans (DecimalDigits.asciiOnly.isDigit_ascii hc).symm

/-- The directives of `'%m-%d %H:%M:%S.%f'`. -/
def logcatDirectives : List Directive :=
  [monthDirective, dayDirective, hourDirective, minuteDirective, secondDirective, fractionDirective]

lemma separator_not_mem {d : DecimalDigits} {dir : Directive} (hdir : dir ∈ logcatDirectives)
    (c : Char) (hc : c ∈ ['-', ':', '.']) {s : List Char} (h : fullMatch d dir s = true) :
    c ∉ s := by
  have hascii : ∀ dir ∈ logcatDirectives, ∀ c ∈ ['-', ':', '.'], c.toNat < 128 ∧
      ∀ alt ∈ dir, ∀ cls ∈ alt, cls.accepts .asciiOnly c = false := by decide
  refine not_mem_of_fullMatch (fun alt halt cls hcls => ?_) h
  obtain ⟨h128, hrej⟩ := hascii dir hdir c hc
  rw [cls.accepts_ascii d h128]
  exact hrej alt halt cls hcls

lemma splitOn_two {sep : Char} {xs ys : List Char} (hx : sep ∉ xs) (hy : sep ∉ ys) :
    (xs ++ sep :: ys).splitOn sep = [xs, ys] := by
  rw [splitOn_append_sep hx, splitOn_of_not_mem hy]

lemma eq_of_splitOn_two {sep : Char} {l xs ys : List Char} (h : l.splitOn sep = [xs, ys]) :
    l = xs ++ sep :: ys := by
  have := List.intercalate_splitOn l sep
  rw [h] at this
  simpa [List.intercalate, List.intersperse] using this.symm

lemma eq_of_splitOn_three {sep : Char} {l xs ys zs : List Char} (h : l.splitOn sep = [xs, ys, zs]) :
    l = xs ++ sep :: (ys ++ sep :: zs) := by
  have := List.intercalate_splitOn l sep
  rw [h] at this
  simpa [List.intercalate, List.intersperse] using this.symm

lemma strptimeLogcat_eq_some_iff {d : DecimalDigits} {date time : List Char} {t : DateTime} :
    strptimeLogcat d date time = some t ↔
      ReadsAs d date time t ∧ t.year = 1900 ∧ ValidIn (daysInMonth 1900) t := by
  constructor
  · intro h
    unfold strptimeLogcat at h
    split at h
    · next mo dd hh mi sf hdate htime =>
      split at h
      · next s f hsf =>
        dsimp only at h
        split_ifs at h with hm hv
        obtain rfl := Option.some.inj h.symm
        simp only [Bool.and_eq_true] at hm
        obtain ⟨⟨⟨⟨⟨hmo, hd⟩, hhh⟩, hmi⟩, hs⟩, hf⟩ := hm
        refine ⟨⟨mo, dd, hh, mi, s, f, eq_of_splitOn_two hdate, ?_, hmo, hd, hhh, hmi, hs, hf,
          rfl, rfl, rfl, rfl, rfl, rfl⟩, rfl, (valid_iff _).mp hv⟩
        rw [eq_of_splitOn_three htime, eq_of_splitOn_two hsf]
      · simp at h
    · simp at h
  · rintro ⟨⟨mo, dd, hh, mi, s, f, rfl, rfl, hmo, hd, hhh, hmi, hs, hf, hvm, hvd, hvh, hvmi, hvs,
      hvf⟩, hy, hvalid⟩
    have hsf : ':' ∉ s ++ '.' :: f := by
      simp [separator_not_mem (by simp [logcatDirectives]) ':' (by simp) hs,
        separator_not_mem (by simp [logcatDirectives]) ':' (by simp) hf]
    rw [strptimeLogcat, splitOn_two (separator_not_mem (by simp [logcatDirectives]) '-' (by simp) hmo)
        (separator_not_mem (by simp [logcatDirectives]) '-' (by simp) hd),
      splitOn_append_sep (separator_not_mem (by simp [logcatDirectives]) ':' (by simp) hhh),
      splitOn_two (separator_not_mem (by simp [logcatDirectives]) ':' (by simp) hmi) hsf]
    dsimp only
    rw [splitOn_two (separator_not_mem (by simp [logcatDirectives]) '.' (by simp) hs)
      (separator_not_mem (by simp [logcatDirectives]) '.' (by simp) hf)]
    dsimp only
    obtain ⟨_, _, _, _, _, _, _⟩ := t
    dsimp only at hy hvm hvd hvh hvmi hvs hvf
    subst hy hvm hvd hvh hvmi hvs hvf
    simp [hmo, hd, hhh, hmi, hs, hf, (valid_iff _).mpr hvalid]

lemma strptime_replaceYear_eq_some_iff (d : DecimalDigits) (now : Year) {date time : List Char}
    {t : DateTime} : (strptimeLogcat d date time).bind (replaceYear now) = some t ↔
      ReadsAs d date time t ∧ t.year = now.val ∧ ValidIn (daysInMonth 1900) t := by
  rw [Option.bind_eq_some]
  constructor
  · rintro ⟨t₀, h₀, hr⟩
    obtain ⟨hreads, -, hvalid⟩ := strptimeLogcat_eq_some_iff.mp h₀
    simp only [replaceYear] at hr
    split_ifs at hr
    obtain rfl := Option.some.inj hr.symm
    exact ⟨hreads, rfl, hvalid⟩
  · rintro ⟨hreads, hy, hvalid⟩
    refine ⟨{ t with year := 1900 }, strptimeLogcat_eq_some_iff.mpr ⟨hreads, rfl, hvalid⟩, ?_⟩
    have hv : ({ t with year := 1900 } : DateTime) = { t with year := 1900 } := rfl
    have ht : ({ { t with year := 1900 } with year := now.val } : DateTime) = t := by
      cases t; simp_all
    obtain ⟨h1, h2, h3, h4, h5, h6, h7, h8⟩ := hvalid
    simp only [replaceYear, ht, (valid_iff t).mpr ⟨h1, h2, h3,
      h4.trans (hy ▸ daysInMonth_1900_le t.year t.month), h5, h6, h7, h8⟩, if_true]

end Strptime

def IsIntNumeral (d : DecimalDigits) (s : List Char) (n : Int) : Prop :=
  ∃ sign groups, s = sign ++ ['_'].intercalate groups ∧ groups ≠ [] ∧
    (∀ g ∈ groups, g ≠ [] ∧ ∀ c ∈ g, d.isDigit c) ∧
    ((sign = [] ∨ sign = ['+']) ∧ n = decimalValue d groups.flatten ∨
      sign = ['-'] ∧ n = -(decimalValue d groups.flatten : Int))

section Int

variable (d : DecimalDigits)

lemma pyStrip_field {s : List Char} (hs : ∀ c ∈ s, isPySpace c = false) : pyStrip s = s := by
  have hd : ∀ l : List Char, (∀ c ∈ l, isPySpace c = false) → l.dropWhile isPySpace = l := by
    intro l hl
    cases l with
    | nil => rfl
    | cons c t => simp [hl c (by simp)]
  rw [pyStrip, hd s hs, hd s.reverse (by simpa using hs), List.reverse_reverse]

lemma decimalNumeral_iff (body : List Char) :
    decimalNumeral d body = true ↔ ∀ g ∈ body.splitOn '_', g ≠ [] ∧ ∀ c ∈ g, d.isDigit c := by
  simp [decimalNumeral, List.isEmpty_iff]

lemma splitOn_intercalate_digits {groups : List (List Char)} (hne : groups ≠ [])
    (hg : ∀ g ∈ groups, g ≠ [] ∧ ∀ c ∈ g, d.isDigit c) :
    (['_'].intercalate groups).splitOn '_' = groups :=
  List.splitOn_intercalate groups '_' (fun g hm hu => by
    simpa [d.isDigit_eq_false (c := '_') (by decide) rfl] using (hg g hm).2 '_' hu) hne

lemma intercalate_digits_head {groups : List (List Char)} (hne : groups ≠ [])
    (hg : ∀ g ∈ groups, g ≠ [] ∧ ∀ c ∈ g, d.isDigit c) :
    ∃ c t, ['_'].intercalate groups = c :: t ∧ d.isDigit c := by
  obtain ⟨g, gs, rfl⟩ := List.exists_cons_of_ne_nil hne
  obtain ⟨c, g', rfl⟩ := List.exists_cons_of_ne_nil (hg g (List.mem_cons_self _ _)).1
  refine ⟨c, (['_'].intercalate ((c :: g') :: gs)).tail, ?_,
    (hg _ (List.mem_cons_self _ _)).2 c (List.mem_cons_self _ _)⟩
  cases gs <;> simp [List.intercalate, List.intersperse]

lemma pySign_cases {s body : List Char} {negative : Bool} (h : pySign s = (negative, body)) :
    (s = body ∨ s = '+' :: body) ∧ negative = false ∨ s = '-' :: body ∧ negative = true := by
  unfold pySign at h
  split at h <;> simp_all

lemma pySign_of_isDigit {c : Char} (hc : d.isDigit c) (b : List Char) :
    pySign (c :: b) = (false, c :: b) := by
  have hminus : d.isDigit '-' = false := d.isDigit_eq_false (by decide) rfl
  have hplus : d.isDigit '+' = false := d.isDigit_eq_false (by decide) rfl
  unfold pySign
  split <;> simp_all

lemma pyInt_eq_some_iff {s : List Char} {n : Int} (hs : IsField s) :
    pyInt d s = some n ↔ IsIntNumeral d s n := by
  rw [pyInt, pyStrip_field hs.2]
  constructor
  · intro h
    rcases hps : pySign s with ⟨negative, body⟩
    simp only [hps] at h
    by_cases hd : decimalNumeral d body = true
    · rw [if_pos hd] at h
      obtain rfl := Option.some.inj h.symm
      have hgroups := (decimalNumeral_iff d body).mp hd
      have hbody := (List.intercalate_splitOn body '_').symm
      have hne : body.splitOn '_' ≠ [] := List.splitOnP_ne_nil _ _
      rcases pySign_cases hps with ⟨hsign, rfl⟩ | ⟨rfl, rfl⟩
      · rcases hsign with rfl | rfl
        · exact ⟨[], _, hbody, hne, hgroups, .inl ⟨.inl rfl, by simp⟩⟩
        · exact ⟨['+'], _, by rw [← hbody]; rfl, hne, hgroups, .inl ⟨.inr rfl, by simp⟩⟩
      · exact ⟨['-'], _, by rw [← hbody]; rfl, hne, hgroups, .inr ⟨rfl, by simp⟩⟩
    · rw [if_neg hd] at h
      cases h
  · rintro ⟨sign, groups, rfl, hne, hg, hval⟩
    have hd : decimalNumeral d (['_'].intercalate groups) = true := by
      rw [decimalNumeral_iff, splitOn_intercalate_digits d hne hg]
      exact hg
    obtain ⟨c, t, hct, hc⟩ := intercalate_digits_head d hne hg
    rcases hval with ⟨rfl | rfl, rfl⟩ | ⟨rfl, rfl⟩
    · rw [List.nil_append, hct, pySign_of_isDigit d hc, ← hct]
      simp [hd, splitOn_intercalate_digits d hne hg]
    · simp [pySign, hd, splitOn_intercalate_digits d hne hg]
    · simp [pySign, hd, splitOn_intercalate_digits d hne hg]

end Int

/-- The level a letter of `'VDIWEA'` names. -/
def letterLevel : Char → Option LogcatLogLevel
  | 'V' => some .verbose
  | 'D' => some .debug
  | 'I' => some .info
  | 'W' => some .warn
  | 'E' => some .error
  | 'A' => some .assert
  | _ => none

/-- `LEVEL` as one letter of `'VDIWEA'`. -/
def singleLetterLevel : List Char → Option LogcatLogLevel
  | [c] => letterLevel c
  | _ => none

/-- `LEVEL` as a non-empty substring of `'VDIWEA'`, naming the level of its first letter. -/
def substringLevel : List Char → Option LogcatLogLevel
  | [] => none
  | c :: rest => if c :: rest <:+: "VDIWEA".toList then letterLevel c else none

section Level

lemma pyIndex_eq_none_iff {sub : List Char} (hsub : sub ≠ []) (s : List Char) :
    pyIndex sub s = none ↔ ¬ sub <:+: s := by
  induction s with
  | nil => simp [pyIndex, hsub, List.infix_nil]
  | cons c s ih =>
    unfold pyIndex
    split_ifs with hp
    · simp [hp.isInfix]
    · simp [ih, List.infix_cons_iff, hp]

lemma pyIndex_prefix {sub s : List Char} {i : Nat} (h : pyIndex sub s = some i) :
    sub <+: s.drop i := by
  induction s generalizing i with
  | nil =>
    simp only [pyIndex] at h
    split_ifs at h with hs
    obtain rfl := Option.some.inj h.symm
    simp [hs]
  | cons c s ih =>
    unfold pyIndex at h
    split_ifs at h with hp
    · obtain rfl := Option.some.inj h.symm
      exact hp
    · obtain ⟨j, hj, rfl⟩ := Option.map_eq_some'.mp h
      exact ih hj

lemma levels_getElem? {i : Nat} {c : Char} {t : List Char}
    (h : ['V', 'D', 'I', 'W', 'E', 'A'].drop i = c :: t) :
    LogcatLogLevel.levels[i]? = letterLevel c := by
  rcases i with _ | _ | _ | _ | _ | _ | i <;> simp at h
  all_goals obtain ⟨rfl, -⟩ := h; rfl

lemma level_of_pyIndex {level : List Char} (hl : level ≠ []) :
    (pyIndex level logLevelMap).bind (LogcatLogLevel.levels[·]?) = substringLevel level := by
  obtain ⟨c, rest, rfl⟩ := List.exists_cons_of_ne_nil hl
  rw [logLevelMap_eq, substringLevel]
  split_ifs with hin
  · cases hp : pyIndex (c :: rest) "VDIWEA".toList with
    | none => exact absurd hin ((pyIndex_eq_none_iff hl _).mp hp)
    | some i =>
      obtain ⟨u, hu⟩ := pyIndex_prefix hp
      exact levels_getElem? hu.symm
  · rw [(pyIndex_eq_none_iff hl _).mpr hin]
    rfl

end Level

/-- No `': '` inside, and no `:` at the end: nothing appended can make a `': '` start in it. -/
def ColonFree (x : List Char) : Prop := ¬ [':', ' '] <:+: x ∧ ∀ t, x ≠ t ++ [':']

section ColonFree

lemma not_colonSpace_append {a b : List Char} (ha : ColonFree a) (hb : ¬ [':', ' '] <:+: b) :
    ¬ [':', ' '] <:+: a ++ b := by
  induction a with
  | nil => simpa using hb
  | cons c a ih =>
    intro hi
    rcases List.infix_cons_iff.mp (List.cons_append c a b ▸ hi) with ⟨u, hu⟩ | hi
    · simp only [List.cons_append, List.nil_append, List.cons.injEq] at hu
      obtain ⟨rfl, hu⟩ := hu
      cases a with
      | nil => exact ha.2 [] rfl
      | cons d a =>
        obtain ⟨rfl, -⟩ := List.cons.inj hu
        exact ha.1 (List.infix_cons_iff.mpr (.inl ⟨a, rfl⟩))
    · exact ih ⟨fun h => ha.1 (h.trans (List.suffix_cons c a).isInfix),
        fun t ht => ha.2 (c :: t) (by simp [ht])⟩ hi

lemma ColonFree.append {a b : List Char} (ha : ColonFree a) (hb : ColonFree b) :
    ColonFree (a ++ b) := by
  refine ⟨not_colonSpace_append ha hb.1, fun t ht => ?_⟩
  rcases List.eq_nil_or_concat b with rfl | ⟨b', e, rfl⟩
  · exact ha.2 t (by simpa using ht)
  · rw [List.concat_eq_append, ← List.append_assoc] at ht
    obtain ⟨-, he⟩ := List.append_inj' ht rfl
    obtain rfl := List.singleton_inj.mp he
    exact hb.2 b' (List.concat_eq_append _ _)

lemma colonFree_of_not_mem {x : List Char} (h : ':' ∉ x) : ColonFree x :=
  ⟨fun hi => h (hi.subset (by simp)), fun t ht => h (by simp [ht])⟩

lemma colonFree_of_field_last {w f : List Char} (hw : IsField (w ++ f)) (hf : f ≠ [])
    (hc : ':' ∉ f) : ColonFree (w ++ f) := by
  refine ⟨fun hi => ?_, fun t ht => ?_⟩
  · have := hw.2 ' ' (hi.subset (by simp))
    exact absurd this (by decide)
  · obtain ⟨f', e, rfl⟩ := (List.eq_nil_or_concat f).resolve_left hf
    rw [List.concat_eq_append, ← List.append_assoc] at ht
    obtain ⟨-, he⟩ := List.append_inj' ht rfl
    obtain rfl := List.singleton_inj.mp he
    exact hc (by simp)

lemma mem_intercalate {sep : List Char} :
    ∀ {groups : List (List Char)} {c : Char}, c ∈ sep.intercalate groups →
      c ∈ sep ∨ ∃ g ∈ groups, c ∈ g
  | [], _, h => by simp [List.intercalate] at h
  | [g], _, h => .inr ⟨g, by simp, by simpa [List.intercalate] using h⟩
  | g :: g' :: gs, c, h => by
    rw [intercalate_cons_cons, List.append_assoc] at h
    rcases List.mem_append.mp h with h | h
    · exact .inr ⟨g, by simp, h⟩
    · rcases List.mem_append.mp h with h | h
      · exact .inl h
      · rcases mem_intercalate h with h | ⟨g'', hg, hc⟩
        · exact .inl h
        · exact .inr ⟨g'', by simp_all, hc⟩

lemma colon_not_mem_of_isIntNumeral {d : DecimalDigits} {s : List Char} {n : Int}
    (h : IsIntNumeral d s n) : ':' ∉ s := by
  obtain ⟨sign, groups, rfl, -, hg, hsign⟩ := h
  have hsign' : ':' ∉ sign := by
    rcases hsign with ⟨rfl | rfl, -⟩ | ⟨rfl, -⟩ <;> decide
  intro hm
  rcases List.mem_append.mp hm with hm | hm
  · exact hsign' hm
  · rcases mem_intercalate hm with hm | ⟨g, hgm, hc⟩
    · simp at hm
    · exact absurd ((hg g hgm).2 ':' hc) (by rw [d.isDigit_eq_false (c := ':') (by decide) rfl]; decide)

lemma mem_intercalate_of_mem {sep : List Char} :
    ∀ {groups : List (List Char)} {g : List Char} {c : Char}, g ∈ groups → c ∈ g →
      c ∈ sep.intercalate groups
  | [], _, _, hg, _ => absurd hg (List.not_mem_nil _)
  | [_], _, _, hg, hc => by simpa [List.intercalate, List.mem_singleton.mp hg] using hc
  | g' :: g'' :: gs, g, c, hg, hc => by
    rw [intercalate_cons_cons, List.append_assoc]
    rcases List.mem_cons.mp hg with rfl | hg
    · exact List.mem_append_left _ hc
    · exact List.mem_append_right _ (List.mem_append_right _ (mem_intercalate_of_mem hg hc))

end ColonFree

/-- `line.strip()` is `DATE TIME PID TID LEVEL TAG': 'MSG`, the fields separated by runs
of whitespace, `TAG` without `': '` and `MSG` non-empty, read as the event `ev`: `DATE` and
`TIME` read by `'%m-%d %H:%M:%S.%f'` as a valid date and time in the calendar `daysIn`, in
the year `now`; `PID` and `TID` integer numerals; `LEVEL` naming a level by `levelOf`; the
tag stripped and the message as they stand. -/
def LogcatForm (d : DecimalDigits) (daysIn : Nat → Nat) (levelOf : List Char → Option LogcatLogLevel)
    (now : Year) (line : String) (ev : LogcatEvent) : Prop :=
  ∃ metadata date time pid tid level tag msg : List Char,
    pyStrip line.toList = metadata ++ ':' :: ' ' :: msg ∧
    SplitsAs metadata date time pid tid level tag ∧ ¬ [':', ' '] <:+: tag ∧ msg ≠ [] ∧
    ReadsAs d date time ev.timestamp ∧ ev.timestamp.year = now.val ∧ ValidIn daysIn ev.timestamp ∧
    IsIntNumeral d pid ev.pid ∧ IsIntNumeral d tid ev.tid ∧ levelOf level = some ev.level ∧
    ev.tag = String.mk (pyStrip tag) ∧ ev.message = String.mk msg


section Parse

lemma colon_not_mem_of_substringLevel {level : List Char} {lv : LogcatLogLevel}
    (h : substringLevel level = some lv) : ':' ∉ level := by
  cases level with
  | nil => cases h
  | cons c rest =>
    simp only [substringLevel] at h
    split_ifs at h with hin
    exact fun hm => absurd (hin.subset hm) (by decide)

lemma metadata_not_colonSpace {d : DecimalDigits} {metadata date time pid tid level tag : List Char}
    {t : DateTime} {p i : Int} (hsplit : SplitsAs metadata date time pid tid level tag)
    (htag : ¬ [':', ' '] <:+: tag) (hreads : ReadsAs d date time t) (hp : IsIntNumeral d pid p)
    (hi : IsIntNumeral d tid i) (hl : ':' ∉ level) :
    ¬ [':', ' '] <:+: metadata := by
  obtain ⟨g₁, g₂, g₃, g₄, rfl, -, htime, -, -, -, hg₁, hg₂, hg₃, hg₄, -⟩ := hsplit
  obtain ⟨mo, dd, h, mi, s, f, rfl, rfl, hmo, hd, -, -, -, hf, -⟩ := hreads
  have hgap : ∀ g, IsGap g → ColonFree g := fun g hg =>
    colonFree_of_not_mem fun hm => absurd (hg.2 ':' hm) (by decide)
  have hdate : ColonFree (mo ++ '-' :: dd) := colonFree_of_not_mem (by
    simp [separator_not_mem (by simp [logcatDirectives]) ':' (by simp) hmo,
      separator_not_mem (by simp [logcatDirectives]) ':' (by simp) hd])
  have htime' : ColonFree (h ++ ':' :: (mi ++ ':' :: (s ++ '.' :: f))) := by
    have e : h ++ ':' :: (mi ++ ':' :: (s ++ '.' :: f)) =
        (h ++ ':' :: (mi ++ ':' :: (s ++ ['.']))) ++ f := by simp
    rw [e] at htime ⊢
    refine colonFree_of_field_last htime ?_
      (separator_not_mem (by simp [logcatDirectives]) ':' (by simp) hf)
    rintro rfl
    simp [fractionDirective, fullMatch] at hf
  exact not_colonSpace_append (((((((((hdate.append (hgap _ hg₁)).append htime').append
    (hgap _ hg₂)).append (colonFree_of_not_mem (colon_not_mem_of_isIntNumeral hp))).append
    (hgap _ hg₃)).append (colonFree_of_not_mem (colon_not_mem_of_isIntNumeral hi))).append
    (hgap _ hg₄)).append (colonFree_of_not_mem hl))) htag

lemma logcatForm_of_parseLine {d : DecimalDigits} {now : Year} {line : String} {ev : LogcatEvent}
    (h : parseLine d now line = some ev) :
    LogcatForm d (daysInMonth 1900) substringLevel now line ev := by
  unfold parseLine at h
  dsimp only at h
  split_ifs at h
  split at h
  · cases h
  rename_i metadata msg hs
  obtain ⟨hl, hmeta⟩ := splitColonSpace_eq_some_iff.mp hs
  split at h
  swap
  · cases h
  rename_i date time pid tid level parts hws
  obtain ⟨ts, hts, h⟩ := Option.bind_eq_some.mp h
  obtain ⟨p, hp, h⟩ := Option.bind_eq_some.mp h
  obtain ⟨i, hi, h⟩ := Option.bind_eq_some.mp h
  obtain ⟨lv, hlv, h⟩ := Option.bind_eq_some.mp h
  obtain rfl := Option.some.inj h.symm
  have hhead : ∀ c t, metadata = c :: t → isPySpace c = false := fun c t hct =>
    pyStrip_head (by rw [hl, hct, List.cons_append])
  obtain ⟨tag, hsplit, hparts⟩ := splitsAs_of_pySplitWs hhead hws
  obtain ⟨g₁, g₂, g₃, g₄, hm, -, -, hpid, htid, hlevel, -⟩ := id hsplit
  obtain ⟨hreads, hyear, hvalid⟩ := (strptime_replaceYear_eq_some_iff d now).mp hts
  refine ⟨metadata, date, time, pid, tid, level, tag, msg, hl, hsplit,
    fun hi => hmeta (hi.trans ?_), ?_, hreads, hyear, hvalid,
    (pyInt_eq_some_iff d hpid).mp hp, (pyInt_eq_some_iff d htid).mp hi,
    (level_of_pyIndex hlevel.1) ▸ hlv, by rw [← hparts, pyStrip_last_part], rfl⟩
  · rw [hm]
    exact (List.suffix_append _ _).isInfix
  · rintro rfl
    exact absurd (pyStrip_getLast (t := metadata ++ [':']) (c := ' ') (hl.trans (by simp))) (by decide)

lemma head_ne_dash_of_readsAs {d : DecimalDigits} {date time : List Char} {t : DateTime}
    (h : ReadsAs d date time t) (r : List Char) : (date ++ r).head? ≠ some '-' := by
  obtain ⟨mo, dd, _, _, _, _, rfl, -, hmo, -⟩ := h
  cases mo with
  | nil => simp [monthDirective, fullMatch] at hmo
  | cons c mo =>
    have hdash := separator_not_mem (by simp [logcatDirectives]) '-' (by simp) hmo
    simp only [List.cons_append, List.head?_cons, ne_eq, Option.some.injEq]
    rintro rfl
    exact hdash (List.mem_cons_self _ _)

lemma parseLine_of_logcatForm {d : DecimalDigits} {now : Year} {line : String} {ev : LogcatEvent}
    (h : LogcatForm d (daysInMonth 1900) substringLevel now line ev) :
    parseLine d now line = some ev := by
  obtain ⟨metadata, date, time, pid, tid, level, tag, msg, hl, hsplit, htag, -, hreads, hyear,
    hvalid, hpid, htid, hlevel, htagEq, hmsgEq⟩ := h
  have hmeta := metadata_not_colonSpace hsplit htag hreads hpid htid
    (colon_not_mem_of_substringLevel hlevel)
  obtain ⟨g₁, g₂, g₃, g₄, hm, -, -, hpidF, htidF, hlevelF, -⟩ := id hsplit
  have hhead : (metadata ++ ':' :: ' ' :: msg).head? ≠ some '-' := by
    rw [hm]
    simpa only [List.append_assoc] using head_ne_dash_of_readsAs hreads _
  have hcontains : pyContains [':', ' '] (metadata ++ ':' :: ' ' :: msg) = true :=
    decide_eq_true (List.infix_append' _ _ _)
  have hcond : (decide (metadata ++ ':' :: ' ' :: msg = []) ||
      decide ((metadata ++ ':' :: ' ' :: msg).head? = some '-') ||
      !pyContains [':', ' '] (metadata ++ ':' :: ' ' :: msg)) = false := by
    rw [decide_eq_false hhead, hcontains]
    simp
  unfold parseLine
  dsimp only
  rw [hl, hcond, if_neg Bool.false_ne_true, splitColonSpace_eq_some_iff.mpr ⟨rfl, hmeta⟩]
  dsimp only
  rw [pySplitWs_of_splitsAs hsplit]
  dsimp only
  rw [(strptime_replaceYear_eq_some_iff d now).mpr ⟨hreads, hyear, hvalid⟩,
    (pyInt_eq_some_iff d hpidF).mpr hpid, (pyInt_eq_some_iff d htidF).mpr htid,
    level_of_pyIndex hlevelF.1, hlevel, pyStrip_last_part, ← htagEq, ← hmsgEq]
  rfl

end Parse

section Tables

variable {d d' : DecimalDigits}

lemma zipWith_accepts_congr {s : List Char} (h : d.AgreeOn d' s) (alt : List CharClass) :
    List.zipWith (fun cls c => cls.accepts d c) alt s =
      List.zipWith (fun cls c => cls.accepts d' c) alt s := by
  induction s generalizing alt with
  | nil => simp
  | cons c s ih =>
    cases alt with
    | nil => rfl
    | cons cls alt =>
      rw [List.zipWith_cons_cons, List.zipWith_cons_cons,
        ih (h.mono (List.subset_cons_self c s)) alt]
      cases cls with
      | oneOf _ => rfl
      | digit => exact congrArg (· :: _) (h.isDigit (List.mem_cons_self c s))

lemma fullMatch_congr (dir : Directive) {s : List Char} (h : d.AgreeOn d' s) :
    fullMatch d dir s = fullMatch d' dir s := by
  simp only [fullMatch, zipWith_accepts_congr h]

lemma fractionValue_congr {f : List Char} (h : d.AgreeOn d' f) :
    fractionValue d f = fractionValue d' f := by
  refine decimalValue_congr fun c hc => (List.mem_append.mp hc).elim (h c) fun hz => ?_
  rw [List.eq_of_mem_replicate hz]
  exact d.agreeOn_of_ascii d' (s := ['0']) (by decide) '0' (List.mem_singleton_self _)

lemma ReadsAs.congr {date time : List Char} {t : DateTime} (h : d.AgreeOn d' (date ++ time))
    (hr : ReadsAs d date time t) : ReadsAs d' date time t := by
  obtain ⟨mo, dd, hh, mi, s, f, rfl, rfl, hmo, hd, hhh, hmi, hs, hf, hvm, hvd, hvh, hvmi, hvs,
    hvf⟩ := hr
  have ag : ∀ x, (∀ c ∈ x, c ∈ mo ∨ c ∈ dd ∨ c ∈ hh ∨ c ∈ mi ∨ c ∈ s ∨ c ∈ f) → d.AgreeOn d' x :=
    fun x hx => h.mono fun c hc => by rcases hx c hc with h | h | h | h | h | h <;> simp [h]
  have hmo' := ag mo fun c hc => .inl hc
  have hd' := ag dd fun c hc => .inr (.inl hc)
  have hh' := ag hh fun c hc => .inr (.inr (.inl hc))
  have hmi' := ag mi fun c hc => .inr (.inr (.inr (.inl hc)))
  have hs' := ag s fun c hc => .inr (.inr (.inr (.inr (.inl hc))))
  have hf' := ag f fun c hc => .inr (.inr (.inr (.inr (.inr hc))))
  exact ⟨mo, dd, hh, mi, s, f, rfl, rfl, (fullMatch_congr _ hmo').symm.trans hmo,
    (fullMatch_congr _ hd').symm.trans hd, (fullMatch_congr _ hh').symm.trans hhh,
    (fullMatch_congr _ hmi').symm.trans hmi, (fullMatch_congr _ hs').symm.trans hs,
    (fullMatch_congr _ hf').symm.trans hf, hvm.trans (decimalValue_congr hmo'), hvd.trans (decimalValue_congr hd'),
    hvh.trans (decimalValue_congr hh'), hvmi.trans (decimalValue_congr hmi'),
    hvs.trans (decimalValue_congr hs'), hvf.trans (fractionValue_congr hf')⟩

lemma IsIntNumeral.congr {s : List Char} {n : Int} (h : d.AgreeOn d' s)
    (hn : IsIntNumeral d s n) : IsIntNumeral d' s n := by
  obtain ⟨sign, groups, rfl, hne, hg, hval⟩ := hn
  have hsub : ∀ g ∈ groups, ∀ c ∈ g, c ∈ sign ++ ['_'].intercalate groups :=
    fun g hgm c hc => List.mem_append_right _ (mem_intercalate_of_mem hgm hc)
  have hflat : d.AgreeOn d' groups.flatten := fun c hc => by
    obtain ⟨g, hgm, hc⟩ := List.mem_flatten.mp hc
    exact h c (hsub g hgm c hc)
  refine ⟨sign, groups, rfl, hne, fun g hgm => ⟨(hg g hgm).1, fun c hc => ?_⟩, ?_⟩
  · rw [← h.isDigit (hsub g hgm c hc)]
    exact (hg g hgm).2 c hc
  · rwa [← decimalValue_congr hflat]

lemma pyStrip_subset (s : List Char) : pyStrip s ⊆ s :=
  List.IsPrefix.subset ( pyStrip_prefix s) |>.trans (List.dropWhile_suffix _).subset

lemma LogcatForm.congr {daysIn : Nat → Nat} {levelOf : List Char → Option LogcatLogLevel}
    {now : Year} {line : String} {ev : LogcatEvent} (h : d.AgreeOn d' line.toList)
    (hf : LogcatForm d daysIn levelOf now line ev) : LogcatForm d' daysIn levelOf now line ev := by
  obtain ⟨metadata, date, time, pid, tid, level, tag, msg, hl, hsplit, htag, hmsg, hreads, hyear,
    hvalid, hpid, htid, hlevel, htagEq, hmsgEq⟩ := hf
  obtain ⟨g₁, g₂, g₃, g₄, hm, -⟩ := id hsplit
  have ag : ∀ x, x ⊆ metadata → d.AgreeOn d' x := fun x hx =>
    h.mono (hx.trans ((List.subset_append_left _ _).trans (hl ▸ pyStrip_subset _)))
  have hfield : ∀ x, (∀ c ∈ x, c ∈ date ∨ c ∈ time ∨ c ∈ pid ∨ c ∈ tid) → x ⊆ metadata :=
    fun x hx c hc => by rw [hm]; rcases hx c hc with h | h | h | h <;> simp [h]
  exact ⟨metadata, date, time, pid, tid, level, tag, msg, hl, hsplit, htag, hmsg,
    hreads.congr (ag _ (hfield _ fun c hc => (List.mem_append.mp hc).elim .inl (.inr ∘ .inl))),
    hyear, hvalid, hpid.congr (ag _ (hfield _ fun c hc => .inr (.inr (.inl hc)))),
    htid.congr (ag _ (hfield _ fun c hc => .inr (.inr (.inr hc)))), hlevel, htagEq, hmsgEq⟩

lemma parseLine_congr {now : Year} {line : String} (h : d.AgreeOn d' line.toList) :
    parseLine d now line = parseLine d' now line :=
  Option.ext fun _ => ⟨fun hp => parseLine_of_logcatForm ((logcatForm_of_parseLine hp).congr h),
    fun hp => parseLine_of_logcatForm ((logcatForm_of_parseLine hp).congr h.symm)⟩

end Tables

/-- `parse_line` returns an event exactly for the lines of the grammar: the date must exist
in 1900, the default year of `strptime`, and `LEVEL` may be any non-empty substring of
`'VDIWEA'`. -/
theorem parse_line_iff_logcat_form (d : DecimalDigits) (now : Year) (line : String)
    (ev : LogcatEvent) :
    parseLine d now line = some ev ↔ LogcatForm d (daysInMonth 1900) substringLevel now line ev :=
  ⟨logcatForm_of_parseLine, parseLine_of_logcatForm⟩

lemma colon_not_mem_of_singleLetterLevel {level : List Char} {lv : LogcatLogLevel}
    (h : singleLetterLevel level = some lv) : ':' ∉ level := by
  rcases level with _ | ⟨c, _ | ⟨_, _⟩⟩ <;> simp only [singleLetterLevel, reduceCtorEq] at h
  rintro (_ | ⟨_, ⟨⟩⟩)
  cases h

def leapYear : Year := ⟨2024, by decide, by decide⟩

def leapDayLine : String := "02-29 10:15:30.123 1234 5678 I tag: hello"

def leapDayEvent : LogcatEvent :=
  ⟨⟨2024, 2, 29, 10, 15, 30, 123000⟩, 1234, 5678, .info, "tag", "hello"⟩

def twoLetterLine : String := "03-01 10:15:30.123 1234 5678 VD tag: hello"

def twoLetterEvent : LogcatEvent :=
  ⟨⟨2024, 3, 1, 10, 15, 30, 123000⟩, 1234, 5678, .verbose, "tag", "hello"⟩

/-- Whatever the digit table, a line of February 29 of a leap year, with a one-letter level,
is dropped, and a line whose level is the two letters `VD` is read as `verbose` though no
reading of it has a one-letter level. -/
theorem parse_line_drops_leap_day_reads_two_letters (d : DecimalDigits) :
    (LogcatForm d (daysInMonth leapYear.val) singleLetterLevel leapYear leapDayLine leapDayEvent ∧
      parseLine d leapYear leapDayLine = none) ∧
    (parseLine d leapYear twoLetterLine = some twoLetterEvent ∧
      ∀ ev, ¬ LogcatForm d (daysInMonth leapYear.val) singleLetterLevel leapYear twoLetterLine ev) := by
  have hascii : ∀ line ∈ [leapDayLine, twoLetterLine], ∀ c ∈ line.toList, c.toNat < 128 := by
    decide
  have hleap := DecimalDigits.agreeOn_of_ascii .asciiOnly d (hascii leapDayLine (by simp))
  have htwo := DecimalDigits.agreeOn_of_ascii .asciiOnly d (hascii twoLetterLine (by simp))
  refine ⟨⟨LogcatForm.congr hleap ⟨"02-29 10:15:30.123 1234 5678 I tag".toList, "02-29".toList,
    "10:15:30.123".toList, "1234".toList, "5678".toList, ['I'], " tag".toList, "hello".toList,
    by decide, ⟨[' '], [' '], [' '], [' '], by decide⟩, by decide, by decide,
    ⟨"02".toList, "29".toList, "10".toList, "15".toList, "30".toList, "123".toList, by decide⟩,
    rfl, by decide, ⟨[], ["1234".toList], by decide⟩, ⟨[], ["5678".toList], by decide⟩, rfl, rfl,
    rfl⟩, (parseLine_congr hleap.symm).trans rfl⟩, (parseLine_congr htwo.symm).trans rfl,
    fun ev hf => ?_⟩
  obtain ⟨metadata, date, time, pid, tid, level, tag, msg, hl, hsplit, htag, -, hreads, -, -,
    hpid, htid, hlevel, -⟩ := hf
  have hs := splitColonSpace_eq_some_iff.mpr ⟨hl, metadata_not_colonSpace hsplit htag hreads hpid
    htid (colon_not_mem_of_singleLetterLevel hlevel)⟩
  have hsplitLine : splitColonSpace (pyStrip twoLetterLine.toList) =
      some ("03-01 10:15:30.123 1234 5678 VD tag".toList, "hello".toList) := rfl
  obtain ⟨rfl, -⟩ := Prod.mk.inj (Option.some.inj (hsplitLine.symm.trans hs))
  have hws : pySplitWs 5 "03-01 10:15:30.123 1234 5678 VD tag".toList =
      ["03-01".toList, "10:15:30.123".toList, "1234".toList, "5678".toList, "VD".toList,
        "tag".toList] := rfl
  rw [pySplitWs_of_splitsAs hsplit] at hws
  simp only [List.cons.injEq] at hws
  obtain ⟨-, -, -, -, rfl, -⟩ := hws
  cases hlevel

end WorkloadAutomation
