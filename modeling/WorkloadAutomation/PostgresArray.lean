import WorkloadAutomation.PostgresLevel

/-!
# Arrays of adapted values

`adapt_ListOfX(adapt_X)` of `wa/utils/postgres.py`: the adapter of a list whose elements
`adapt_X` writes as SQL arrays `c1,...,ck` (braces optional). It splits every element at
its commas and gathers the `j`-th components of all elements into the `j`-th sub-array of
a master array, `{{a1,a2},{b1,b2}}`; a single sub-array is written alone, `{a1,a2}`.
The number of sub-arrays is read off the first element, `result_list[0]`, which an empty
list does not have: on it the adapter raises `IndexError`
(`adapt_list_of_x_empty_raises`).
-/

namespace WorkloadAutomation

/-- `AsIs(s)` of `psycopg2.extensions`: SQL text passed on as it stands. -/
structure AsIs where
  sql : String
  deriving DecidableEq, Repr

/-- `s.strip(ch)`: `s` without the characters `ch` at either end. -/
def pyStripChar (ch : Char) (s : List Char) : List Char :=
  ((s.dropWhile (· == ch)).reverse.dropWhile (· == ch)).reverse

/-- `master_list[x] = master_list[x] + element[x] + ","`, where `element[x]` raises
`IndexError` when the element has no part `x`. -/
def addPart (element : List (List Char)) (masterList : List (List Char)) (x : Nat) :
    Except PgError (List (List Char)) :=
  match element[x]? with
  | some part => .ok (masterList.set x (masterList.getD x [] ++ part ++ [',']))
  | none => .error (.indexError "list index out of range")

/-- One pass of the loop over `result_list`: the element stripped of braces and split at
its commas, its part `x` added to column `x` for every `x < num_items`. -/
def addElement (numItems : Nat) (masterList : List (List Char)) (element : List Char) :
    Except PgError (List (List Char)) :=
  (List.range numItems).foldlM
    (addPart ((pyStripChar '}' (pyStripChar '{' element)).splitOn ',')) masterList

def masterSqlString (numItems : Nat) (masterList : List (List Char)) : List Char :=
  let masterSql := masterList.foldl (fun s m => s ++ '{' :: pyStripChar ',' m ++ ['}', ','])
    (if numItems > 1 then ['{'] else [])
  let masterSql := pyStripChar ',' masterSql
  if numItems > 1 then masterSql ++ ['}'] else masterSql

/-- `adapt_ListOfX(adapt_X)(param)`, with `values` for `param.value`; `psycopg2` says whether
`from psycopg2.extensions import AsIs` succeeded. -/
def adaptListOfX {α : Type} (psycopg2 : Bool) (adaptX : α → String) (values : List α) :
    Except PgError AsIs := do
  if !psycopg2 then throw (.importError "There was a problem importing psycopg2.")
  let resultList := values.map fun v => (adaptX v).toList
  let testElement ← match resultList.head? with
    | some e => pure e
    | none => throw (.indexError "list index out of range")
  let numItems := (testElement.splitOn ',').length
  let masterList ← resultList.foldlM (addElement numItems) (List.replicate numItems [])
  pure ⟨"'" ++ String.mk (masterSqlString numItems masterList) ++ "'"⟩

/-- On an empty list there is no `result_list[0]`. -/
theorem adapt_list_of_x_empty_raises :
    adaptListOfX true adaptLevel [] = .error (.indexError "list index out of range") := rfl

def IsComponent (c : List Char) : Prop := c ≠ [] ∧ ',' ∉ c ∧ '{' ∉ c ∧ '}' ∉ c

instance (c : List Char) : Decidable (IsComponent c) := inferInstanceAs (Decidable (_ ∧ _))

def IsEncoding (k : Nat) (e : List Char) (comps : List (List Char)) : Prop :=
  comps.length = k ∧ (∀ c ∈ comps, IsComponent c) ∧
    (e = [','].intercalate comps ∨ e = '{' :: [','].intercalate comps ++ ['}'])

instance (k : Nat) (e : List Char) (comps : List (List Char)) : Decidable (IsEncoding k e comps) :=
  inferInstanceAs (Decidable (_ ∧ _ ∧ _))

def sqlArray (items : List (List Char)) : List Char := '{' :: [','].intercalate items ++ ['}']

def columnArray : List (List (List Char)) → List Char
  | [column] => sqlArray column
  | columns => sqlArray (columns.map sqlArray)

section Strip

variable {ch : Char}

@[simp] lemma intercalate_one (sep a : List Char) : sep.intercalate [a] = a := by
  simp [List.intercalate]

lemma flatMap_append_sep {β : Type} (f : β → List Char) :
    ∀ {l : List β}, l ≠ [] →
      l.flatMap (fun x => f x ++ [ch]) = [ch].intercalate (l.map f) ++ [ch]
  | [], h => (h rfl).elim
  | [a], _ => by simp
  | a :: b :: l, _ => by
    rw [List.flatMap_cons, flatMap_append_sep f (List.cons_ne_nil b l)]
    simp [intercalate_cons_cons]

def EdgesNot (ch : Char) (s : List Char) : Prop :=
  s ≠ [] ∧ (∀ a ∈ s.head?, a ≠ ch) ∧ ∀ a ∈ s.getLast?, a ≠ ch

lemma edgesNot_of_not_mem {s : List Char} (hs : s ≠ []) (h : ch ∉ s) : EdgesNot ch s :=
  ⟨hs, fun _ ha he => h (he ▸ List.mem_of_mem_head? ha),
    fun _ ha he => h (he ▸ List.mem_of_mem_getLast? ha)⟩

lemma edgesNot_intercalate (sep : List Char) :
    ∀ {l : List (List Char)}, l ≠ [] → (∀ c ∈ l, EdgesNot ch c) →
      EdgesNot ch (sep.intercalate l)
  | [], h, _ => (h rfl).elim
  | [a], _, hl => by simpa using hl a (List.mem_singleton_self a)
  | a :: b :: l, _, hl => by
    obtain ⟨ha, hhead, -⟩ := hl a (List.mem_cons_self a _)
    obtain ⟨hi, -, hlast⟩ := edgesNot_intercalate sep (List.cons_ne_nil b l)
      fun c hc => hl c (List.mem_cons_of_mem a hc)
    rw [intercalate_cons_cons]
    refine ⟨by simp [ha], ?_, ?_⟩
    · obtain ⟨x, t, rfl⟩ := List.exists_cons_of_ne_nil ha
      simpa using hhead
    · obtain ⟨y, t, hy⟩ := List.exists_cons_of_ne_nil hi
      simpa [hy] using hlast

lemma dropWhile_of_head {p : Char → Bool} {s : List Char} (h : ∀ a ∈ s.head?, p a = false) :
    s.dropWhile p = s := by
  cases s with
  | nil => rfl
  | cons a t => simp [h a rfl]

lemma dropWhile_reverse {s : List Char} (h : EdgesNot ch s) :
    s.reverse.dropWhile (· == ch) = s.reverse :=
  dropWhile_of_head fun a ha => by simpa using h.2.2 a (by simpa using ha)

lemma pyStripChar_of_edgesNot {s : List Char} (h : EdgesNot ch s) : pyStripChar ch s = s := by
  rw [pyStripChar, dropWhile_of_head (s := s) fun a ha => by simpa using h.2.1 a ha,
    dropWhile_reverse h, List.reverse_reverse]

lemma pyStripChar_append_self {s : List Char} (h : EdgesNot ch s) :
    pyStripChar ch (s ++ [ch]) = s := by
  have hhead : ∀ a ∈ (s ++ [ch]).head?, (a == ch) = false := by
    obtain ⟨x, t, rfl⟩ := List.exists_cons_of_ne_nil h.1
    simpa using h.2.1 x rfl
  rw [pyStripChar, dropWhile_of_head hhead, List.reverse_concat,
    List.dropWhile_cons_of_pos (by simp), dropWhile_reverse h, List.reverse_reverse]

lemma pyStripChar_cons_self {s : List Char} (h : EdgesNot ch s) : pyStripChar ch (ch :: s) = s := by
  rw [pyStripChar, List.dropWhile_cons_of_pos (by simp),
    dropWhile_of_head (s := s) fun a ha => by simpa using h.2.1 a ha, dropWhile_reverse h,
    List.reverse_reverse]

end Strip

section Element

variable {k : Nat} {e : List Char} {comps : List (List Char)}

lemma length_splitOn_eq_count (ch : Char) (s : List Char) :
    (s.splitOn ch).length = s.count ch + 1 := by
  induction s with
  | nil => rfl
  | cons a s ih =>
    simp only [List.splitOn, List.splitOnP_cons] at ih ⊢
    by_cases h : a = ch <;> simp [h, ih, List.count_cons]

lemma edgesNot_append {ch c : Char} {s : List Char} (h : EdgesNot ch s) (hc : c ≠ ch) :
    EdgesNot ch (s ++ [c]) := by
  refine ⟨by simp, ?_, fun a ha => ?_⟩
  · obtain ⟨x, t, rfl⟩ := List.exists_cons_of_ne_nil h.1
    simpa using h.2.1 x rfl
  · rw [List.getLast?_concat, Option.mem_def, Option.some.injEq] at ha
    exact ha ▸ hc

lemma edgesNot_cons {ch c : Char} {s : List Char} (h : EdgesNot ch s) (hc : c ≠ ch) :
    EdgesNot ch (c :: s) := by
  obtain ⟨x, t, rfl⟩ := List.exists_cons_of_ne_nil h.1
  exact ⟨List.cons_ne_nil _ _, by simpa using hc, by simpa using h.2.2⟩

lemma IsEncoding.comps_ne_nil (he : IsEncoding k e comps) (hk : 1 ≤ k) : comps ≠ [] :=
  List.ne_nil_of_length_pos (by rw [he.1]; exact hk)

lemma IsEncoding.edgesNot (he : IsEncoding k e comps) (hk : 1 ≤ k) (ch : Char)
    (hch : ch = ',' ∨ ch = '{' ∨ ch = '}') : EdgesNot ch ([','].intercalate comps) :=
  edgesNot_intercalate _ (he.comps_ne_nil hk) fun c hc => by
    obtain ⟨hne, h1, h2, h3⟩ := he.2.1 c hc
    exact edgesNot_of_not_mem hne (by rcases hch with rfl | rfl | rfl <;> assumption)

lemma IsEncoding.length_splitOn (he : IsEncoding k e comps) (hk : 1 ≤ k) :
    (e.splitOn ',').length = k := by
  have hcomma : ∀ c ∈ comps, ',' ∉ c := fun c hc => (he.2.1 c hc).2.1
  have hjoin :=
    congrArg List.length (List.splitOn_intercalate comps ',' hcomma (he.comps_ne_nil hk))
  rw [length_splitOn_eq_count] at hjoin
  rcases he.2.2 with rfl | rfl
  · rw [length_splitOn_eq_count, hjoin, he.1]
  · rw [length_splitOn_eq_count, ← he.1, ← hjoin]
    simp [List.count_cons, List.count_append]

lemma IsEncoding.splitOn_strip (he : IsEncoding k e comps) (hk : 1 ≤ k) :
    (pyStripChar '}' (pyStripChar '{' e)).splitOn ',' = comps := by
  have hcomma : ∀ c ∈ comps, ',' ∉ c := fun c hc => (he.2.1 c hc).2.1
  have hopen := he.edgesNot hk '{' (by simp)
  have hclose := he.edgesNot hk '}' (by simp)
  rcases he.2.2 with rfl | rfl
  · rw [pyStripChar_of_edgesNot hopen, pyStripChar_of_edgesNot hclose,
      List.splitOn_intercalate comps ',' hcomma (he.comps_ne_nil hk)]
  · rw [List.cons_append, pyStripChar_cons_self (edgesNot_append hopen (by decide)),
      pyStripChar_append_self hclose,
      List.splitOn_intercalate comps ',' hcomma (he.comps_ne_nil hk)]

end Element

section Loops

lemma set_map_range {β : Type} (G : Nat → β) (k n : Nat) (v : β) :
    ((List.range k).map G).set n v = (List.range k).map fun j => if j = n then v else G j := by
  apply List.ext_getElem (by simp)
  intro i h1 h2
  by_cases h : i = n
  · subst h
    simp
  · simp [List.getElem_set, h, Ne.symm h]

lemma foldlM_addPart (parts : List (List Char)) (F : Nat → List Char) {k : Nat} :
    ∀ {n : Nat}, n ≤ k → n ≤ parts.length →
      (List.range n).foldlM (addPart parts) ((List.range k).map F) =
        .ok ((List.range k).map fun j => if j < n then F j ++ parts.getD j [] ++ [','] else F j)
  | 0, _, _ => by simp [pure, Except.pure]
  | n + 1, hk, hp => by
    have hget : ((List.range k).map fun j =>
        if j < n then F j ++ parts.getD j [] ++ [','] else F j).getD n [] = F n := by
      simp [List.getD_eq_getElem?_getD, List.getElem?_range (show n < k by omega)]
    rw [List.range_succ, List.foldlM_append, foldlM_addPart parts F (by omega) (by omega)]
    simp only [bind, Except.bind, List.foldlM_cons, List.foldlM_nil, addPart,
      List.getElem?_eq_getElem (show n < parts.length by omega), hget, pure, Except.pure,
      set_map_range]
    congr 2
    funext j
    by_cases hj : j = n
    · subst hj
      simp [List.getD_eq_getElem?_getD, List.getElem?_eq_getElem (show j < parts.length by omega)]
    · by_cases hjn : j < n
      · simp [hj, hjn, Nat.lt_succ_of_lt hjn]
      · simp [hj, hjn, show ¬j < n + 1 by omega]

lemma foldlM_addElement {α : Type} (adaptX : α → String) (comps : α → List (List Char))
    {k : Nat} (hk : 1 ≤ k) :
    ∀ {xs : List α}, (∀ x ∈ xs, IsEncoding k (adaptX x).toList (comps x)) →
      ∀ F : Nat → List Char,
      (xs.map fun x => (adaptX x).toList).foldlM (addElement k) ((List.range k).map F) =
        .ok ((List.range k).map fun j => F j ++ xs.flatMap fun x => (comps x).getD j [] ++ [','])
  | [], _, F => by simp [pure, Except.pure]
  | x :: xs, hxs, F => by
    have he := hxs x (List.mem_cons_self _ _)
    have hstep : addElement k ((List.range k).map F) (adaptX x).toList =
        .ok ((List.range k).map fun j =>
          if j < k then F j ++ (comps x).getD j [] ++ [','] else F j) := by
      rw [addElement, he.splitOn_strip hk]
      exact foldlM_addPart _ F le_rfl (he.1 ▸ le_rfl)
    rw [List.map_cons, List.foldlM_cons, hstep]
    simp only [bind, Except.bind]
    rw [foldlM_addElement adaptX comps hk (fun y hy => hxs y (List.mem_cons_of_mem _ hy))]
    congr 1
    apply List.map_congr_left
    intro j hj
    simp [List.mem_range.mp hj]

end Loops

lemma foldl_append_eq_flatMap {β : Type} (f : β → List Char) (l : List β) (a : List Char) :
    l.foldl (fun s m => s ++ f m) a = a ++ l.flatMap f := by
  induction l generalizing a with
  | nil => simp
  | cons m l ih => simp [ih]

lemma edgesNot_sqlArray (items : List (List Char)) : EdgesNot ',' (sqlArray items) :=
  ⟨by simp [sqlArray], by simp [sqlArray], fun a ha => by
    rw [sqlArray, List.getLast?_concat, Option.mem_def,
      Option.some.injEq] at ha
    exact ha ▸ by decide⟩

lemma masterSqlString_columns {cols : List (List (List Char))} (hne : cols ≠ [])
    (hcols : ∀ col ∈ cols, col ≠ [] ∧ ∀ c ∈ col, EdgesNot ',' c) :
    masterSqlString cols.length (cols.map fun col => [','].intercalate col ++ [',']) =
      columnArray cols := by
  have hstrip : ∀ col ∈ cols,
      '{' :: pyStripChar ',' ([','].intercalate col ++ [',']) ++ ['}', ','] =
        sqlArray col ++ [','] := fun col hcol => by
    rw [pyStripChar_append_self (edgesNot_intercalate _ (hcols col hcol).1 (hcols col hcol).2)]
    simp [sqlArray]
  have hjoin : EdgesNot ',' ([','].intercalate (cols.map sqlArray)) :=
    edgesNot_intercalate [','] (by simpa using hne)
      (by simpa using fun col _ => edgesNot_sqlArray col)
  rw [masterSqlString]
  simp only [List.append_assoc]
  rw [foldl_append_eq_flatMap, List.flatMap_map, List.flatMap_congr hstrip,
    flatMap_append_sep sqlArray hne]
  match cols, hne with
  | [col], _ => simp [pyStripChar_append_self (edgesNot_sqlArray col), columnArray]
  | a :: b :: l, _ =>
    simp only [List.length_cons, show l.length + 1 + 1 > 1 by omega, ↓reduceIte,
      List.singleton_append]
    rw [← List.cons_append, pyStripChar_append_self (edgesNot_cons hjoin (by decide))]
    rfl

lemma adaptListOfX_cons {α : Type} (adaptX : α → String) (x : α) (xs : List α) :
    adaptListOfX true adaptX (x :: xs) =
      (((x :: xs).map fun v => (adaptX v).toList).foldlM
        (addElement ((adaptX x).toList.splitOn ',').length)
        (List.replicate ((adaptX x).toList.splitOn ',').length [])).map fun masterList =>
          ⟨"'" ++ String.mk (masterSqlString ((adaptX x).toList.splitOn ',').length masterList) ++
            "'"⟩ := by
  simp only [adaptListOfX, Bool.not_true, Bool.false_eq_true, ↓reduceIte, List.map_cons,
    List.head?_cons, bind, Except.bind, pure, Except.pure]
  split <;> simp_all [Except.map]

lemma columns_edgesNot {α : Type} {enc : α → List Char} {comps : α → List (List Char)} {k : Nat}
    {xs : List α} (hne : xs ≠ []) (hxs : ∀ x ∈ xs, IsEncoding k (enc x) (comps x)) :
    ∀ col ∈ (List.range k).map (fun j => xs.map fun x => (comps x).getD j []),
      col ≠ [] ∧ ∀ c ∈ col, EdgesNot ',' c := by
  simp only [List.mem_map, List.mem_range]
  rintro _ ⟨j, hj, rfl⟩
  refine ⟨by simpa using hne, fun c hc => ?_⟩
  obtain ⟨y, hy, rfl⟩ := List.mem_map.mp hc
  obtain ⟨hlen, hcomp, -⟩ := hxs y hy
  have hmem : (comps y).getD j [] ∈ comps y := by
    rw [List.getD_eq_getElem?_getD, List.getElem?_eq_getElem (by omega)]
    exact List.getElem_mem _
  obtain ⟨hne', hcomma, -⟩ := hcomp _ hmem
  exact edgesNot_of_not_mem hne' hcomma

/-- The adapter transposes: on a non-empty list of encodings of one arity `k ≥ 1`, whose
components are free of commas and braces, it writes the array of the columns, the `j`-th
column listing the `j`-th components in list order; on the empty list it raises
`IndexError`. -/
theorem adapt_list_of_x_arrays {α : Type} (adaptX : α → String) :
    adaptListOfX true adaptX [] = .error (.indexError "list index out of range") ∧
    ∀ (xs : List α) (comps : α → List (List Char)) (k : Nat), 1 ≤ k → xs ≠ [] →
      (∀ x ∈ xs, IsEncoding k (adaptX x).toList (comps x)) →
      adaptListOfX true adaptX xs = .ok ⟨"'" ++ String.mk (columnArray
        ((List.range k).map fun j => xs.map fun x => (comps x).getD j [])) ++ "'"⟩ := by
  refine ⟨rfl, fun xs comps k hk hne hxs => ?_⟩
  obtain ⟨x, xs', rfl⟩ := List.exists_cons_of_ne_nil hne
  have hrep : List.replicate k ([] : List Char) = (List.range k).map fun _ => [] := by
    simp [List.map_const']
  rw [adaptListOfX_cons, (hxs x (List.mem_cons_self _ _)).length_splitOn hk, hrep,
    foldlM_addElement adaptX comps hk hxs]
  simp only [Except.map, List.nil_append]
  set cols := (List.range k).map fun j => (x :: xs').map fun y => (comps y).getD j []
  have hM : ((List.range k).map fun j => (x :: xs').flatMap fun y => (comps y).getD j [] ++ [',']) =
      cols.map fun col => [','].intercalate col ++ [','] := by
    simp only [cols, List.map_map]
    exact List.map_congr_left fun j _ => flatMap_append_sep _ hne
  have hwrite := masterSqlString_columns (by simp [cols]; omega) (columns_edgesNot hne hxs)
  rw [show cols.length = k by simp [cols]] at hwrite
  rw [hM, hwrite]

theorem adapt_list_of_x_samples :
    adaptListOfX true adaptLevel [⟨"low", 1⟩, ⟨"high", 3⟩] =
        .ok ⟨"'\x7blow(1),high(3)\x7d'"⟩ ∧
      adaptListOfX true (fun p : String × String => "\x7b" ++ p.1 ++ "," ++ p.2 ++ "\x7d")
        [("a", "b"), ("c", "d")] = .ok ⟨"'\x7b\x7ba,c\x7d,\x7bb,d\x7d\x7d'"⟩ :=
  ⟨((adapt_list_of_x_arrays adaptLevel).2 [⟨"low", 1⟩, ⟨"high", 3⟩]
      (fun l => [(adaptLevel l).toList]) 1 le_rfl (by simp) (by decide)).trans rfl,
    ((adapt_list_of_x_arrays _).2 [("a", "b"), ("c", "d")] (fun p => [p.1.toList, p.2.toList]) 2
      (by decide) (by simp) (by decide)).trans rfl⟩

end WorkloadAutomation
