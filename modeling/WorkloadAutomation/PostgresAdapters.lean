import WorkloadAutomation.PostgresArray

/-!
# The iterable and vanilla adapters

The other adapters of `wa/utils/postgres.py`. `create_iterable_adapter(array_columns,
explicit_iterate)` returns `adapt_iterable`, which writes its argument as an SQL array:
with more than one column it reads the rows of `param.iteritems()` and writes the array of
their columns, the same master array `adapt_ListOfX` writes (`adaptIterable_columns`).
Otherwise it writes every item followed by a comma, as `adapt_list` does on a true argument,
so that the text always ends in `,}` and is never the array of the items
(`adaptList_not_sqlArray`). `adapt_vanilla` puts the text of its value in quotes
without doubling the quotes inside, which gives the SQL literal of the value exactly when the
text holds no quote (`adaptVanilla_literal_iff`).
-/

namespace WorkloadAutomation

/-- What the adapters read of a Python value: `str(v)`, and `v[i]` where it has an item. -/
structure PyObj (α : Type) where
  str : α → String
  getItem : α → Nat → Option α

/-- The argument of an adapter, through what the adapters read of it: its truth value, the
items a `for` loop over it yields, and the items `param.iteritems()` yields, `none` where it has
no `iteritems`. -/
structure IterParam (α : Type) where
  truthy : Bool
  items : List α
  iteritems : Option (List α)

inductive IterableError where
  | pg (e : PgError)
  | attributeError (attr : String)
  deriving DecidableEq, Repr

section Adapters

variable {α : Type} (O : PyObj α)

def iteritems (param : IterParam α) : Except IterableError (List α) :=
  match param.iteritems with
  | some rows => .ok rows
  | none => .error (.attributeError "iteritems")

/-- `array_string = array_string + str(item[index]) + ","`; an item without an item `index`
raises `IndexError`, as the pairs `iteritems` yields do. -/
def addIndexed (index : Nat) (arrayString : List Char) (item : α) :
    Except IterableError (List Char) :=
  match O.getItem item index with
  | some x => .ok (arrayString ++ (O.str x).toList ++ [','])
  | none => .error (.pg (.indexError "tuple index out of range"))

def columnString (rows : List α) (index : Nat) : Except IterableError (List Char) := do
  let arrayString ← rows.foldlM (addIndexed O index) []
  pure ('{' :: pyStripChar ',' arrayString ++ ['}'])

/-- `final_string = final_string + str(item) + ","` over a list of items. -/
def commaList (items : List α) : List Char :=
  items.foldl (fun finalString item => finalString ++ (O.str item).toList ++ [',']) []

/-- `adapt_iterable(param)` of `create_iterable_adapter(array_columns, explicit_iterate)`. -/
def adaptIterable (arrayColumns : Nat) (explicitIterate : Bool) (param : IterParam α) :
    Except IterableError AsIs := do
  let finalString ←
    if param.truthy then
      if arrayColumns > 1 then do
        let finalString ← (List.range arrayColumns).foldlM (fun finalString index => do
          let rows ← iteritems param
          let arrayString ← columnString O rows index
          pure (finalString ++ arrayString ++ [','])) []
        pure (pyStripChar ',' finalString)
      else if explicitIterate then do
        let rows ← iteritems param
        pure (commaList O rows)
      else pure (commaList O param.items)
    else pure []
  pure ⟨"'\x7b" ++ String.mk finalString ++ "\x7d'"⟩

/-- `create_iterable_adapter(array_columns, explicit_iterate)`, which raises `ImportError`
when `from psycopg2.extensions import AsIs` failed. -/
def createIterableAdapter (psycopg2 : Bool) (arrayColumns : Nat) (explicitIterate : Bool) :
    Except IterableError (IterParam α → Except IterableError AsIs) :=
  if psycopg2 then .ok (adaptIterable O arrayColumns explicitIterate)
  else .error (.pg (.importError "There was a problem importing psycopg2."))

/-- `adapt_list(param)`. -/
def adaptList (psycopg2 : Bool) (param : IterParam α) : Except PgError AsIs :=
  if psycopg2 then
    let finalString := if param.truthy then '{' :: commaList O param.items ++ ['}'] else []
    .ok ⟨"'" ++ String.mk finalString ++ "'"⟩
  else .error (.importError "There was a problem importing psycopg2.")

/-- `adapt_vanilla(param)`. -/
def adaptVanilla (psycopg2 : Bool) (param : α) : Except PgError AsIs :=
  if psycopg2 then .ok ⟨"'" ++ O.str param ++ "'"⟩
  else .error (.importError "There was a problem importing psycopg2.")

/-- `return_as_is(adapt_X)`: `adapt_X` with its text put in quotes. -/
def returnAsIs (psycopg2 : Bool) (adaptX : α → String) : Except PgError (α → AsIs) :=
  if psycopg2 then .ok fun param => ⟨"'" ++ adaptX param ++ "'"⟩
  else .error (.importError "There was a problem importing psycopg2.")

/-- `cast_vanilla(value, cur)`: `str` of the text it is given. -/
def castVanilla (value : Option String) : Option String :=
  match value with
  | none => none
  | some v => some v

lemma commaList_eq (items : List α) :
    commaList O items = items.flatMap fun item => (O.str item).toList ++ [','] := by
  simpa [commaList, List.append_assoc] using
    foldl_append_eq_flatMap (fun item => (O.str item).toList ++ [',']) items []

def fieldObj : PyObj String where
  str s := s
  getItem s i := (s.toList.splitOn ',')[i]?.map String.mk

/-- The text `adapt_list` writes for a true argument ends in a comma before the closing brace,
so it is never the SQL array of texts that are non-empty and free of commas and braces: the
array holds an empty last element, which PostgreSQL refuses. -/
theorem adaptList_not_sqlArray (param : IterParam α) (htruthy : param.truthy = true)
    (hitems : param.items ≠ []) (items : List (List Char)) (hcomp : ∀ c ∈ items, IsComponent c) :
    adaptList O true param ≠ .ok ⟨"'" ++ String.mk (sqlArray items) ++ "'"⟩ := by
  intro h
  simp only [adaptList, htruthy, if_true, Except.ok.injEq, AsIs.mk.injEq] at h
  have hdata := congrArg String.toList h
  simp [sqlArray, commaList_eq] at hdata
  have hlast : ([','].intercalate items).getLast? = some ',' := by
    rw [← hdata, flatMap_append_sep _ hitems, List.getLast?_concat]
  cases items with
  | nil => exact absurd hlast (by decide)
  | cons c cs =>
    exact (edgesNot_intercalate [','] (List.cons_ne_nil c cs) fun c hc =>
      edgesNot_of_not_mem (hcomp c hc).1 (hcomp c hc).2.1).2.2 ',' hlast rfl

theorem adaptList_not_sqlArray_levels :
    adaptList fieldObj true ⟨true, ["low", "high"], none⟩ ≠
      .ok ⟨"'" ++ String.mk (sqlArray ["low".toList, "high".toList]) ++ "'"⟩ :=
  adaptList_not_sqlArray fieldObj _ rfl (by decide) _ (by decide)

def cell (row : α) (index : Nat) : List Char :=
  ((O.getItem row index).map fun x => (O.str x).toList).getD []

lemma foldlM_addIndexed (index : Nat) {rows : List α}
    (h : ∀ r ∈ rows, (O.getItem r index).isSome) (acc : List Char) :
    rows.foldlM (addIndexed O index) acc =
      .ok (acc ++ rows.flatMap fun r => cell O r index ++ [',']) := by
  induction rows generalizing acc with
  | nil => simp [pure, Except.pure]
  | cons r rows ih =>
    obtain ⟨x, hx⟩ := Option.isSome_iff_exists.mp (h r (List.mem_cons_self _ _))
    rw [List.foldlM_cons]
    simp only [addIndexed, hx, bind, Except.bind]
    rw [ih fun r' hr' => h r' (List.mem_cons_of_mem _ hr')]
    simp [cell, hx]

lemma isSome_of_isComponent {r : α} {index : Nat} (h : IsComponent (cell O r index)) :
    (O.getItem r index).isSome := by
  cases hx : O.getItem r index with
  | none => simp [cell, hx, IsComponent] at h
  | some x => rfl

lemma columnString_eq (index : Nat) {rows : List α}
    (h : ∀ r ∈ rows, IsComponent (cell O r index)) :
    columnString O rows index = .ok (sqlArray (rows.map fun r => cell O r index)) := by
  rw [columnString, foldlM_addIndexed O index fun r hr => isSome_of_isComponent O (h r hr)]
  simp only [List.nil_append, bind, Except.bind, pure, Except.pure, Except.ok.injEq]
  by_cases hne : rows = []
  · subst hne
    rfl
  · have hedge : ∀ c ∈ rows.map fun r => cell O r index, EdgesNot ',' c := by
      simp only [List.mem_map]
      rintro _ ⟨r, hr, rfl⟩
      exact edgesNot_of_not_mem (h r hr).1 (h r hr).2.1
    rw [flatMap_append_sep _ hne, pyStripChar_append_self
      (edgesNot_intercalate _ (by simpa using hne) hedge)]
    rfl

lemma foldlM_columns {param : IterParam α} {rows : List α} (hrows : param.iteritems = some rows)
    (col : Nat → List (List Char)) {indices : List Nat}
    (h : ∀ j ∈ indices, columnString O rows j = .ok (sqlArray (col j))) (acc : List Char) :
    indices.foldlM (fun finalString index => do
        let rows ← iteritems param
        let arrayString ← columnString O rows index
        pure (finalString ++ arrayString ++ [','])) acc =
      .ok (acc ++ indices.flatMap fun j => sqlArray (col j) ++ [',']) := by
  induction indices generalizing acc with
  | nil => simp [pure, Except.pure]
  | cons j indices ih =>
    have hstep : (do
        let rows ← iteritems param
        let arrayString ← columnString O rows j
        pure (acc ++ arrayString ++ [','])) =
          (Except.ok (acc ++ sqlArray (col j) ++ [',']) : Except IterableError _) := by
      simp [iteritems, hrows, h j (List.mem_cons_self _ _), bind, Except.bind, pure, Except.pure]
    simp only [List.foldlM_cons, hstep]
    exact (ih (fun j' hj' => h j' (List.mem_cons_of_mem _ hj')) _).trans (by simp)

lemma columnArray_of_two_le {cols : List (List (List Char))} (h : 2 ≤ cols.length) :
    columnArray cols = sqlArray (cols.map sqlArray) := by
  match cols, h with
  | _ :: _ :: _, _ => rfl

/-- With more than one column, on a true argument whose `iteritems` yields rows with an item at
every column index, each written by `str` as a non-empty text without commas and braces, the
iterable adapter writes the array of the columns, the `j`-th listing the rows' `j`-th items:
the master array `adapt_ListOfX` writes for encodings of those components. -/
theorem adaptIterable_columns (arrayColumns : Nat) (harray : 1 < arrayColumns)
    (explicitIterate : Bool) (param : IterParam α) (htruthy : param.truthy = true)
    {rows : List α} (hrows : param.iteritems = some rows)
    (hcells : ∀ r ∈ rows, ∀ j < arrayColumns, IsComponent (cell O r j)) :
    adaptIterable O arrayColumns explicitIterate param =
      .ok ⟨"'" ++ String.mk (columnArray ((List.range arrayColumns).map fun j =>
        rows.map fun r => cell O r j)) ++ "'"⟩ := by
  have hcols := foldlM_columns O hrows (fun j => rows.map fun r => cell O r j)
    (fun j (hj : j ∈ List.range arrayColumns) =>
      columnString_eq O j fun r hr => hcells r hr j (List.mem_range.mp hj)) []
  have hne : List.range arrayColumns ≠ [] := by simp; omega
  have hjoin : EdgesNot ',' ([','].intercalate ((List.range arrayColumns).map fun j =>
      sqlArray (rows.map fun r => cell O r j))) :=
    edgesNot_intercalate _ (by simpa using hne) (by simp [edgesNot_sqlArray])
  simp only [adaptIterable, htruthy, harray, ↓reduceIte]
  rw [hcols]
  simp only [List.nil_append, bind, Except.bind, pure, Except.pure]
  rw [flatMap_append_sep _ hne, pyStripChar_append_self hjoin,
    columnArray_of_two_le (by simpa using harray)]
  exact congrArg (fun s => (Except.ok ⟨s⟩ : Except IterableError AsIs))
    (String.ext (by simp [sqlArray, List.map_map, Function.comp_def]))

theorem adaptIterable_columns_pairs :
    adaptIterable fieldObj 2 true ⟨true, [], some ["a,1", "b,2"]⟩ =
      .ok ⟨"'" ++ String.mk (columnArray ((List.range 2).map fun j =>
        ["a,1", "b,2"].map fun r => cell fieldObj r j)) ++ "'"⟩ :=
  adaptIterable_columns fieldObj 2 (by decide) true _ rfl rfl (by decide)

def sqlLiteral (s : List Char) : List Char :=
  '\'' :: s.flatMap (fun c => if c = '\'' then ['\'', '\''] else [c]) ++ ['\'']

lemma flatMap_doubleQuote_eq_self_iff (s : List Char) :
    s.flatMap (fun c => if c = '\'' then ['\'', '\''] else [c]) = s ↔ '\'' ∉ s := by
  have hlen : ∀ t : List Char, (t.flatMap fun c => if c = '\'' then ['\'', '\''] else [c]).length =
      t.length + t.count '\'' := fun t => by
    induction t with
    | nil => rfl
    | cons c t ih =>
      by_cases hc : c = '\'' <;> simp [hc, List.count_cons, ih] <;> omega
  refine ⟨fun h hq => ?_, fun h => ?_⟩
  · have := congrArg List.length h
    rw [hlen] at this
    have := List.count_pos_iff.mpr hq
    omega
  · induction s with
    | nil => rfl
    | cons c s ih =>
      simp only [List.mem_cons, not_or] at h
      simp [Ne.symm h.1, ih h.2]

/-- `adapt_vanilla` writes the SQL literal of its value's text exactly when the text holds no
quote; a quote inside ends the literal early. -/
theorem adaptVanilla_literal_iff (param : α) :
    adaptVanilla O true param = .ok ⟨String.mk (sqlLiteral (O.str param).toList)⟩ ↔
      '\'' ∉ (O.str param).toList := by
  rw [← flatMap_doubleQuote_eq_self_iff]
  simp only [adaptVanilla, if_true, Except.ok.injEq, AsIs.mk.injEq, String.ext_iff, sqlLiteral]
  simp [eq_comm]

end Adapters

end WorkloadAutomation
