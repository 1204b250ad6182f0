import Mathlib.Data.List.Nodup

/-!
# Python dictionaries

A `dict` with string keys, kept as its items in insertion order: `d[k] = v` replaces the
value of a present key where it stands and appends a new key at the end, so `d.values()`
follows first insertion. The keys of a dictionary are distinct, and `PyDict` carries that
as a field, so that every lookup below reads the one item of its key.
-/

namespace WorkloadAutomation

/-- `KeyError(k)`: a read of a missing key. -/
structure KeyError where
  key : String
  deriving DecidableEq, Repr

structure PyDict (α : Type) where
  items : List (String × α)
  nodup : (items.map Prod.fst).Nodup

namespace PyDict

variable {α : Type}

def empty : PyDict α := ⟨[], List.nodup_nil⟩

/-- `d.get(k)`: the value at `k`, `None` when `k` is absent. -/
def get? (d : PyDict α) (k : String) : Option α := d.items.lookup k

def contains (d : PyDict α) (k : String) : Bool := (d.get? k).isSome

/-- `d[k]`, raising `KeyError` when `k` is absent. -/
def getItem (d : PyDict α) (k : String) : Except KeyError α :=
  match d.get? k with
  | some v => .ok v
  | none => .error ⟨k⟩

/-- `list(d.values())`. -/
def values (d : PyDict α) : List α := d.items.map Prod.snd

/-- `list(d.keys())`. -/
def keys (d : PyDict α) : List String := d.items.map Prod.fst

lemma contains_iff {d : PyDict α} {k : String} : d.contains k = true ↔ k ∈ d.keys := by
  simp only [contains, get?, keys, List.lookup_isSome_iff, beq_iff_eq, List.mem_map]
  exact ⟨fun ⟨p, hp, h⟩ => ⟨p, hp, h.symm⟩, fun ⟨p, hp, h⟩ => ⟨p, hp, h.symm⟩⟩

lemma map_fst_replace (l : List (String × α)) (k : String) (v : α) :
    (l.map fun e => if e.1 = k then (k, v) else e).map Prod.fst = l.map Prod.fst := by
  simp only [List.map_map]
  congr 1
  funext e
  by_cases h : e.1 = k <;> simp [h]

/-- `d[k] = v`. -/
def set (d : PyDict α) (k : String) (v : α) : PyDict α :=
  if h : d.contains k then
    ⟨d.items.map (fun e => if e.1 = k then (k, v) else e),
      by rw [map_fst_replace]; exact d.nodup⟩
  else
    ⟨d.items ++ [(k, v)], by
      rw [List.map_append, List.nodup_append]
      exact ⟨d.nodup, List.nodup_singleton k,
        List.disjoint_singleton.mpr fun hk => h (contains_iff.mpr hk)⟩⟩

@[simp] lemma items_empty : (empty : PyDict α).items = [] := rfl

lemma set_items_of_contains {d : PyDict α} {k : String} (v : α) (h : d.contains k = true) :
    (d.set k v).items = d.items.map fun e => if e.1 = k then (k, v) else e := by
  simp [set, h]

lemma set_items_of_not_contains {d : PyDict α} {k : String} (v : α) (h : d.contains k = false) :
    (d.set k v).items = d.items ++ [(k, v)] := by
  simp [set, h]

lemma get?_of_mem {d : PyDict α} {k : String} {v : α} (h : (k, v) ∈ d.items) :
    d.get? k = some v := by
  obtain ⟨items, nodup⟩ := d
  simp only [get?]
  induction items with
  | nil => cases h
  | cons e rest ih =>
    obtain ⟨k', v'⟩ := e
    simp only [List.map_cons, List.nodup_cons] at nodup
    rcases List.mem_cons.mp h with he | hr
    · obtain ⟨rfl, rfl⟩ := Prod.mk.inj_iff.mp he
      simp
    · have hk : k ≠ k' := fun hk => nodup.1 (hk ▸ List.mem_map_of_mem Prod.fst hr)
      rw [List.lookup_cons, beq_false_of_ne hk]
      exact ih nodup.2 hr

lemma get?_eq_none {d : PyDict α} {k : String} (h : k ∉ d.keys) : d.get? k = none := by
  simp only [get?, List.lookup_eq_none_iff, bne_iff_ne, ne_eq]
  exact fun p hp hk => h (List.mem_map.mpr ⟨p, hp, hk.symm⟩)

lemma getItem_of_mem_keys {d : PyDict α} {k : String} (h : k ∈ d.keys) :
    ∃ v, d.getItem k = .ok v := by
  obtain ⟨⟨k', v⟩, hm, rfl⟩ := List.mem_map.mp h
  exact ⟨v, by simp [getItem, get?_of_mem hm]⟩

lemma mem_of_get? {d : PyDict α} {k : String} {v : α} (h : d.get? k = some v) : (k, v) ∈ d.items := by
  obtain ⟨items, nodup⟩ := d
  simp only [get?] at h
  show (k, v) ∈ items
  clear nodup
  induction items with
  | nil => cases h
  | cons e rest ih =>
    by_cases he : k = e.1
    · rw [List.lookup_cons, he, beq_self_eq_true] at h
      cases h
      exact he ▸ List.mem_cons_self _ _
    · rw [List.lookup_cons, beq_false_of_ne he] at h
      exact List.mem_cons_of_mem _ (ih h)

lemma get?_eq_none_iff {d : PyDict α} {k : String} : d.get? k = none ↔ k ∉ d.keys := by
  refine ⟨fun h hk => ?_, get?_eq_none⟩
  obtain ⟨⟨k', v⟩, hm, rfl⟩ := List.mem_map.mp hk
  simp [get?_of_mem hm] at h

@[simp] lemma get?_empty (k : String) : (empty : PyDict α).get? k = none := rfl

@[simp] lemma keys_set (d : PyDict α) (k : String) (v : α) :
    (d.set k v).keys = if k ∈ d.keys then d.keys else d.keys ++ [k] := by
  by_cases h : d.contains k = true
  · rw [keys, set_items_of_contains v h, if_pos (contains_iff.mp h)]
    exact map_fst_replace d.items k v
  · rw [Bool.not_eq_true] at h
    rw [keys, set_items_of_not_contains v h, if_neg (mt contains_iff.mpr (by simp [h]))]
    simp [keys]

@[simp] lemma get?_set_self (d : PyDict α) (k : String) (v : α) : (d.set k v).get? k = some v := by
  apply get?_of_mem
  by_cases h : d.contains k = true
  · obtain ⟨e, he, hk⟩ := List.mem_map.mp (contains_iff.mp h)
    rw [set_items_of_contains v h]
    exact List.mem_map.mpr ⟨e, he, by simp [hk]⟩
  · rw [Bool.not_eq_true] at h
    simp [set_items_of_not_contains v h]

lemma get?_set_ne (d : PyDict α) {k k' : String} (v : α) (hk : k' ≠ k) :
    (d.set k v).get? k' = d.get? k' := by
  cases hg : d.get? k' with
  | none =>
    refine get?_eq_none ?_
    rw [keys_set]
    split_ifs <;> simp [get?_eq_none_iff.mp hg, hk]
  | some w =>
    apply get?_of_mem
    have hm := mem_of_get? hg
    by_cases h : d.contains k = true
    · rw [set_items_of_contains v h]
      exact List.mem_map.mpr ⟨(k', w), hm, by simp [hk]⟩
    · rw [Bool.not_eq_true] at h
      simp [set_items_of_not_contains v h, hm]

/-- `{k: f(v) for k, v in d.items()}`. -/
def map {β : Type} (f : α → β) (d : PyDict α) : PyDict β :=
  ⟨d.items.map fun e => (e.1, f e.2), by simpa [List.map_map] using d.nodup⟩

@[simp] lemma get?_map {β : Type} (f : α → β) (d : PyDict α) (k : String) :
    (d.map f).get? k = (d.get? k).map f := by
  cases hg : d.get? k with
  | some v => exact get?_of_mem (List.mem_map.mpr ⟨(k, v), mem_of_get? hg, rfl⟩)
  | none =>
    refine get?_eq_none fun hk => get?_eq_none_iff.mp hg ?_
    simpa [keys, map, List.map_map] using hk

lemma get?_foldl_set {β : Type} (l : List β) (key : β → String) (P : β → Bool) (f : β → α)
    (d : PyDict α) (n : String) :
    (l.foldl (fun d b => if P b then d.set (key b) (f b) else d) d).get? n =
      ((l.filter fun b => P b && key b == n).getLast?.map f).or (d.get? n) := by
  induction l generalizing d with
  | nil => simp
  | cons b l ih =>
    rw [List.foldl_cons, ih]
    by_cases hP : P b = true <;> by_cases hk : key b = n
    · subst hk
      cases hl : (l.filter fun b' => P b' && key b' == key b).getLast? <;>
        simp [hP, List.filter_cons, hl, List.getLast?_cons]
    · simp [hP, List.filter_cons, hk, get?_set_ne d (f b) (Ne.symm hk)]
    · simp [hP, List.filter_cons]
    · simp [hP, List.filter_cons]

lemma filter_key {d : PyDict α} (n : String) :
    d.items.filter (fun e => e.1 == n) = ((d.get? n).map fun v => (n, v)).toList := by
  cases hg : d.get? n with
  | none =>
    refine List.filter_eq_nil_iff.mpr fun e he hn => get?_eq_none_iff.mp hg ?_
    exact (beq_iff_eq.mp hn) ▸ List.mem_map_of_mem Prod.fst he
  | some v =>
    have hmem : (n, v) ∈ d.items.filter (fun e => e.1 == n) :=
      List.mem_filter.mpr ⟨mem_of_get? hg, by simp⟩
    have hnodup : ((d.items.filter (fun e => e.1 == n)).map Prod.fst).Nodup :=
      d.nodup.sublist ((List.filter_sublist _).map _)
    have hrep : (d.items.filter (fun e => e.1 == n)).map Prod.fst =
        List.replicate ((d.items.filter (fun e => e.1 == n)).length) n :=
      List.eq_replicate_iff.mpr ⟨by simp, fun k hk => by
        obtain ⟨e, he, rfl⟩ := List.mem_map.mp hk
        simpa using (List.mem_filter.mp he).2⟩
    have hlen : (d.items.filter (fun e => e.1 == n)).length ≤ 1 := by
      rw [hrep] at hnodup
      exact List.nodup_replicate.mp hnodup
    generalize d.items.filter (fun e => e.1 == n) = l at hmem hlen ⊢
    match l, hlen with
    | [], _ => cases hmem
    | [e], _ => rw [List.mem_singleton] at hmem; rw [← hmem]; rfl
    | _ :: _ :: _, h => simp at h

lemma get?_foldl_set_items {β : Type} (src : PyDict β) (P : String → Bool) (f : β → α)
    (d : PyDict α) (n : String) :
    (src.items.foldl (fun d e => if P e.1 then d.set e.1 (f e.2) else d) d).get? n =
      if P n then ((src.get? n).map f).or (d.get? n) else d.get? n := by
  rw [get?_foldl_set src.items Prod.fst (fun e => P e.1) (fun e => f e.2)]
  by_cases hP : P n = true
  · have hfilter : src.items.filter (fun e => P e.1 && e.1 == n) =
        src.items.filter (fun e => e.1 == n) :=
      List.filter_congr fun e _ => by by_cases he : e.1 = n <;> simp [he, hP]
    rw [hfilter, filter_key, if_pos hP]
    cases src.get? n <;> simp
  · have hfilter : src.items.filter (fun e => P e.1 && e.1 == n) = [] :=
      List.filter_eq_nil_iff.mpr fun e _ h => by
        obtain ⟨h1, h2⟩ := Bool.and_eq_true_iff.mp h
        exact hP ((beq_iff_eq.mp h2) ▸ h1)
    simp [hfilter, hP]

end PyDict

end WorkloadAutomation
