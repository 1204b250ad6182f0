import Mathlib.Data.List.Basic

/-!
# The priority list

The resolver keeps its sources in a `prioritylist` of `wa.utils.types`, a module that is
not among the repository's files, so the container is modelled from the spec (section
4.5): elements are added with a numeric priority, iteration yields them from the highest
priority to the lowest, and elements of one priority in the order they were added.
-/

namespace WorkloadAutomation

/-- Modelled from the spec: `prioritylist` of `wa.utils.types`, which is missing from the
repository's files. One bucket per priority, from the highest priority to the lowest, each
bucket in the order its elements were added. -/
structure PriorityList (α : Type) where
  buckets : List (Int × List α)
  decreasing : buckets.Pairwise (fun a b => b.1 < a.1)

namespace PriorityList

variable {α : Type}

/-- A new, empty `prioritylist()`. -/
def empty : PriorityList α := ⟨[], .nil⟩

/-- Modelled from the spec: where `prioritylist.add(element, priority)` puts the element. -/
def insertBucket (x : α) (p : Int) : List (Int × List α) → List (Int × List α)
  | [] => [(p, [x])]
  | (q, xs) :: rest =>
    if p = q then (q, xs ++ [x]) :: rest
    else if q < p then (p, [x]) :: (q, xs) :: rest
    else (q, xs) :: insertBucket x p rest

lemma key_of_mem_insertBucket {x : α} {p : Int} :
    ∀ {bs : List (Int × List α)} {b}, b ∈ insertBucket x p bs → b.1 = p ∨ ∃ c ∈ bs, c.1 = b.1
  | [], b, h => by simp_all [insertBucket]
  | (q, xs) :: rest, b, h => by
    unfold insertBucket at h
    split_ifs at h with hpq hqp
    · rcases List.mem_cons.mp h with rfl | h
      · exact .inr ⟨(q, xs), by simp⟩
      · exact .inr ⟨b, by simp [h]⟩
    · rcases List.mem_cons.mp h with rfl | h
      · exact .inl rfl
      · exact .inr ⟨b, h, rfl⟩
    · rcases List.mem_cons.mp h with rfl | h
      · exact .inr ⟨(q, xs), by simp⟩
      · rcases key_of_mem_insertBucket h with h | ⟨c, hc, e⟩
        · exact .inl h
        · exact .inr ⟨c, by simp [hc], e⟩

lemma insertBucket_decreasing (x : α) (p : Int) :
    ∀ {bs : List (Int × List α)}, bs.Pairwise (fun a b => b.1 < a.1) →
      (insertBucket x p bs).Pairwise (fun a b => b.1 < a.1)
  | [], _ => by simp [insertBucket]
  | (q, xs) :: rest, h => by
    rw [List.pairwise_cons] at h
    unfold insertBucket
    split_ifs with hpq hqp
    · exact List.pairwise_cons.mpr ⟨fun b hb => h.1 b hb, h.2⟩
    · refine List.pairwise_cons.mpr ⟨fun b hb => ?_, List.pairwise_cons.mpr h⟩
      rcases List.mem_cons.mp hb with rfl | hb
      · exact hqp
      · exact Int.lt_trans (h.1 b hb) hqp
    · refine List.pairwise_cons.mpr ⟨fun b hb => ?_, insertBucket_decreasing x p h.2⟩
      rcases key_of_mem_insertBucket hb with e | ⟨c, hc, e⟩
      · rw [e]; omega
      · exact e ▸ h.1 c hc

/-- Modelled from the spec: `prioritylist.add(element, priority)`. -/
def add (pl : PriorityList α) (x : α) (p : Int) : PriorityList α :=
  ⟨insertBucket x p pl.buckets, insertBucket_decreasing x p pl.decreasing⟩

def entries (pl : PriorityList α) : List (α × Int) :=
  pl.buckets.flatMap fun b => b.2.map (·, b.1)

def toList (pl : PriorityList α) : List α :=
  pl.buckets.flatMap Prod.snd

def addAll (pl : PriorityList α) (regs : List (α × Int)) : PriorityList α :=
  regs.foldl (fun pl e => pl.add e.1 e.2) pl

theorem toList_eq_map_entries (pl : PriorityList α) : pl.toList = pl.entries.map Prod.fst := by
  simp [toList, entries, List.map_flatMap, Function.comp_def]

lemma filter_bucket (q r : Int) (xs : List α) :
    (xs.map (·, q)).filter (fun e => e.2 = r) = if q = r then xs.map (·, q) else [] := by
  split_ifs with h
  · exact List.filter_eq_self.mpr (by simp [h])
  · exact List.filter_eq_nil_iff.mpr (by simp [h])

lemma filter_flatMap_of_ne {r : Int} {bs : List (Int × List α)} (h : ∀ b ∈ bs, b.1 < r) :
    (bs.flatMap fun b => b.2.map (·, b.1)).filter (fun e => e.2 = r) = [] := by
  simp only [List.filter_flatMap, filter_bucket, List.flatMap_eq_nil_iff]
  intro b hb
  simp [Int.ne_of_lt (h b hb)]

lemma filter_insertBucket (x : α) (p r : Int) :
    ∀ {bs : List (Int × List α)}, bs.Pairwise (fun a b => b.1 < a.1) →
      ((insertBucket x p bs).flatMap fun b => b.2.map (·, b.1)).filter (fun e => e.2 = r) =
        (bs.flatMap fun b => b.2.map (·, b.1)).filter (fun e => e.2 = r) ++
          if p = r then [(x, p)] else []
  | [], _ => by by_cases hr : p = r <;> simp [insertBucket, hr]
  | (q, xs) :: rest, h => by
    rw [List.pairwise_cons] at h
    have hrest : ∀ b ∈ rest, b.1 < q := fun b hb => h.1 b hb
    unfold insertBucket
    by_cases hpq : p = q
    · rw [if_pos hpq]
      by_cases hr : q = r
      · simp [filter_bucket, hpq, hr, filter_flatMap_of_ne (hr ▸ hrest)]
      · simp [filter_bucket, hpq, hr]
    rw [if_neg hpq]
    by_cases hqp : q < p
    · rw [if_pos hqp]
      by_cases hr : p = r
      · subst hr
        have hle : ∀ b ∈ (q, xs) :: rest, b.1 < p := by
          intro b hb
          rcases List.mem_cons.mp hb with rfl | hb
          · exact hqp
          · exact Int.lt_trans (hrest b hb) hqp
        rw [List.flatMap_cons, List.filter_append, filter_flatMap_of_ne hle]
        simp [filter_bucket]
      · simp [filter_bucket, hr]
    · rw [if_neg hqp]
      simp only [List.flatMap_cons, List.filter_append, filter_insertBucket x p r h.2,
        List.append_assoc]

theorem filter_entries_add (pl : PriorityList α) (x : α) (p r : Int) :
    (pl.add x p).entries.filter (fun e => e.2 = r) =
      pl.entries.filter (fun e => e.2 = r) ++ if p = r then [(x, p)] else [] :=
  filter_insertBucket x p r pl.decreasing

theorem filter_entries_addAll (pl : PriorityList α) (regs : List (α × Int)) (r : Int) :
    (pl.addAll regs).entries.filter (fun e => e.2 = r) =
      pl.entries.filter (fun e => e.2 = r) ++ regs.filter (fun e => e.2 = r) := by
  induction regs generalizing pl with
  | nil => simp [addAll]
  | cons e regs ih =>
    obtain ⟨x, q⟩ := e
    have h := ih (pl.add x q)
    simp only [addAll, List.foldl_cons] at h ⊢
    rw [h, filter_entries_add]
    by_cases hq : q = r <;> simp [List.filter_cons, hq]

theorem entries_pairwise (pl : PriorityList α) : pl.entries.Pairwise (fun a b => b.2 ≤ a.2) := by
  refine List.pairwise_flatMap.mpr ⟨fun b _ => ?_, ?_⟩
  · exact List.pairwise_map.mpr (List.pairwise_of_forall fun _ _ => Int.le_refl _)
  · refine pl.decreasing.imp fun {a b} hab => ?_
    intro x hx y hy
    simp only [List.mem_map] at hx hy
    obtain ⟨_, _, rfl⟩ := hx
    obtain ⟨_, _, rfl⟩ := hy
    exact Int.le_of_lt hab

end PriorityList

end WorkloadAutomation
