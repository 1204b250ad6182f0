import WorkloadAutomation.TargetDescriptor

/-!
# Target parameters across the platform loop

`_override_params` keeps a list of parameters with distinct names in its order and puts in
each one's place the last override of its name (`overrideParams_of_nodup`). What
`get_descriptions` gives each target: one description per platform the target
supports, in the order of `PLATFORMS`, named `{platform}_{target}`. The target parameters
of a description are those of the target with the target overrides of every supported
platform up to and including its own applied in turn (`get_descriptions_target_params`),
so the overrides of one platform reach the descriptions of the platforms after it
(`platform_overrides_leak`).
-/

namespace WorkloadAutomation

def nameAndTargetParams (d : TargetDescription) : String × List Parameter :=
  (d.name, d.targetParams)

def platformRows (targetName : String) :
    List (String × PlatformTuple) → List Parameter → List (String × List Parameter)
  | [], _ => []
  | e :: es, tp =>
    (e.1 ++ "_" ++ targetName, overrideParams tp e.2.targetOverrides) ::
      platformRows targetName es (overrideParams tp e.2.targetOverrides)

lemma platformRows_eq_mapIdx (targetName : String) (es : List (String × PlatformTuple))
    (tp : List Parameter) :
    platformRows targetName es tp = es.mapIdx fun i e => (e.1 ++ "_" ++ targetName,
      ((es.take (i + 1)).map (·.2.targetOverrides)).foldl overrideParams tp) := by
  induction es generalizing tp with
  | nil => rfl
  | cons e es ih => simp [platformRows, ih]

def lastOverride (overrides : List Parameter) (p : Parameter) : Parameter :=
  overrides.foldl (fun q o => if o.name = p.name then o else q) p

lemma foldl_set_fresh {ps : List Parameter} (hnodup : (ps.map (·.name)).Nodup)
    (d : PyDict Parameter) (hfresh : ∀ p ∈ ps, p.name ∉ d.keys) :
    (ps.foldl (fun m p => m.set p.name p) d).items = d.items ++ ps.map fun p => (p.name, p) := by
  induction ps generalizing d with
  | nil => simp
  | cons p ps ih =>
    simp only [List.map_cons, List.nodup_cons, List.mem_map] at hnodup
    have hset := PyDict.set_items_of_not_contains p
      (Bool.eq_false_iff.mpr fun h => hfresh p (List.mem_cons_self _ _) (PyDict.contains_iff.mp h))
    rw [List.foldl_cons, ih hnodup.2 _ fun q hq => ?_, hset]
    · simp
    · simp only [PyDict.keys, hset, List.map_append, List.map_cons, List.map_nil,
        List.mem_append, List.mem_singleton, not_or]
      exact ⟨hfresh q (List.mem_cons_of_mem _ hq), fun h => hnodup.1 ⟨q, hq, h⟩⟩

lemma foldl_override {params : List Parameter} (os : List Parameter) (g : Parameter → Parameter)
    (d : PyDict Parameter) (hd : d.items = params.map fun p => (p.name, g p))
    (hg : ∀ p, (g p).name = p.name) :
    (os.foldl (fun m o => if m.contains o.name then m.set o.name o else m) d).items =
      params.map fun p => (p.name, os.foldl (fun q o => if o.name = p.name then o else q) (g p)) := by
  induction os generalizing d g with
  | nil => simpa using hd
  | cons o os ih =>
    have hstep : (if d.contains o.name then d.set o.name o else d).items =
        params.map fun p => (p.name, if o.name = p.name then o else g p) := by
      split
      · rename_i h
        rw [PyDict.set_items_of_contains o h, hd, List.map_map]
        refine List.map_congr_left fun p _ => ?_
        by_cases hp : o.name = p.name <;> simp [hp, Ne.symm]
      · rename_i h
        rw [hd]
        refine List.map_congr_left fun p hp => ?_
        have : o.name ≠ p.name := fun he => h (PyDict.contains_iff.mpr
          (by rw [PyDict.keys, hd, List.map_map]; exact List.mem_map.mpr ⟨p, hp, he.symm⟩))
        simp [this]
    rw [List.foldl_cons, ih _ _ hstep fun p => by split <;> simp_all]
    rfl

/-- With distinct names, `_override_params` keeps the parameters in their order and puts in
each one's place the last override of its name: it never adds or drops a parameter. -/
theorem overrideParams_of_nodup {params : List Parameter} (hnodup : (params.map (·.name)).Nodup)
    (overrides : Option (List Parameter)) :
    overrideParams params overrides = params.map (lastOverride (overrides.getD [])) := by
  match overrides with
  | none => simp [overrideParams, show lastOverride [] = id from rfl]
  | some [] => simp [overrideParams, show lastOverride [] = id from rfl]
  | some (o :: os) =>
    have hmap := foldl_set_fresh hnodup PyDict.empty (by simp [PyDict.keys])
    rw [PyDict.items_empty, List.nil_append] at hmap
    have hrun := foldl_override (o :: os) id _ hmap fun _ => rfl
    simp only [overrideParams, PyDict.values, hrun, List.map_map]
    rfl

theorem overrideParams_xy :
    overrideParams [⟨"x", []⟩, ⟨"y", []⟩] (some [⟨"z", []⟩, ⟨"x", [("default", "1")]⟩]) =
      [⟨"x", [("default", "1")]⟩, ⟨"y", []⟩] :=
  (overrideParams_of_nodup (by decide) _).trans (by decide)

section Steps

variable {cp : PyDict (List Parameter)} {ctx : TargetContext}

lemma descriptionConn_ok {platConn : Option String} (connDefaults : Option (List Parameter))
    (h : ∀ c, platConn = some c → c ∈ cp.keys) :
    ∃ conn, descriptionConn cp ctx platConn connDefaults = .ok conn := by
  cases platConn with
  | none => exact ⟨_, rfl⟩
  | some c =>
    obtain ⟨ps, hps⟩ := PyDict.getItem_of_mem_keys (h c rfl)
    exact ⟨(c, overrideParams ps connDefaults), by simp [descriptionConn, hps, Except.map]⟩

lemma platformStep_of_unsupported {acc : List TargetDescription × List Parameter}
    {e : String × PlatformTuple} (h : e.2.slice.clsTuple.1 ∈ ctx.unsupportedPlatforms) :
    platformStep cp ctx acc e = .ok acc := by
  obtain ⟨pn, ⟨⟨⟨p, pc, cd⟩, ps, dfl⟩, o⟩⟩ := e
  simp_all [platformStep, getItem, Except.map]

lemma platformStep_of_supported {ds : List TargetDescription} {tp : List Parameter}
    {e : String × PlatformTuple} {conn : String × List Parameter}
    (h : e.2.slice.clsTuple.1 ∉ ctx.unsupportedPlatforms)
    (hc : descriptionConn cp ctx e.2.slice.clsTuple.2.1 e.2.slice.clsTuple.2.2 = .ok conn) :
    platformStep cp ctx (ds, tp) e = .ok (ds ++ [platformDescription ctx e.1
      e.2.slice.clsTuple.1 (getItem e.2.slice).2 (overrideParams tp e.2.targetOverrides) conn],
      overrideParams tp e.2.targetOverrides) := by
  obtain ⟨pn, ⟨⟨⟨p, pc, cd⟩, ps, dfl⟩, o⟩⟩ := e
  simp_all [platformStep, getItem, Except.map]

end Steps

lemma foldlM_platformStep (cp : PyDict (List Parameter)) (ctx : TargetContext)
    {ps : List (String × PlatformTuple)}
    (hconn : ∀ e ∈ ps, ∀ c, e.2.slice.clsTuple.2.1 = some c → c ∈ cp.keys)
    (ds : List TargetDescription) (tp : List Parameter) :
    (ps.foldlM (platformStep cp ctx) (ds, tp)).map (fun acc => acc.1.map nameAndTargetParams) =
      .ok (ds.map nameAndTargetParams ++ platformRows ctx.targetName
        (ps.filter fun e => e.2.slice.clsTuple.1 ∉ ctx.unsupportedPlatforms) tp) := by
  induction ps generalizing ds tp with
  | nil => simp [Except.map, pure, Except.pure, platformRows]
  | cons e ps ih =>
    have ih := ih fun e' he' => hconn e' (List.mem_cons_of_mem _ he')
    by_cases h : e.2.slice.clsTuple.1 ∈ ctx.unsupportedPlatforms
    · rw [List.foldlM_cons, platformStep_of_unsupported h,
        List.filter_cons_of_neg (by simpa using h)]
      exact ih ds tp
    · obtain ⟨conn, hc⟩ := @descriptionConn_ok cp ctx _ e.2.slice.clsTuple.2.2
        (hconn e (List.mem_cons_self _ _))
      rw [List.foldlM_cons, platformStep_of_supported h hc,
        List.filter_cons_of_pos (by simpa using h)]
      refine (ih _ _).trans ?_
      simp [platformRows, nameAndTargetParams, platformDescription]

lemma targetStep_rows (tables : DescriptorTables) {e : String × TargetTuple}
    (ha : e.1 ∈ tables.assistants.keys) (hc : e.2.clsTuple.2.1 ∈ tables.connectionParams.keys)
    (hp : ∀ p ∈ tables.platforms.items, ∀ c, p.2.slice.clsTuple.2.1 = some c →
      c ∈ tables.connectionParams.keys)
    (ds : List TargetDescription) :
    (targetStep tables ds e).map (List.map nameAndTargetParams) =
      .ok (ds.map nameAndTargetParams ++ platformRows e.1
        (tables.platforms.items.filter fun p => p.2.slice.clsTuple.1 ∉ e.2.clsTuple.2.2)
        (overrideParams e.2.params e.2.defaults)) := by
  obtain ⟨a, ha⟩ := PyDict.getItem_of_mem_keys ha
  obtain ⟨cps, hc⟩ := PyDict.getItem_of_mem_keys hc
  obtain ⟨t, ⟨⟨target, conn, unsupported⟩, params, defaults⟩⟩ := e
  have hrun := foldlM_platformStep tables.connectionParams
    ⟨t, target, conn, unsupported, a, cps⟩ hp ds (overrideParams params defaults)
  simp only [targetStep, getItem, ha, hc, bind, Except.bind]
  split <;> simp_all [Except.map, pure, Except.pure]

lemma foldlM_targetStep (tables : DescriptorTables) {ts : List (String × TargetTuple)}
    (ha : ∀ e ∈ ts, e.1 ∈ tables.assistants.keys)
    (hc : ∀ e ∈ ts, e.2.clsTuple.2.1 ∈ tables.connectionParams.keys)
    (hp : ∀ p ∈ tables.platforms.items, ∀ c, p.2.slice.clsTuple.2.1 = some c →
      c ∈ tables.connectionParams.keys)
    (ds : List TargetDescription) :
    (ts.foldlM (targetStep tables) ds).map (List.map nameAndTargetParams) =
      .ok (ds.map nameAndTargetParams ++ ts.flatMap fun e => platformRows e.1
        (tables.platforms.items.filter fun p => p.2.slice.clsTuple.1 ∉ e.2.clsTuple.2.2)
        (overrideParams e.2.params e.2.defaults)) := by
  induction ts generalizing ds with
  | nil => simp [Except.map, pure, Except.pure]
  | cons e ts ih =>
    have hstep := targetStep_rows tables (ha e (List.mem_cons_self _ _))
      (hc e (List.mem_cons_self _ _)) hp ds
    cases hs : targetStep tables ds e with
    | error err => simp [hs, Except.map] at hstep
    | ok ds' =>
      simp only [hs, Except.map, Except.ok.injEq] at hstep
      simp only [List.foldlM_cons, hs, bind, Except.bind]
      rw [ih (fun e' he' => ha e' (List.mem_cons_of_mem _ he'))
        (fun e' he' => hc e' (List.mem_cons_of_mem _ he')) ds', hstep]
      simp

/-- `get_descriptions` gives, for each target in turn, one description per supported
platform, named `{platform}_{target}`; the `i`-th of them has the target's parameters with
the target overrides of the first `i + 1` supported platforms applied in turn. -/
theorem get_descriptions_target_params (tables : DescriptorTables)
    (hassist : ∀ t ∈ tables.targets.items, t.1 ∈ tables.assistants.keys)
    (hconn : ∀ t ∈ tables.targets.items, t.2.clsTuple.2.1 ∈ tables.connectionParams.keys)
    (hplat : ∀ p ∈ tables.platforms.items, ∀ c, p.2.slice.clsTuple.2.1 = some c →
      c ∈ tables.connectionParams.keys) :
    (getDescriptions tables).map (List.map nameAndTargetParams) =
      .ok (tables.targets.items.flatMap fun t =>
        let supported := tables.platforms.items.filter fun p =>
          p.2.slice.clsTuple.1 ∉ t.2.clsTuple.2.2
        supported.mapIdx fun i p => (p.1 ++ "_" ++ t.1,
          ((supported.take (i + 1)).map (·.2.targetOverrides)).foldl overrideParams
            (overrideParams t.2.params t.2.defaults))) := by
  rw [getDescriptions, foldlM_targetStep tables hassist hconn hplat]
  simp only [List.map_nil, List.nil_append, platformRows_eq_mapIdx]

def leakTables : DescriptorTables where
  targets := ⟨[("t", ⟨("T", "C", []), [⟨"x", [("default", "0")]⟩], none⟩)], by decide⟩
  assistants := ⟨[("t", ⟨"A", []⟩)], by decide⟩
  connectionParams := ⟨[("C", [])], by decide⟩
  platforms := ⟨[
    ("p1", ⟨⟨("P1", none, none), [], none⟩, some [⟨"x", [("default", "1")]⟩]⟩),
    ("p2", ⟨⟨("P2", none, none), [], none⟩, none⟩)], by decide⟩

theorem leak_tables_target_params :
    (getDescriptions leakTables).map (List.map nameAndTargetParams) =
      .ok [("p1_t", [⟨"x", [("default", "1")]⟩]), ("p2_t", [⟨"x", [("default", "1")]⟩])] :=
  (get_descriptions_target_params leakTables (by decide) (by decide) (by
    intro p hp c hc
    simp only [leakTables, List.mem_cons, List.mem_singleton, List.not_mem_nil, or_false] at hp
    rcases hp with rfl | rfl <;> cases hc)).trans rfl

/-- The description of the second platform carries the first platform's override, not the
target's own parameter: `target_params` of `p2_t` differ from
`_override_params(_override_params(params_t, defaults_t), target_overrides_p2)`. -/
theorem platform_overrides_leak :
    ∃ ds, getDescriptions leakTables = .ok ds ∧ ∃ d ∈ ds, d.name = "p2_t" ∧
      d.targetParams ≠
        overrideParams (overrideParams [⟨"x", [("default", "0")]⟩] none) none :=
  ⟨_, rfl, _, List.mem_cons_of_mem _ (List.mem_singleton_self _), rfl, by decide⟩

end WorkloadAutomation
