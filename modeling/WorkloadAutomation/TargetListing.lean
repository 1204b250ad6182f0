import WorkloadAutomation.TargetDescriptor

/-!
# Listing the target descriptions

`list_target_descriptions` keys the descriptions of every descriptor by name, in the
loader's order. With distinct names it returns them all, in that order; at the first name
that repeats it raises, and what it raises depends on the source of the earlier
description with that name (`list_target_descriptions_outcome`): `PluginLoaderError`
naming both descriptors when the source is a descriptor, and `AttributeError` when it is
the module path `create_target_description` records, which has no `name`
(`adhoc_duplicate_raises_attribute_error`). With distinct names, `get_target_description`
returns exactly the description of the name asked for. The lookup of the `show` command
(`wa/commands/show.py`) compares the name with `identifier` of each description's name and
returns `None` rather than raising.
-/

namespace WorkloadAutomation

def attributed (loader : List TargetDescriptor) : List (TargetDescriptor × TargetDescription) :=
  loader.flatMap fun d => d.descriptions.map (d, ·)

lemma attributed_map_snd (loader : List TargetDescriptor) :
    (attributed loader).map Prod.snd = loader.flatMap TargetDescriptor.descriptions := by
  induction loader with
  | nil => rfl
  | cons d loader ih => simpa [attributed] using ih

lemma foldlM_loader (loader : List TargetDescriptor) (targets : PyDict TargetDescription) :
    loader.foldlM (fun targets (descriptor : TargetDescriptor) =>
      descriptor.descriptions.foldlM (addDescription descriptor) targets) targets =
    (attributed loader).foldlM (fun t p => addDescription p.1 t p.2) targets := by
  induction loader generalizing targets with
  | nil => rfl
  | cons d loader ih =>
    simp only [List.foldlM_cons, attributed, List.flatMap_cons, List.foldlM_append,
      List.foldlM_map]
    exact congrArg _ (funext ih)

lemma addDescription_fresh {descriptor : TargetDescriptor} {targets : PyDict TargetDescription}
    {desc : TargetDescription} (h : desc.name ∉ targets.keys) :
    (addDescription descriptor targets desc).map PyDict.items =
      .ok (targets.items ++ [(desc.name, desc)]) := by
  have hc : targets.contains desc.name = false := by
    simpa using mt PyDict.contains_iff.mp h
  simp [addDescription, PyDict.get?_eq_none h, PyDict.set_items_of_not_contains _ hc,
    Except.map]

lemma foldlM_addDescription_fresh {ps : List (TargetDescriptor × TargetDescription)}
    (hnodup : (ps.map (·.2.name)).Nodup) (targets : PyDict TargetDescription)
    (hfresh : ∀ p ∈ ps, p.2.name ∉ targets.keys) :
    (ps.foldlM (fun t p => addDescription p.1 t p.2) targets).map PyDict.items =
      .ok (targets.items ++ ps.map fun p => (p.2.name, p.2)) := by
  induction ps generalizing targets with
  | nil => simp [Except.map, pure, Except.pure]
  | cons p ps ih =>
    simp only [List.map_cons, List.nodup_cons, List.mem_map] at hnodup
    have hstep := @addDescription_fresh p.1 targets p.2 (hfresh p (List.mem_cons_self _ _))
    cases hs : addDescription p.1 targets p.2 with
    | error e => simp [hs, Except.map] at hstep
    | ok targets' =>
      simp only [hs, Except.map, Except.ok.injEq] at hstep
      have hkeys : targets'.keys = targets.keys ++ [p.2.name] := by
        simp [PyDict.keys, hstep]
      simp only [List.foldlM_cons, hs, bind, Except.bind]
      rw [ih hnodup.2 targets' fun q hq => by
        rw [hkeys, List.mem_append, List.mem_singleton, not_or]
        exact ⟨hfresh q (List.mem_cons_of_mem _ hq), fun h => hnodup.1 ⟨q, hq, h⟩⟩, hstep]
      simp

lemma foldlM_addDescription_duplicate {pre post : List (TargetDescriptor × TargetDescription)}
    {dtor : TargetDescriptor} {desc prev : TargetDescription}
    (hnodup : (pre.map (·.2.name)).Nodup) (hprev : prev ∈ pre.map Prod.snd)
    (hname : prev.name = desc.name) :
    (pre ++ (dtor, desc) :: post).foldlM (fun t p => addDescription p.1 t p.2) PyDict.empty =
      .error (duplicateError dtor prev desc) := by
  have hpre := foldlM_addDescription_fresh hnodup PyDict.empty (by simp [PyDict.keys])
  rw [List.foldlM_append]
  cases hs : pre.foldlM (fun t p => addDescription p.1 t p.2) PyDict.empty with
  | error e => simp [hs, Except.map] at hpre
  | ok targets =>
    simp only [hs, Except.map, Except.ok.injEq, PyDict.items_empty, List.nil_append] at hpre
    obtain ⟨q, hq, rfl⟩ := List.mem_map.mp hprev
    have hget : targets.get? desc.name = some q.2 :=
      PyDict.get?_of_mem (hname ▸ hpre ▸ List.mem_map_of_mem _ hq)
    simp [bind, Except.bind, addDescription, hget]

lemma listTargetDescriptions_of_nodup {loader : List TargetDescriptor}
    (hnodup : ((loader.flatMap TargetDescriptor.descriptions).map TargetDescription.name).Nodup) :
    listTargetDescriptions loader = .ok (loader.flatMap TargetDescriptor.descriptions) := by
  have hrun := @foldlM_addDescription_fresh (attributed loader)
    (by rwa [show (attributed loader).map (·.2.name) =
      ((attributed loader).map Prod.snd).map TargetDescription.name from (List.map_map ..).symm,
      attributed_map_snd])
    PyDict.empty (by simp [PyDict.keys])
  rw [listTargetDescriptions, foldlM_loader]
  cases hs : (attributed loader).foldlM (fun t p => addDescription p.1 t p.2) PyDict.empty with
  | error e => simp [hs, Except.map] at hrun
  | ok targets =>
    simp only [hs, Except.map, Except.ok.injEq, PyDict.items_empty, List.nil_append] at hrun
    simp [Except.map, PyDict.values, hrun, ← attributed_map_snd]

lemma listTargetDescriptions_of_duplicate {loader : List TargetDescriptor}
    {pre post : List (TargetDescriptor × TargetDescription)} {dtor : TargetDescriptor}
    {desc prev : TargetDescription} (hsplit : attributed loader = pre ++ (dtor, desc) :: post)
    (hnodup : (pre.map (·.2.name)).Nodup) (hprev : prev ∈ pre.map Prod.snd)
    (hname : prev.name = desc.name) :
    listTargetDescriptions loader = .error (duplicateError dtor prev desc) := by
  rw [listTargetDescriptions, foldlM_loader, hsplit,
    foldlM_addDescription_duplicate hnodup hprev hname]
  rfl

/-- `list_target_descriptions` returns every description, in the loader's order, when the
names are distinct; at the first repeated name it raises what `duplicateError` gives for
the earlier description of that name. -/
theorem list_target_descriptions_outcome (loader : List TargetDescriptor) :
    (((loader.flatMap TargetDescriptor.descriptions).map TargetDescription.name).Nodup →
      listTargetDescriptions loader = .ok (loader.flatMap TargetDescriptor.descriptions)) ∧
    (∀ pre post dtor desc prev, attributed loader = pre ++ (dtor, desc) :: post →
      (pre.map (·.2.name)).Nodup → prev ∈ pre.map Prod.snd → prev.name = desc.name →
      listTargetDescriptions loader = .error (duplicateError dtor prev desc)) :=
  ⟨listTargetDescriptions_of_nodup, fun _ _ _ _ _ => listTargetDescriptions_of_duplicate⟩

section Lookup

variable {loader : List TargetDescriptor}
  (hnodup : ((loader.flatMap TargetDescriptor.descriptions).map TargetDescription.name).Nodup)
include hnodup

lemma getTargetDescription_eq_ok_iff (name : String) (d : TargetDescription) :
    getTargetDescription name loader = .ok d ↔
      d ∈ loader.flatMap TargetDescriptor.descriptions ∧ d.name = name := by
  simp only [getTargetDescription, listTargetDescriptions_of_nodup hnodup, Except.mapError,
    bind, Except.bind]
  constructor
  · intro h
    split at h
    · rename_i d' hfind
      cases h
      exact ⟨List.mem_of_find?_eq_some hfind, by simpa using List.find?_some hfind⟩
    · cases h
  · rintro ⟨hd, rfl⟩
    cases hfind : (loader.flatMap TargetDescriptor.descriptions).find? (·.name == d.name) with
    | none => exact absurd hd (by simpa using List.find?_eq_none.mp hfind d)
    | some d' =>
      have hd' : d' = d := List.inj_on_of_nodup_map hnodup (List.mem_of_find?_eq_some hfind) hd
        (by simpa using List.find?_some hfind)
      simp [hd']
      rfl

end Lookup

/-- `get_target_description(name)` of `wa/commands/show.py`: the first listed description whose
name `identifier` turns into `name`, or `None`. -/
def showTargetDescription (identifier : String → String) (name : String)
    (loader : List TargetDescriptor) : Except LoaderError (Option TargetDescription) :=
  (listTargetDescriptions loader).map fun targets =>
    targets.find? fun target => name == identifier target.name

/-- `SimpleTargetDescriptor` holding a description made by `create_target_description`
with a name `DefaultTargetDescriptor` also gives. -/
def adhocJuno : TargetDescriptor :=
  ⟨"adhoc_targets", [{ name := "juno_linux", source := .modulePath "config/targets.py" }]⟩

def adhocBoard : TargetDescriptor :=
  ⟨"adhoc_targets", [{ name := "board_linux", source := .modulePath "config/targets.py" }]⟩

/-- `DefaultTargetDescriptor`, seen through its description `juno_linux`. -/
def devlibJuno : TargetDescriptor :=
  ⟨devlibTargets, [{ name := "juno_linux", source := .descriptor devlibTargets }]⟩

theorem list_target_descriptions_samples :
    listTargetDescriptions [devlibJuno, adhocBoard] =
        .ok (devlibJuno.descriptions ++ adhocBoard.descriptions) ∧
      listTargetDescriptions [devlibJuno, adhocJuno] = .error (.pluginLoaderError
        "Duplicate target \"juno_linux\" returned by devlib_targets and adhoc_targets") :=
  ⟨(list_target_descriptions_outcome _).1 (by decide),
    (list_target_descriptions_outcome _).2
      [(devlibJuno, { name := "juno_linux", source := .descriptor devlibTargets })] [] adhocJuno
      { name := "juno_linux", source := .modulePath "config/targets.py" }
      { name := "juno_linux", source := .descriptor devlibTargets } rfl (by decide) (by decide)
      rfl⟩

/-- Listed before the default descriptor, the ad hoc description is the earlier one of the
shared name, and the repeat raises `AttributeError` rather than `PluginLoaderError`. -/
theorem adhoc_duplicate_raises_attribute_error :
    listTargetDescriptions [adhocJuno, devlibJuno] =
      .error (.attributeError "'str' object has no attribute 'name'") := rfl

end WorkloadAutomation
