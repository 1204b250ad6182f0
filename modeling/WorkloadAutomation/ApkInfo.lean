import Mathlib.Logic.Function.Basic

/-!
# Apk metadata and its pods

`ApkInfo` of `wa/utils/android.py` is `devlib`'s `ApkInfo` made `Podable`. `devlib` and the
serializer are outside the repository, so the metadata is a record of the fields `to_pod`
writes, and extraction is a parameter of the models that use it. A pod is the dictionary
`to_pod` builds; `from_pod` reads every field back, so a stored record comes back whole.
-/

namespace WorkloadAutomation

/-- The fields of an `ApkInfo` that `to_pod` writes; `activities` and `methods` are the
lists `to_pod` forces out of the apk. -/
structure ApkInfo where
  path : Option String
  package : Option String
  activity : Option String
  label : Option String
  versionName : Option String
  versionCode : Option String
  nativeCode : Option (List String)
  permissions : List String
  apkPath : Option String
  activities : List String
  methods : List String
  deriving DecidableEq, Repr

/-- The dictionary `ApkInfo.to_pod` returns: `Podable`'s two version keys and every field. -/
structure ApkInfoPod where
  podVersion : Nat
  podSerializationVersion : Nat
  path : Option String
  package : Option String
  activity : Option String
  label : Option String
  versionName : Option String
  versionCode : Option String
  nativeCode : Option (List String)
  permissions : List String
  apkPath : Option String
  activities : List String
  methods : List String
  deriving DecidableEq, Repr

def ApkInfo.podSerializationVersion : Nat := 1

/-- `ApkInfo.to_pod()`. -/
def ApkInfo.toPod (info : ApkInfo) : ApkInfoPod :=
  { podVersion := ApkInfo.podSerializationVersion
    podSerializationVersion := ApkInfo.podSerializationVersion
    path := info.path, package := info.package, activity := info.activity, label := info.label
    versionName := info.versionName, versionCode := info.versionCode
    nativeCode := info.nativeCode, permissions := info.permissions, apkPath := info.apkPath
    activities := info.activities, methods := info.methods }

/-- `ApkInfo.from_pod(pod)`. -/
def ApkInfo.fromPod (pod : ApkInfoPod) : ApkInfo :=
  { path := pod.path, package := pod.package, activity := pod.activity, label := pod.label
    versionName := pod.versionName, versionCode := pod.versionCode
    nativeCode := pod.nativeCode, permissions := pod.permissions, apkPath := pod.apkPath
    activities := pod.activities, methods := pod.methods }

@[simp] theorem ApkInfo.fromPod_toPod (info : ApkInfo) : ApkInfo.fromPod info.toPod = info := rfl

abbrev Table := String → Option ApkInfoPod

def Table.set (t : Table) (key : String) (pod : ApkInfoPod) : Table :=
  Function.update t key (some pod)

def Table.empty : Table := fun _ => none

end WorkloadAutomation
