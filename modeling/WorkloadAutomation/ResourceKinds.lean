import WorkloadAutomation.Text

/-!
# Resource kinds

The resources of `wa/framework/resource.py` as one closed type, each with the
`match_path` predicate its class defines. `ApkFile` keeps its constructor's request; its
`match`, which reads package metadata through the apk info cache, is in `ApkMatch`.
The revent predicate never selects the recording of another stage or another target.
-/

namespace WorkloadAutomation

inductive VersionRequest where
  | one (v : String)
  | many (vs : List String)
  deriving DecidableEq, Repr

structure ApkFile where
  variant : Option String := none
  version : Option VersionRequest := none
  package : Option String := none
  uiauto : Bool := false
  exactAbi : Bool := false
  supportedAbi : Option (List (Option String)) := none
  minVersion : Option String := none
  maxVersion : Option String := none
  deriving DecidableEq, Repr

inductive Resource where
  | file (path : String)
  | executable (abi : String) (filename : String)
  | revent (stage : String) (target : Option String)
  | jar
  | apk (request : ApkFile)
  deriving DecidableEq, Repr

/-- The extension `posixpath.splitext` splits off: from the last dot of the base name,
unless only dots precede it. -/
def splitextExt (p : List Char) : List Char :=
  let f := basename p
  let ext := (f.reverse.takeWhile (· != '.')).reverse
  let stemDot := (f.reverse.dropWhile (· != '.')).reverse
  if stemDot.dropLast.any (· != '.') then '.' :: ext else []

/-- `ReventFile.match_path`. -/
def reventMatchPath (stage : String) (target : Option String) (path : String) : Bool :=
  let parts := (basename path.toList).splitOn '.'
  if parts.length > 2 then
    some (String.mk (parts.getD 0 [])) == target && String.mk (parts.getD 1 []) == stage
  else
    String.mk (parts.getD 0 []) == stage

/-- `match_path` of each resource class; `ApkFile` lower-cases with `Char.toLower`. -/
def Resource.matchPath : Resource → String → Bool
  | .file p, path => p == path
  | .executable _ filename, path => filename == String.mk (basename path.toList)
  | .revent stage target, path => reventMatchPath stage target path
  | .jar, _ => true
  | .apk _, path => (splitextExt path.toList).map Char.toLower == ".apk".toList

/-- A revent request matches `d/t.s.e` exactly when it names target `t` and stage `s`,
and `d/s.e` exactly when it names stage `s`. -/
theorem revent_match_path_selects_own (d t s e s2 : String) (t2 : Option String)
    (ht : '.' ∉ t.toList ∧ '/' ∉ t.toList) (hs : '.' ∉ s.toList ∧ '/' ∉ s.toList)
    (he : '.' ∉ e.toList ∧ '/' ∉ e.toList) :
    ((Resource.revent s2 t2).matchPath (d ++ "/" ++ t ++ "." ++ s ++ "." ++ e) = true ↔
      t2 = some t ∧ s2 = s) ∧
    ((Resource.revent s2 t2).matchPath (d ++ "/" ++ s ++ "." ++ e) = true ↔ s2 = s) := by
  have h3 : basename (d ++ "/" ++ t ++ "." ++ s ++ "." ++ e).toList =
      t.toList ++ '.' :: (s.toList ++ '.' :: e.toList) := by
    simpa using basename_append_slash d.toList (f := t.toList ++ '.' :: (s.toList ++ '.' :: e.toList))
      (by simpa using ⟨ht.2, hs.2, he.2⟩)
  have h2 : basename (d ++ "/" ++ s ++ "." ++ e).toList = s.toList ++ '.' :: e.toList := by
    simpa using basename_append_slash d.toList (f := s.toList ++ '.' :: e.toList)
      (by simpa using ⟨hs.2, he.2⟩)
  simp only [Resource.matchPath, reventMatchPath, h3, h2, splitOn_append_sep ht.1,
    splitOn_append_sep hs.1, splitOn_of_not_mem he.1]
  have ht' : String.mk t.toList = t := rfl
  have hs' : String.mk s.toList = s := rfl
  simp only [List.length_cons, List.length_nil, List.getD_cons_zero, List.getD_cons_succ, ht', hs']
  constructor
  · simp only [show 0 + 1 + 1 + 1 > 2 from by decide, if_true, Bool.and_eq_true, beq_iff_eq]
    exact ⟨fun h => ⟨h.1.symm, h.2.symm⟩, fun h => ⟨h.1.symm, h.2.symm⟩⟩
  · simp only [show ¬ 0 + 1 + 1 > 2 from by decide, if_false, beq_iff_eq]
    exact eq_comm

theorem revent_match_path_setup_pixel :
    ('.' ∉ "pixel".toList ∧ '/' ∉ "pixel".toList) ∧ ('.' ∉ "setup".toList ∧ '/' ∉ "setup".toList) ∧
    ('.' ∉ "revent".toList ∧ '/' ∉ "revent".toList) ∧
    (((Resource.revent "setup" (some "pixel")).matchPath
        ("wa/dependencies" ++ "/" ++ "pixel" ++ "." ++ "setup" ++ "." ++ "revent") = true ↔
      some "pixel" = some "pixel" ∧ "setup" = "setup") ∧
    ((Resource.revent "setup" (some "pixel")).matchPath
        ("wa/dependencies" ++ "/" ++ "setup" ++ "." ++ "revent") = true ↔ "setup" = "setup")) :=
  ⟨by decide, by decide, by decide, revent_match_path_selects_own "wa/dependencies" "pixel" "setup"
    "revent" "setup" (some "pixel") (by decide) (by decide) (by decide)⟩

end WorkloadAutomation
