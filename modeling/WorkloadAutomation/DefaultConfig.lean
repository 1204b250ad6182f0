import WorkloadAutomation.SchemaHeader

/-!
# The default configuration file

`generate_default_config` of `wa/framework/configuration/default.py` writes the file WA's
configuration starts from: for every configuration point a comment made from its description
(`_format_yaml_comment`), the point as `yaml.dump` writes it and a blank line, then the
`augmentations` section (`_format_augmentations`), which lists `DEFAULT_AUGMENTATIONS`, each
under the first paragraph of its plugin's description.
-/

namespace WorkloadAutomation

def defaultAugmentations : List String :=
  ["execution_time", "interrupts", "cpufreq", "status", "csv"]

/-- A configuration point, through what `generate_default_config` reads of it. -/
structure ConfigurationPoint (V : Type) where
  name : String
  default : V
  description : Option String

section Lines

def isContentLine (l : List Char) : Bool :=
  match l.dropWhile (· == ' ') with
  | [] => false
  | c :: _ => c != '#'

/-- The lines of a text, `text.split('\n')`, that a YAML reader reads, in order. -/
def yamlContentLines (s : List Char) : List (List Char) :=
  (s.splitOn '\n').filter isContentLine

lemma splitOn_append_cons {α : Type} [DecidableEq α] (a b : List α) (x : α) :
    (a ++ x :: b).splitOn x = a.splitOn x ++ b.splitOn x := by
  induction a with
  | nil => simp [List.splitOn]
  | cons c a ih =>
    simp only [List.splitOn, List.cons_append, List.splitOnP_cons] at ih ⊢
    split
    · rw [ih]; rfl
    · obtain ⟨l, ls, hl⟩ := List.exists_cons_of_ne_nil (List.splitOnP_ne_nil (· == x) a)
      rw [ih, hl]; rfl

lemma yamlContentLines_append_newline (a b : List Char) :
    yamlContentLines (a ++ '\n' :: b) = yamlContentLines a ++ yamlContentLines b := by
  simp only [yamlContentLines, splitOn_append_cons, List.filter_append]

lemma yamlContentLines_eq_nil {s : List Char} (h : ∀ l ∈ s.splitOn '\n', l.head? = some '#') :
    yamlContentLines s = [] := by
  refine List.filter_eq_nil_iff.mpr fun l hl => ?_
  obtain ⟨t, rfl⟩ := List.head?_eq_some_iff.mp (h l hl)
  simp [isContentLine]

end Lines

section DefaultConfig

variable (stripInlinedText : String → String)

/-- `comment.split('\n\n')[0]`, the first paragraph; `split` returns at least one text. -/
def firstParagraph (comment : List Char) : List Char :=
  (pySplitOn ['\n', '\n'] (by decide) comment).head (pySplitOn_ne_nil _ _)

/-- The text `_format_yaml_comment` comments out: the description, `''` for none, through
`strip_inlined_text`, cut to its first paragraph for a short description. -/
def commentText (description : Option String) (shortDescription : Bool) : List Char :=
  let comment := (stripInlinedText (description.getD "")).toList
  if shortDescription then (if comment.isEmpty then [] else firstParagraph comment) else comment

/-- `comment.replace('\n', '\n# ')`. -/
def commentOutLines (comment : List Char) : List Char :=
  comment.flatMap fun c => if c = '\n' then "\n# ".toList else [c]

/-- `_format_yaml_comment(param, short_description)` for a parameter whose description is
`description`. -/
def formatYamlComment (description : Option String) (shortDescription : Bool) : String :=
  let comment := commentText stripInlinedText description shortDescription
  let comment := if comment.isEmpty then [] else commentOutLines comment
  String.mk ("# ".toList ++ comment ++ ['\n'])

variable {ε : Type} (pluginDescription : String → Except ε (Option String))

/-- What `_format_augmentations` writes for one plugin: the first paragraph of its
description as a comment, the list item and a blank line. -/
def augmentationEntry (plugin : String) (description : Option String) : String :=
  formatYamlComment stripInlinedText description true ++ " - " ++ plugin ++ "\n" ++ "\n"

/-- One plugin of `_format_augmentations`' loop, on the text written so far: the plugin
loader's `get_plugin_class` is given by the description of the class it returns. -/
def augmentationStep (out plugin : String) : Except (ε × String) String :=
  match pluginDescription plugin with
  | .ok description => .ok (out ++ augmentationEntry stripInlinedText plugin description)
  | .error e => .error (e, out)

/-- `_format_augmentations(output)` on a file holding `output`: the text of the file, or the
loader's error with the text written before it. -/
def formatAugmentations (output : String) : Except (ε × String) String :=
  defaultAugmentations.foldlM (augmentationStep stripInlinedText pluginDescription)
    (output ++ "augmentations:\n")

variable {V : Type} (dump : String × V → String)

/-- `write_param_yaml(entry, param, output)`: `yaml.dump` of the one-entry dictionary `entry`
is `dump entry`. -/
def writeParamYaml (entry : String × V) (param : ConfigurationPoint V) (output : String) :
    String :=
  output ++ formatYamlComment stripInlinedText param.description false ++ dump entry ++ "\n"

/-- `generate_default_config(path)` for the configuration points `configPoints`: the text of
the file, or the loader's error with the text written before it. -/
def generateDefaultConfig (configPoints : List (ConfigurationPoint V)) :
    Except (ε × String) String :=
  formatAugmentations stripInlinedText pluginDescription
    (configPoints.foldl (fun output param =>
      writeParamYaml stripInlinedText dump (param.name, param.default) param output) "")

end DefaultConfig

section Comments

variable (stripInlinedText : String → String)

lemma commentOutLines_cons_newline (c : List Char) :
    commentOutLines ('\n' :: c) = '\n' :: ("# ".toList ++ commentOutLines c) := rfl

lemma commentOutLines_cons {ch : Char} (h : ch ≠ '\n') (c : List Char) :
    commentOutLines (ch :: c) = ch :: commentOutLines c := by
  simp [commentOutLines, h]

lemma splitOn_commentOutLines (c q : List Char) (hq : '\n' ∉ q) :
    ("# ".toList ++ q ++ commentOutLines c).splitOn '\n' =
      ((q ++ c).splitOn '\n').map ("# ".toList ++ ·) := by
  have hpre : '\n' ∉ "# ".toList ++ q := by simpa using hq
  induction c generalizing q with
  | nil =>
    rw [show commentOutLines [] = [] from rfl, List.append_nil, List.append_nil,
      splitOn_of_not_mem hpre, splitOn_of_not_mem hq]
    rfl
  | cons ch c ih =>
    by_cases hch : ch = '\n'
    · subst hch
      have h := ih [] (List.not_mem_nil _) (by simp)
      rw [List.append_nil, List.nil_append] at h
      rw [commentOutLines_cons_newline, splitOn_append_cons, h, splitOn_append_cons,
        List.map_append, splitOn_of_not_mem hpre, splitOn_of_not_mem hq]
      rfl
    · have hq' : '\n' ∉ q ++ [ch] := by simp [hq, Ne.symm hch]
      have h := ih (q ++ [ch]) hq' (by simpa using hq')
      rw [commentOutLines_cons hch]
      simpa using h

lemma splitOn_commentOut (c : List Char) :
    ("# ".toList ++ commentOutLines c).splitOn '\n' = (c.splitOn '\n').map ("# ".toList ++ ·) := by
  have h := splitOn_commentOutLines c [] (List.not_mem_nil _)
  rwa [List.append_nil, List.nil_append] at h

lemma formatYamlComment_toList (description : Option String) (shortDescription : Bool) :
    (formatYamlComment stripInlinedText description shortDescription).toList =
      "# ".toList ++ commentOutLines (commentText stripInlinedText description shortDescription) ++
        ['\n'] := by
  show "# ".toList ++ (if _ then [] else _) ++ ['\n'] = _
  split
  · rename_i h
    rw [List.isEmpty_iff.mp h]
    rfl
  · rfl

/-- The lines `_format_yaml_comment` writes are the lines of its text, each after `# `, and a
newline ends the last; a short description's text holds no blank line. -/
theorem formatYamlComment_lines (description : Option String) (shortDescription : Bool) :
    (formatYamlComment stripInlinedText description shortDescription).toList.splitOn '\n' =
        ((commentText stripInlinedText description shortDescription).splitOn '\n').map
          ("# ".toList ++ ·) ++ [[]] ∧
      ¬ ['\n', '\n'] <:+: commentText stripInlinedText description true := by
  refine ⟨?_, ?_⟩
  · rw [formatYamlComment_toList, splitOn_append_cons _ [] '\n', List.splitOn_nil,
      splitOn_commentOut]
  · simp only [commentText, if_true]
    split
    · simp
    · exact (pySplitOn_eq_cons _ (List.head_cons_tail _ _).symm).1

example : formatYamlComment id (some "Run the\nworkload") false = "# Run the\n# workload\n" := rfl

lemma yamlContentLines_formatYamlComment_append (description : Option String)
    (shortDescription : Bool) (rest : List Char) :
    yamlContentLines ((formatYamlComment stripInlinedText description shortDescription).toList ++
      rest) = yamlContentLines rest := by
  rw [formatYamlComment_toList, List.append_assoc, List.singleton_append,
    yamlContentLines_append_newline, yamlContentLines_eq_nil, List.nil_append]
  intro l hl
  rw [splitOn_commentOut] at hl
  obtain ⟨x, -, rfl⟩ := List.mem_map.mp hl
  rfl

end Comments

section File

variable (stripInlinedText : String → String) {ε : Type}
  (pluginDescription : String → Except ε (Option String)) {V : Type} (dump : String × V → String)

lemma string_toList_append (s t : String) : (s ++ t).toList = s.toList ++ t.toList := rfl

def raised {α : Type} : Except ε α → Option ε
  | .ok _ => none
  | .error e => some e

lemma yamlContentLines_augmentationEntry_append (plugin : String) (hplugin : '\n' ∉ plugin.toList)
    (description : Option String) (rest : List Char) :
    yamlContentLines ((augmentationEntry stripInlinedText plugin description).toList ++ rest) =
      (" - ".toList ++ plugin.toList) :: yamlContentLines rest := by
  simp only [augmentationEntry, string_toList_append, List.append_assoc,
    yamlContentLines_formatYamlComment_append]
  rw [← List.append_assoc, show "\n".toList ++ ("\n".toList ++ rest) = '\n' :: '\n' :: rest from rfl,
    yamlContentLines_append_newline, show '\n' :: rest = [] ++ '\n' :: rest from rfl,
    yamlContentLines_append_newline, yamlContentLines,
    splitOn_of_not_mem (by simpa using hplugin)]
  rfl

lemma foldlM_augmentationStep (plugins : List String) (hplugins : ∀ p ∈ plugins, '\n' ∉ p.toList)
    (out : String) :
    ∃ written : String,
      plugins.foldlM (augmentationStep stripInlinedText pluginDescription) out =
        ((plugins.findSome? fun p => raised (pluginDescription p)).elim (.ok (out ++ written))
          fun e => .error (e, out ++ written)) ∧
      yamlContentLines written.toList =
        (plugins.takeWhile fun p => (pluginDescription p).toBool).map
          fun p => " - ".toList ++ p.toList := by
  induction plugins generalizing out with
  | nil => exact ⟨"", by simp [pure, Except.pure, String.append_empty], rfl⟩
  | cons p ps ih =>
    rw [List.foldlM_cons]
    cases hp : pluginDescription p with
    | error e =>
      refine ⟨"", ?_, ?_⟩
      · simp [augmentationStep, hp, raised, bind, Except.bind, String.append_empty]
      · simp [hp, Except.toBool]; rfl
    | ok description =>
      obtain ⟨written, hrun, hlines⟩ :=
        ih (fun q hq => hplugins q (List.mem_cons_of_mem p hq))
          (out ++ augmentationEntry stripInlinedText p description)
      refine ⟨augmentationEntry stripInlinedText p description ++ written, ?_, ?_⟩
      · simpa [augmentationStep, hp, raised, bind, Except.bind, String.append_assoc] using hrun
      · rw [string_toList_append, yamlContentLines_augmentationEntry_append _ p
          (hplugins p (List.mem_cons_self p ps)), hlines]
        simp [hp, Except.toBool]

lemma foldl_writeParamYaml_toList (configPoints : List (ConfigurationPoint V)) (out : String) :
    (configPoints.foldl (fun output param =>
      writeParamYaml stripInlinedText dump (param.name, param.default) param output) out).toList =
      out.toList ++ configPoints.flatMap fun p =>
        (formatYamlComment stripInlinedText p.description false).toList ++
          (dump (p.name, p.default)).toList ++ ['\n'] := by
  induction configPoints generalizing out with
  | nil => simp
  | cons p ps ih =>
    rw [List.foldl_cons, ih]
    simp only [writeParamYaml, string_toList_append, List.flatMap_cons, List.append_assoc]
    rfl

lemma yamlContentLines_points_append (configPoints : List (ConfigurationPoint V))
    (rest : List Char) :
    yamlContentLines ((configPoints.flatMap fun p =>
        (formatYamlComment stripInlinedText p.description false).toList ++
          (dump (p.name, p.default)).toList ++ ['\n']) ++ rest) =
      (configPoints.flatMap fun p => yamlContentLines (dump (p.name, p.default)).toList) ++
        yamlContentLines rest := by
  induction configPoints with
  | nil => rfl
  | cons p ps ih =>
    simp only [List.append_assoc, List.singleton_append, List.cons_append] at ih
    simp only [List.flatMap_cons, List.append_assoc, List.singleton_append, List.cons_append,
      yamlContentLines_formatYamlComment_append, yamlContentLines_append_newline, List.nil_append,
      ih]

example : generateDefaultConfig id
    (fun p => if p = "cpufreq" then .error "not found" else .ok none)
    (fun e : String × Nat => e.1 ++ ": " ++ toString e.2 ++ "\n")
    [⟨"verbosity", 0, some "Verbosity of the\noutput"⟩] =
      .error ("not found", "# Verbosity of the\n# output\nverbosity: 0\n\naugmentations:\n" ++
        "# \n - execution_time\n\n# \n - interrupts\n\n") := rfl

end File

end WorkloadAutomation
