import WorkloadAutomation.LogcatGrammar

/-!
# Logcat files

`LogcatParser.parse` of `wa/utils/android.py` opens a file in text mode and yields the event
`parse_line` gives each of its lines. Text mode reads `\r\n` and a lone `\r` as `\n`
(universal newlines), and every line but the last keeps its `\n`, which `parse_line` strips.
So the events of a file are those of the texts between its line ends, in order, whichever of
the three ends the file uses, and each is the event of a line of the grammar of
`LogcatGrammar` (`parse_lines`).
-/

namespace WorkloadAutomation

def translateNewlines : List Char → List Char
  | '\r' :: '\n' :: rest => '\n' :: translateNewlines rest
  | '\r' :: rest => '\n' :: translateNewlines rest
  | c :: rest => c :: translateNewlines rest
  | [] => []

def fileLines (text : List Char) : List (List Char) :=
  let pieces := (translateNewlines text).splitOn '\n'
  pieces.dropLast.map (· ++ ['\n']) ++ (pieces.getLast?.filter fun l => !l.isEmpty).toList

/-- `LogcatParser().parse(filepath)` for a file holding `text`: the events of its lines, in
order; `clock i` is the year `datetime.now()` gives while the `i`-th line is parsed. -/
def parseFile (d : DecimalDigits) (clock : Nat → Year) (text : List Char) : List LogcatEvent :=
  (fileLines text).enum.filterMap fun e => parseLine d (clock e.1) (String.mk e.2)

lemma pyStrip_append_space {c : Char} (hc : isPySpace c = true) (l : List Char) :
    pyStrip (l ++ [c]) = pyStrip l := by
  unfold pyStrip
  rw [List.dropWhile_append]
  split
  · rename_i h
    rw [List.isEmpty_iff.mp h]
    simp [hc]
  · simp [hc]

lemma parseLine_append_newline (d : DecimalDigits) (now : Year) (l : List Char) :
    parseLine d now (String.mk (l ++ ['\n'])) = parseLine d now (String.mk l) := by
  unfold parseLine
  rw [show (String.mk (l ++ ['\n'])).toList = l ++ ['\n'] from rfl,
    pyStrip_append_space (by decide)]
  rfl

lemma filterMap_lines {β : Type} (f : Nat → List Char → Option β)
    (hnewline : ∀ i l, f i (l ++ ['\n']) = f i l) (hempty : ∀ i, f i [] = none)
    (pieces : List (List Char)) :
    (pieces.dropLast.map (· ++ ['\n']) ++ (pieces.getLast?.filter fun l => !l.isEmpty).toList
      ).enum.filterMap (fun e => f e.1 e.2) = pieces.enum.filterMap fun e => f e.1 e.2 := by
  rcases List.eq_nil_or_concat pieces with rfl | ⟨init, last, rfl⟩
  · rfl
  rw [List.concat_eq_append, List.dropLast_concat, List.getLast?_concat, List.enum_append,
    List.enum_append, List.filterMap_append, List.filterMap_append, List.enum_map,
    List.filterMap_map, List.length_map]
  congr 1
  · exact List.filterMap_congr fun e _ => hnewline e.1 e.2
  · cases last with
    | nil => simp [hempty, Option.filter]
    | cons c l => rfl

/-- The events of a logcat file are, in order, those `parse_line` gives the texts between
its line ends, whether these are `\n`, `\r\n` or `\r`; and an event is among them exactly
when one of these texts is a line of the grammar for it, in the year of the clock at that
line. -/
theorem parse_lines (d : DecimalDigits) (clock : Nat → Year) (text : List Char) :
    parseFile d clock text = ((translateNewlines text).splitOn '\n').enum.filterMap
        (fun e => parseLine d (clock e.1) (String.mk e.2)) ∧
      ∀ ev, ev ∈ parseFile d clock text ↔ ∃ i line,
        (i, line) ∈ ((translateNewlines text).splitOn '\n').enum ∧
          LogcatForm d (daysInMonth 1900) substringLevel (clock i) (String.mk line) ev := by
  have hlines : parseFile d clock text = ((translateNewlines text).splitOn '\n').enum.filterMap
      (fun e => parseLine d (clock e.1) (String.mk e.2)) :=
    filterMap_lines (fun i l => parseLine d (clock i) (String.mk l))
      (fun i l => parseLine_append_newline d (clock i) l) (fun _ => rfl) _
  refine ⟨hlines, fun ev => ?_⟩
  rw [hlines, List.mem_filterMap]
  constructor
  · rintro ⟨⟨i, line⟩, hmem, hev⟩
    exact ⟨i, line, hmem, logcatForm_of_parseLine hev⟩
  · rintro ⟨i, line, hmem, hform⟩
    exact ⟨(i, line), hmem, parseLine_of_logcatForm hform⟩

example : parseFile .asciiOnly (fun _ => ⟨2025, by decide, by decide⟩)
    "--\r\n03-01 10:15:30.1 12 34 I t: hi\r".toList =
      [⟨⟨2025, 3, 1, 10, 15, 30, 100000⟩, 12, 34, .info, "t", "hi"⟩] := rfl

end WorkloadAutomation
