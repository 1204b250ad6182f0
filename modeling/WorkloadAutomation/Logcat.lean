import WorkloadAutomation.Version

/-!
# Logcat lines

`LogcatParser.parse_line` of `wa/utils/android.py` with the Python it runs on one line:
`str.strip`, `str.split(': ', 1)`, `str.split(None, 5)`, `datetime.strptime` with the
format `'%m-%d %H:%M:%S.%f'` followed by `replace(year=...)`, `int` and `str.index` on
`log_level_map`. Every exception of the `try` block gives `None`, so each step is an
`Option`. The current year, `datetime.now().year`, and the decimal digits `\d` and `int`
read are parameters.
-/

namespace WorkloadAutomation

/-- `LogcatLogLevel`, built by `enum([...], start=2)` of `wa.utils.types`, which is
missing from the repository's files: one member per name, in order. -/
inductive LogcatLogLevel where
  | verbose
  | debug
  | info
  | warn
  | error
  | assert
  deriving DecidableEq, Repr

namespace LogcatLogLevel

def names : List String := ["verbose", "debug", "info", "warn", "error", "assert"]

def levels : List LogcatLogLevel := [verbose, debug, info, warn, error, .assert]

end LogcatLogLevel

/-- `log_level_map`: the first letter of every name, upper-cased. -/
def logLevelMap : List Char := LogcatLogLevel.names.map fun n => n.front.toUpper

lemma logLevelMap_eq : logLevelMap = "VDIWEA".toList := rfl

structure DateTime where
  year : Nat
  month : Nat
  day : Nat
  hour : Nat
  minute : Nat
  second : Nat
  microsecond : Nat
  deriving DecidableEq, Repr

def daysInMonth (year month : Nat) : Nat :=
  if month = 2 then
    if year % 4 = 0 ∧ (year % 100 ≠ 0 ∨ year % 400 = 0) then 29 else 28
  else if month = 4 ∨ month = 6 ∨ month = 9 ∨ month = 11 then 30
  else 31

def DateTime.valid (t : DateTime) : Bool :=
  1 ≤ t.month && t.month ≤ 12 && 1 ≤ t.day && t.day ≤ daysInMonth t.year t.month &&
    t.hour ≤ 23 && t.minute ≤ 59 && t.second ≤ 59 && t.microsecond ≤ 999999

structure Year where
  val : Nat
  pos : 1 ≤ val
  le : val ≤ 9999

inductive CharClass where
  | oneOf (s : String)
  | digit

def CharClass.accepts (d : DecimalDigits) : CharClass → Char → Bool
  | oneOf s, c => c ∈ s.toList
  | digit, c => d.isDigit c

abbrev Directive := List (List CharClass)

/-- `%m`: `1[0-2]|0[1-9]|[1-9]`. -/
def monthDirective : Directive :=
  [[.oneOf "1", .oneOf "012"], [.oneOf "0", .oneOf "123456789"], [.oneOf "123456789"]]

/-- `%d`: `3[01]|[12]\d|0[1-9]|[1-9]| [1-9]`. -/
def dayDirective : Directive :=
  [[.oneOf "3", .oneOf "01"], [.oneOf "12", .digit], [.oneOf "0", .oneOf "123456789"],
    [.oneOf "123456789"], [.oneOf " ", .oneOf "123456789"]]

/-- `%H`: `2[0-3]|[0-1]\d|\d`. -/
def hourDirective : Directive := [[.oneOf "2", .oneOf "0123"], [.oneOf "01", .digit], [.digit]]

/-- `%M`: `[0-5]\d|\d`. -/
def minuteDirective : Directive := [[.oneOf "012345", .digit], [.digit]]

/-- `%S`: `6[0-1]|[0-5]\d|\d`. -/
def secondDirective : Directive := [[.oneOf "6", .oneOf "01"], [.oneOf "012345", .digit], [.digit]]

/-- `%f`: `[0-9]{1,6}`. -/
def fractionDirective : Directive :=
  (List.range 6).map fun k => List.replicate (k + 1) (.oneOf "0123456789")

def fullMatch (d : DecimalDigits) (dir : Directive) (s : List Char) : Bool :=
  dir.any fun alt =>
    alt.length == s.length && (List.zipWith (fun cls c => cls.accepts d c) alt s).all id

/-- `%f`'s value: `int` of the digits padded with zeros to six, as microseconds. -/
def fractionValue (d : DecimalDigits) (f : List Char) : Nat :=
  decimalValue d (f ++ List.replicate (6 - f.length) '0')

/-- `datetime.strptime(date + ' ' + time, '%m-%d %H:%M:%S.%f')` for a `date` and a `time`
without whitespace, as `parse_line` calls it: the separators of the format split the
fields, each field must be all of one alternative of its directive, and the date and
time must exist in the default year 1900. -/
def strptimeLogcat (d : DecimalDigits) (date time : List Char) : Option DateTime :=
  match date.splitOn '-', time.splitOn ':' with
  | [mo, dd], [h, mi, sf] =>
    match sf.splitOn '.' with
    | [s, f] =>
      if fullMatch d monthDirective mo && fullMatch d dayDirective dd &&
          fullMatch d hourDirective h && fullMatch d minuteDirective mi &&
          fullMatch d secondDirective s && fullMatch d fractionDirective f then
        let t : DateTime := ⟨1900, decimalValue d mo, decimalValue d dd, decimalValue d h,
          decimalValue d mi, decimalValue d s, fractionValue d f⟩
        if t.valid then some t else none
      else none
    | _ => none
  | _, _ => none

/-- `t.replace(year=year)`, which checks the new date again. -/
def replaceYear (year : Year) (t : DateTime) : Option DateTime :=
  let t' := { t with year := year.val }
  if t'.valid then some t' else none

def decimalNumeral (d : DecimalDigits) (body : List Char) : Bool :=
  (body.splitOn '_').all fun g => !g.isEmpty && g.all d.isDigit

def pySign : List Char → Bool × List Char
  | '-' :: b => (true, b)
  | '+' :: b => (false, b)
  | b => (false, b)

/-- `int(s)` for a string: surrounding whitespace, an optional sign, then a decimal
literal, whose underscores do not count. -/
def pyInt (d : DecimalDigits) (s : List Char) : Option Int :=
  let (negative, body) := pySign (pyStrip s)
  if decimalNumeral d body then
    let n : Int := decimalValue d (body.splitOn '_').flatten
    some (if negative then -n else n)
  else none

/-- `s.index(sub)`: the first position where `sub` occurs; `none` for `ValueError`. -/
def pyIndex (sub : List Char) : List Char → Option Nat
  | [] => if sub = [] then some 0 else none
  | c :: s => if sub <+: c :: s then some 0 else (pyIndex sub s).map (· + 1)

/-- `line.split(': ', 1)` of a line that contains `': '`: the text before its first
occurrence and the text after. -/
def splitColonSpace : List Char → Option (List Char × List Char)
  | [] => none
  | c :: rest =>
    if [':', ' '] <+: c :: rest then some ([], rest.drop 1)
    else (splitColonSpace rest).map fun (a, b) => (c :: a, b)

structure LogcatEvent where
  timestamp : DateTime
  pid : Int
  tid : Int
  level : LogcatLogLevel
  tag : String
  message : String
  deriving DecidableEq, Repr

/-- `LogcatParser.parse_line(line)`. -/
def parseLine (d : DecimalDigits) (now : Year) (line : String) : Option LogcatEvent :=
  let line := pyStrip line.toList
  if line = [] || line.head? = some '-' || !pyContains [':', ' '] line then none
  else match splitColonSpace line with
    | none => none
    | some (metadata, message) =>
      match pySplitWs 5 metadata with
      | date :: time :: pid :: tid :: level :: parts => do
        let timestamp ← (strptimeLogcat d date time).bind (replaceYear now)
        let pid ← pyInt d pid
        let tid ← pyInt d tid
        let level ← (pyIndex level logLevelMap).bind (LogcatLogLevel.levels[·]?)
        let tag := pyStrip (parts.head?.getD [])
        pure ⟨timestamp, pid, tid, level, String.mk tag, String.mk message⟩
      | _ => none

end WorkloadAutomation
