import WorkloadAutomation.PyDict
import WorkloadAutomation.ApkInfoCache

/-!
# Commands with sub-commands

`ComplexCommand` of `wa/framework/command.py` builds one sub-command for each class of
`subcmd_classes`; each registers its parser in a group whose destination is `what`, under
`self.name or ''`. `execute` runs the first sub-command whose `name` equals `args.what`, and
raises `CommandError`, made from `args.name`, when none does.
-/

namespace WorkloadAutomation

structure SubCommandInfo where
  name : Option String
  deriving DecidableEq, Repr

/-- `self.name or ''`, the name `SubCommand.__init__` registers the parser under. -/
def SubCommandInfo.parserName (s : SubCommandInfo) : String := s.name.getD ""

/-- The errors `ComplexCommand.execute` raises itself. -/
inductive CommandFailure where
  | commandError (msg : String)
  | attributeError (msg : String)
  deriving DecidableEq, Repr

def getAttr (args : PyDict (Option String)) (attr : String) :
    Except CommandFailure (Option String) :=
  match args.get? attr with
  | some v => .ok v
  | none => .error (.attributeError ("'Namespace' object has no attribute '" ++ attr ++ "'"))

/-- The `else` of `execute`'s loop: `CommandError('Not a valid create parameter: {}'
.format(args.name))`. -/
def invalidSubcommand (args : PyDict (Option String)) : Except CommandFailure SubCommandInfo := do
  let name ← getAttr args "name"
  throw (.commandError ("Not a valid create parameter: " ++ pyStr name))

/-- `ComplexCommand.execute(state, args)` over `self.subcommands`: the sub-command whose
`execute` it calls with the same state and arguments. -/
def complexExecute (args : PyDict (Option String)) : List SubCommandInfo →
    Except CommandFailure SubCommandInfo
  | [] => invalidSubcommand args
  | s :: rest => do
    let what ← getAttr args "what"
    if s.name = what then pure s else complexExecute args rest

lemma complexExecute_eq {args : PyDict (Option String)} {what : Option String}
    (hwhat : args.get? "what" = some what) (subcommands : List SubCommandInfo) :
    complexExecute args subcommands =
      match subcommands.find? (fun s => s.name = what) with
      | some s => .ok s
      | none => invalidSubcommand args := by
  have hget : getAttr args "what" = .ok what := by simp [getAttr, hwhat]
  induction subcommands with
  | nil => rfl
  | cons s rest ih =>
    by_cases hs : s.name = what
    · simp [complexExecute, hget, hs, bind, Except.bind, pure, Except.pure]
    · simp [complexExecute, hget, hs, bind, Except.bind, ih]

/-- When `argparse` has set `what` to a name a sub-command's parser is registered under,
`execute` runs the first sub-command of that name, and raises as the loop's `else` does when
there is none. There is none exactly when the name is `''` and no sub-command is named `''`:
a sub-command without a name is registered under `''` and never runs. -/
theorem complexExecute_registered (subcommands : List SubCommandInfo)
    (args : PyDict (Option String)) {n : String} (hwhat : args.get? "what" = some (some n))
    (hreg : n ∈ subcommands.map SubCommandInfo.parserName) :
    complexExecute args subcommands =
        (match subcommands.find? (fun s => s.name = some n) with
        | some s => .ok s
        | none => invalidSubcommand args) ∧
      ((subcommands.find? fun s => s.name = some n).isSome ↔
        n ≠ "" ∨ some "" ∈ subcommands.map SubCommandInfo.name) := by
  refine ⟨complexExecute_eq hwhat subcommands, ?_⟩
  obtain ⟨s, hs, rfl⟩ := List.mem_map.mp hreg
  simp only [List.find?_isSome, decide_eq_true_eq, List.mem_map]
  constructor
  · rintro ⟨t, ht, hname⟩
    by_cases hn : s.parserName = ""
    · exact .inr ⟨t, ht, hname.trans (congrArg some hn)⟩
    · exact .inl hn
  · intro h
    cases hsn : s.name with
    | some m => exact ⟨s, hs, by simp [SubCommandInfo.parserName, hsn]⟩
    | none =>
      rcases h with hn | ⟨t, ht, hname⟩
      · exact absurd (by simp [SubCommandInfo.parserName, hsn]) hn
      · exact ⟨t, ht, by simp [hname, SubCommandInfo.parserName, hsn]⟩

def agendaSubcommands : List SubCommandInfo := [⟨some "agenda"⟩, ⟨none⟩]

def unnamedChosen : PyDict (Option String) := ⟨[("what", some "")], by decide⟩

theorem complexExecute_registered_unnamed :
    unnamedChosen.get? "what" = some (some "") ∧
      "" ∈ agendaSubcommands.map SubCommandInfo.parserName ∧
      complexExecute unnamedChosen agendaSubcommands =
        (match agendaSubcommands.find? (fun s => s.name = some "") with
        | some s => .ok s
        | none => invalidSubcommand unnamedChosen) ∧
      ((agendaSubcommands.find? fun s => s.name = some "").isSome ↔
        "" ≠ "" ∨ some "" ∈ agendaSubcommands.map SubCommandInfo.name) :=
  ⟨rfl, by decide, complexExecute_registered agendaSubcommands unnamedChosen rfl (by decide)⟩

example : complexExecute unnamedChosen agendaSubcommands =
    .error (.attributeError "'Namespace' object has no attribute 'name'") := rfl

end WorkloadAutomation
