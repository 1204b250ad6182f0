import Mathlib.Data.List.Basic

/-!
# Shell quoting and splitting

`shlex.quote` and `shlex.split` of the Python standard library, between which the launch
command of `wa/utils/android.py` travels: `build_apk_launch_command` quotes its string
values with `quote`, and the command is read back into words as `split` reads it.
-/

namespace WorkloadAutomation

namespace Shlex

/-- `shlex.whitespace`. -/
def whitespace : List Char := [' ', '\t', '\r', '\n']

/-- `shlex.quotes`. -/
def quotes : List Char := ['\'', '"']

/-- `shlex.escape`. -/
def escape : List Char := ['\\']

/-- `shlex.escapedquotes`: the quotes inside which the escape character escapes. -/
def escapedQuotes : List Char := ['"']

/-- `shlex.state`: `' '` between tokens, `'a'` inside a word, the quote character inside
quotes, the escape character right after it. -/
inductive State where
  | space
  | word
  | quote (q : Char)
  | escape (e : Char)
  deriving DecidableEq, Repr

/-- The lexer between two characters: `state`, then `escapedstate`, `token` and `quoted`,
the variables of the running `read_token` call. -/
structure Lexer where
  state : State
  escapedState : State
  token : List Char
  quoted : Bool
  deriving DecidableEq, Repr

namespace Lexer

/-- The lexer as a call of `read_token` starts: every token ends in state `' '`. -/
def init : Lexer := ⟨.space, .space, [], false⟩

/-- One turn of the loop of `read_token` on the character `c`: the lexer after it, and
the token returned when the loop breaks there; the next call starts from `init`. -/
def step (lex : Lexer) (c : Char) : Lexer × Option (List Char) :=
  match lex.state with
  | .space =>
    if c ∈ whitespace then
      if lex.token ≠ [] ∨ lex.quoted then (init, some lex.token) else (lex, none)
    else if c ∈ escape then ({ lex with escapedState := .word, state := .escape c }, none)
    else if c ∈ quotes then ({ lex with state := .quote c }, none)
    else ({ lex with token := [c], state := .word }, none)
  | .quote q =>
    if c = q then ({ lex with quoted := true, state := .word }, none)
    else if c ∈ escape ∧ q ∈ escapedQuotes then
      ({ lex with quoted := true, escapedState := .quote q, state := .escape c }, none)
    else ({ lex with quoted := true, token := lex.token ++ [c] }, none)
  | .escape e =>
    let kept := match lex.escapedState with
      | .quote q => if q ∈ quotes ∧ c ≠ e ∧ c ≠ q then [e] else []
      | _ => []
    ({ lex with token := lex.token ++ kept ++ [c], state := lex.escapedState }, none)
  | .word =>
    if c ∈ whitespace then
      if lex.token ≠ [] ∨ lex.quoted then (init, some lex.token)
      else ({ lex with state := .space }, none)
    else if c ∈ quotes then ({ lex with state := .quote c }, none)
    else if c ∈ escape then ({ lex with escapedState := .word, state := .escape c }, none)
    else ({ lex with token := lex.token ++ [c] }, none)

/-- What `read_token` returns at the end of the input: the token, or `None` for an empty
token without quotes, which ends the iteration. -/
def result (lex : Lexer) : Option (List Char) :=
  if !lex.quoted && lex.token.isEmpty then none else some lex.token

def finish (lex : Lexer) : Except String (List (List Char)) :=
  match lex.state with
  | .space | .word => .ok lex.result.toList
  | .quote _ => .error "No closing quotation"
  | .escape _ => .error "No escaped character"

/-- `list(lexer)` on the characters left to read. -/
def run (lex : Lexer) : List Char → Except String (List (List Char))
  | [] => lex.finish
  | c :: cs => ((lex.step c).1.run cs).map ((lex.step c).2.toList ++ ·)

end Lexer

/-- `shlex.split(s)`. -/
def split (s : String) : Except String (List String) :=
  (Lexer.init.run s.toList).map (·.map String.mk)

/-- A character `_find_unsafe` finds: not a word character of `re.ASCII` (a letter, a digit
or `_`) and none of `-@%+=:,./`. -/
def isUnsafe (c : Char) : Bool := !(c.isAlphanum || c ∈ "_@%+=:,./-".toList)

/-- `s.replace("'", "'\"'\"'")`: each `'` closes the quotes, stands between `"`, and
opens them again. -/
def escapeQuotes (s : List Char) : List Char :=
  s.flatMap fun c => if c = '\'' then ['\'', '"', '\'', '"', '\''] else [c]

/-- `shlex.quote(s)`. -/
def quote (s : String) : String :=
  if s = "" then "''"
  else if !s.toList.any isUnsafe then s
  else "'" ++ String.mk (escapeQuotes s.toList) ++ "'"

def isSpecial (c : Char) : Bool := c ∈ whitespace || c ∈ quotes || c ∈ escape

def IsPlain (w : List Char) : Prop := w ≠ [] ∧ ∀ c ∈ w, isSpecial c = false

instance (w : List Char) : Decidable (IsPlain w) := inferInstanceAs (Decidable (_ ∧ _))

lemma IsPlain.append {u w : List Char} (hu : IsPlain u) (hw : ∀ c ∈ w, isSpecial c = false) :
    IsPlain (u ++ w) :=
  ⟨by simp [hu.1], fun c hc => (List.mem_append.mp hc).elim (hu.2 c) (hw c)⟩

lemma isSpecial_eq_false {p : Char → Bool}
    (hp : ∀ c ∈ whitespace ++ quotes ++ escape, p c = false) {c : Char} (hc : p c = true) :
    isSpecial c = false := by
  cases hs : isSpecial c
  · rfl
  · have hm : c ∈ whitespace ++ quotes ++ escape := by simpa [isSpecial, or_assoc] using hs
    simp [hp c hm] at hc

section Step

variable {e : State} {t : List Char} {b : Bool} {c : Char}

lemma step_space_plain (h : isSpecial c = false) :
    Lexer.step ⟨.space, e, t, b⟩ c = (⟨.word, e, [c], b⟩, none) := by
  simp only [isSpecial, Bool.or_eq_false_iff, decide_eq_false_iff_not] at h
  simp [Lexer.step, h]

lemma step_word_plain (h : isSpecial c = false) :
    Lexer.step ⟨.word, e, t, b⟩ c = (⟨.word, e, t ++ [c], b⟩, none) := by
  simp only [isSpecial, Bool.or_eq_false_iff, decide_eq_false_iff_not] at h
  simp [Lexer.step, h]

lemma step_space_quote (h : c ∈ quotes) :
    Lexer.step ⟨.space, e, t, b⟩ c = (⟨.quote c, e, t, b⟩, none) := by
  have : c ∉ whitespace ∧ c ∉ escape := by
    simp only [quotes, List.mem_cons, List.mem_singleton, List.not_mem_nil, or_false] at h
    rcases h with rfl | rfl <;> decide
  simp [Lexer.step, h, this]

lemma step_word_quote (h : c ∈ quotes) :
    Lexer.step ⟨.word, e, t, b⟩ c = (⟨.quote c, e, t, b⟩, none) := by
  have : c ∉ whitespace := by
    simp only [quotes, List.mem_cons, List.mem_singleton, List.not_mem_nil, or_false] at h
    rcases h with rfl | rfl <;> decide
  simp [Lexer.step, h, this]

lemma step_quote_close : Lexer.step ⟨.quote c, e, t, b⟩ c = (⟨.word, e, t, true⟩, none) := by
  simp [Lexer.step]

lemma step_quote_other {q : Char} (hq : c ≠ q) (he : ¬ (c ∈ escape ∧ q ∈ escapedQuotes)) :
    Lexer.step ⟨.quote q, e, t, b⟩ c = (⟨.quote q, e, t ++ [c], true⟩, none) := by
  simp only [not_and] at he
  simpa [Lexer.step, hq] using he

lemma step_word_space (h : c ∈ whitespace) (ht : t ≠ [] ∨ b = true) :
    Lexer.step ⟨.word, e, t, b⟩ c = (Lexer.init, some t) := by
  simp [Lexer.step, h, ht]

lemma step_init_space (h : c ∈ whitespace) : Lexer.init.step c = (Lexer.init, none) := by
  simp [Lexer.step, Lexer.init, h]

end Step

section Run

lemma run_of_step {lex lex' : Lexer} {c : Char} (h : lex.step c = (lex', none)) (cs : List Char) :
    lex.run (c :: cs) = lex'.run cs := by
  simp only [Lexer.run, h, Option.toList_none, List.nil_append]
  cases lex'.run cs <;> rfl

lemma run_init_nil : Lexer.init.run [] = .ok [] := rfl

lemma run_init_space {c : Char} (h : c ∈ whitespace) (cs : List Char) :
    Lexer.init.run (c :: cs) = Lexer.init.run cs :=
  run_of_step (step_init_space h) cs

lemma run_word_plain {e : State} {t p : List Char} {b : Bool} (hp : ∀ c ∈ p, isSpecial c = false)
    (rest : List Char) : Lexer.run ⟨.word, e, t, b⟩ (p ++ rest) = Lexer.run ⟨.word, e, t ++ p, b⟩ rest := by
  induction p generalizing t with
  | nil => simp
  | cons c p ih =>
    rw [List.cons_append, run_of_step (step_word_plain (hp c (List.mem_cons_self c p))),
      ih fun d hd => hp d (List.mem_cons_of_mem c hd), List.append_assoc, List.singleton_append]

lemma run_single_quoted {e : State} (w : List Char) {t : List Char} {b : Bool} (rest : List Char) :
    Lexer.run ⟨.quote '\'', e, t, b⟩ (escapeQuotes w ++ '\'' :: rest) =
      Lexer.run ⟨.word, e, t ++ w, true⟩ rest := by
  induction w generalizing t b with
  | nil => simpa using run_of_step step_quote_close rest
  | cons c w ih =>
    simp only [escapeQuotes, List.flatMap_cons, List.append_assoc] at ih ⊢
    by_cases hc : c = '\''
    · subst hc
      simp only [if_pos, List.cons_append, List.nil_append]
      rw [run_of_step step_quote_close, run_of_step (step_word_quote (by decide)),
        run_of_step (step_quote_other (c := '\'') (q := '"') (by decide) (by decide)),
        run_of_step step_quote_close,
        run_of_step (step_word_quote (by decide)), ih]
      simp
    · simp only [if_neg hc, List.singleton_append]
      rw [run_of_step (step_quote_other hc fun h => absurd h.2 (by decide)), ih]
      simp

end Run

/-- Read from `Lexer.init`, the text `enc` leaves the lexer inside the word `w`, which the
next whitespace or the end of the input returns: `enc` is one shell word for `w`. -/
def Reads (enc w : List Char) : Prop :=
  ∃ b, (w ≠ [] ∨ b = true) ∧
    ∀ rest, Lexer.init.run (enc ++ rest) = Lexer.run ⟨.word, .space, w, b⟩ rest

def Ends (rest : List Char) : Prop := ∀ c r, rest = c :: r → c ∈ whitespace

lemma Reads.run_append {enc w rest : List Char} (h : Reads enc w) (hr : Ends rest) :
    Lexer.init.run (enc ++ rest) = (Lexer.init.run rest).map (w :: ·) := by
  obtain ⟨b, hb, h⟩ := h
  rw [h]
  cases rest with
  | nil =>
    have hres : Lexer.result ⟨.word, .space, w, b⟩ = some w := by
      rcases hb with hb | rfl
      · simp [Lexer.result, hb]
      · simp [Lexer.result]
    simp only [Lexer.run, Lexer.finish, hres]
    rfl
  | cons c r =>
    have hc := hr c r rfl
    rw [run_init_space hc]
    simp only [Lexer.run, step_word_space hc hb]
    rfl

lemma reads_plain {w : List Char} (h : IsPlain w) : Reads w w := by
  obtain ⟨c, p, rfl⟩ := List.exists_cons_of_ne_nil h.1
  refine ⟨false, .inl h.1, fun rest => ?_⟩
  unfold Lexer.init
  rw [List.cons_append, run_of_step (step_space_plain (h.2 c (List.mem_cons_self c p))),
    run_word_plain (fun d hd => h.2 d (List.mem_cons_of_mem c hd))]
  rfl

lemma reads_single_quoted (w : List Char) : Reads ('\'' :: escapeQuotes w ++ ['\'']) w :=
  ⟨true, .inr rfl, fun rest => by
    unfold Lexer.init
    simp only [List.cons_append, List.append_assoc, List.singleton_append]
    rw [run_of_step (step_space_quote (by decide)), run_single_quoted]
    rfl⟩

lemma reads_quote (s : String) : Reads (quote s).toList s.toList := by
  unfold quote
  split_ifs with hs hsafe
  · subst hs
    exact reads_single_quoted []
  · refine reads_plain ⟨fun h => hs (String.ext h), fun c hc => ?_⟩
    have : isUnsafe c = false := by simpa using List.any_eq_false.mp (by simpa using hsafe) c hc
    exact isSpecial_eq_false (p := fun c => !isUnsafe c) (by decide) (by simpa using this)
  · simpa [String.toList] using reads_single_quoted s.toList

lemma run_words {ws : List (List Char × List Char)} (h : ∀ p ∈ ws, Reads p.1 p.2)
    {rest : List Char} (hr : Ends rest) :
    Lexer.init.run (ws.flatMap (fun p => ' ' :: p.1) ++ rest) =
      (Lexer.init.run rest).map (ws.map Prod.snd ++ ·) := by
  induction ws with
  | nil =>
    simp only [List.flatMap_nil, List.nil_append, List.map_nil]
    cases Lexer.init.run rest <;> rfl
  | cons p ws ih =>
    have hends : Ends (ws.flatMap (fun p => ' ' :: p.1) ++ rest) := by
      cases ws with
      | nil => simpa using hr
      | cons q ws => rintro c r hcr; simp at hcr; simp [← hcr.1, whitespace]
    simp only [List.flatMap_cons, List.cons_append, List.append_assoc]
    rw [run_init_space (by decide),
      (h p (List.mem_cons_self p ws)).run_append hends,
      ih fun q hq => h q (List.mem_cons_of_mem p hq)]
    cases Lexer.init.run rest <;> rfl

end Shlex

end WorkloadAutomation
