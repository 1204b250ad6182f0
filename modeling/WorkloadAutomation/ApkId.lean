import WorkloadAutomation.Text

/-!
# Apk identity keys

`get_cacheable_apk_info` keys the cache by `'{}-{}'.format(path, modified)`, with
`modified` the file's `st_mtime`. A non-negative float prints as digits with a point, or in
scientific notation whose only minus sign, if any, starts the exponent. So the text after
a minus sign inside a printed mtime is all digits, which no printed mtime is, and the key
determines both the path and the mtime.
-/

namespace WorkloadAutomation

def IsDigits (l : List Char) : Prop := l ≠ [] ∧ ∀ c ∈ l, c.isDigit

inductive IsFloatRepr : List Char → Prop
  | fixed {i f : List Char} : IsDigits i → IsDigits f → IsFloatRepr (i ++ '.' :: f)
  | sci {m e : List Char} (sign : Char) : (∀ c ∈ m, c.isDigit ∨ c = '.') →
      (sign = '+' ∨ sign = '-') → IsDigits e → IsFloatRepr (m ++ 'e' :: sign :: e)

/-- The `st_mtime` of a file, by the text `'{}'.format` gives it; Python prints distinct
floats differently, so the text stands for the float. -/
structure Mtime where
  text : String
  isRepr : IsFloatRepr text.toList

instance : DecidableEq Mtime := fun a b =>
  decidable_of_iff (a.text = b.text) (by cases a; cases b; simp)

/-- `'{}-{}'.format(path, modified)`. -/
def apkId (path : String) (m : Mtime) : String := path ++ "-" ++ m.text

lemma IsFloatRepr.exists_not_digit {r : List Char} (h : IsFloatRepr r) : ∃ c ∈ r, c.isDigit = false := by
  cases h with
  | fixed => exact ⟨'.', by simp, rfl⟩
  | sci => exact ⟨'e', by simp, rfl⟩

lemma IsFloatRepr.digits_after_minus {r u v : List Char} (h : IsFloatRepr r)
    (hr : r = u ++ '-' :: v) : ∀ c ∈ v, c.isDigit := by
  cases h with
  | fixed hi hf =>
    have hm : '-' ∈ _ ++ '.' :: _ := hr ▸ List.mem_append_right u (List.mem_cons_self '-' v)
    simp only [List.mem_append, List.mem_cons] at hm
    rcases hm with hm | hm | hm
    · exact absurd (hi.2 _ hm) (by decide)
    · exact absurd hm (by decide)
    · exact absurd (hf.2 _ hm) (by decide)
  | @sci m e sign hm hsign he =>
    rcases List.append_eq_append_iff.mp hr with ⟨a, -, ha⟩ | ⟨c, hc, hc'⟩
    · rcases a with _ | ⟨x, _ | ⟨y, a⟩⟩
      · simp at ha
      · simp only [List.cons_append, List.nil_append, List.cons.injEq] at ha
        exact ha.2.2 ▸ he.2
      · simp only [List.cons_append, List.cons.injEq] at ha
        have : '-' ∈ e := ha.2.2 ▸ List.mem_append_right a (List.mem_cons_self '-' v)
        exact absurd (he.2 _ this) (by decide)
    · rcases c with _ | ⟨x, c⟩
      · simp at hc'
      · simp only [List.cons_append, List.cons.injEq] at hc'
        have : '-' ∈ m := by rw [hc, ← hc'.1]; simp
        rcases hm _ this with h | h <;> exact absurd h (by decide)

lemma key_cancel {p₁ p₂ r₁ r₂ : List Char} (h₁ : IsFloatRepr r₁) (h₂ : IsFloatRepr r₂)
    (h : p₁ ++ '-' :: r₁ = p₂ ++ '-' :: r₂) : p₁ = p₂ ∧ r₁ = r₂ := by
  have digits_contra : ∀ {r r'} (a : List Char), IsFloatRepr r → IsFloatRepr r' →
      r = a ++ '-' :: r' → False := fun a hr hr' e => by
    obtain ⟨c, hc, hnd⟩ := hr'.exists_not_digit
    simp [hr.digits_after_minus e c hc] at hnd
  rcases List.append_eq_append_iff.mp h with ⟨a, rfl, ha⟩ | ⟨c, rfl, hc⟩
  · rcases a with _ | ⟨x, a⟩
    · simpa using ha
    · simp only [List.cons_append, List.cons.injEq] at ha
      exact (digits_contra a h₁ h₂ (ha.1 ▸ ha.2)).elim
  · rcases c with _ | ⟨x, c⟩
    · simpa using hc.symm
    · simp only [List.cons_append, List.cons.injEq] at hc
      exact (digits_contra c h₂ h₁ (hc.1 ▸ hc.2)).elim

theorem apkId_injective {p₁ p₂ : String} {m₁ m₂ : Mtime} (h : apkId p₁ m₁ = apkId p₂ m₂) :
    p₁ = p₂ ∧ m₁ = m₂ := by
  have hl : p₁.toList ++ '-' :: m₁.text.toList = p₂.toList ++ '-' :: m₂.text.toList := by
    simpa [apkId] using congrArg String.toList h
  obtain ⟨hp, hm⟩ := key_cancel m₁.isRepr m₂.isRepr hl
  refine ⟨String.ext hp, ?_⟩
  cases m₁; cases m₂
  simpa [String.ext_iff] using hm

end WorkloadAutomation
