import Mathlib.Computability.Language
import Mathlib.Data.List.Infix

/-
  The part of Go's `regexp` the server's file-path pattern uses:
  syntax trees, the strings each one denotes, and `MatchString`,
  decided by derivatives.

  `regexp.MustCompile` parses a pattern into a `syntax.Regexp`.
  The fragment here has the operators without flags, anchors,
  classes or counted repetition. `MatchString` is unanchored: it
  reports whether some substring of its argument is in the
  language, and a derivative matcher started at every suffix
  decides that.

  Correctness is proven by:
    * `nullable_iff`, `mem_lang_deriv`: what `nullable` and `deriv`
      compute
    * `prefixMatch_iff`, `matchString_iff`: the matcher against the
      substring specification

  Main declarations:
    * `Regexp`, `Regexp.lang`
    * `Regexp.nullable`, `Regexp.deriv`
    * `Regexp.prefixMatch`, `Regexp.matchString`
-/

------------------------------------------------------------
-- Syntax and Meaning
------------------------------------------------------------

namespace Kit

/- A `syntax.Regexp` of the fragment, each constructor named by its `Op`. -/
inductive Regexp where
  | noMatch
  | emptyMatch
  | literal (runes : List Char)
  | anyCharNotNL
  | concat (a b : Regexp)
  | alternate (a b : Regexp)
  | star (a : Regexp)
deriving DecidableEq, Repr

namespace Regexp

open Computability

/- The strings each operator matches; `.` is any character but a newline. -/
def lang : Regexp → Language Char
  | noMatch => 0
  | emptyMatch => 1
  | literal runes => {runes}
  | anyCharNotNL => fun s => ∃ c, s = [c] ∧ c ≠ '\n'
  | concat a b => a.lang * b.lang
  | alternate a b => a.lang + b.lang
  | star a => a.lang∗

@[simp]
theorem mem_lang_noMatch
    (s : List Char) :
    s ∉ noMatch.lang :=
  Language.not_mem_zero s

@[simp]
theorem mem_lang_emptyMatch
    (s : List Char) :
    s ∈ emptyMatch.lang ↔ s = [] :=
  Iff.rfl

@[simp]
theorem mem_lang_literal
    (runes s : List Char) :
    s ∈ (literal runes).lang ↔ s = runes :=
  Iff.rfl

@[simp]
theorem mem_lang_anyCharNotNL
    (s : List Char) :
    s ∈ anyCharNotNL.lang ↔ ∃ c, s = [c] ∧ c ≠ '\n' :=
  Iff.rfl

@[simp]
theorem mem_lang_concat
    (a b : Regexp)
    (s : List Char) :
    s ∈ (concat a b).lang ↔ ∃ x ∈ a.lang, ∃ y ∈ b.lang, x ++ y = s :=
  Language.mem_mul

@[simp]
theorem mem_lang_alternate
    (a b : Regexp)
    (s : List Char) :
    s ∈ (alternate a b).lang ↔ s ∈ a.lang ∨ s ∈ b.lang :=
  Iff.rfl

end Regexp

end Kit

------------------------------------------------------------
-- Derivatives
------------------------------------------------------------

namespace Kit

namespace Regexp

open Computability

/- Whether the empty string is in the language. -/
def nullable : Regexp → Bool
  | noMatch => false
  | emptyMatch => true
  | literal runes => runes.isEmpty
  | anyCharNotNL => false
  | concat a b => a.nullable && b.nullable
  | alternate a b => a.nullable || b.nullable
  | star _ => true

/- The strings `s` with `c :: s` in the language. -/
def deriv (c : Char) : Regexp → Regexp
  | noMatch => noMatch
  | emptyMatch => noMatch
  | literal [] => noMatch
  | literal (r :: rs) => if r = c then literal rs else noMatch
  | anyCharNotNL => if c = '\n' then noMatch else emptyMatch
  | concat a b =>
      if a.nullable then alternate (concat (a.deriv c) b) (b.deriv c)
      else concat (a.deriv c) b
  | alternate a b => alternate (a.deriv c) (b.deriv c)
  | star a => concat (a.deriv c) (star a)

theorem nullable_iff
    (r : Regexp) :
    r.nullable = true ↔ [] ∈ r.lang := by
  induction r with
  | noMatch => simp [nullable]
  | emptyMatch => simp [nullable]
  | literal runes =>
      simp only [nullable, mem_lang_literal, List.isEmpty_iff]
      exact eq_comm
  | anyCharNotNL => simp [nullable]
  | concat a b iha ihb => simp [nullable, iha, ihb]
  | alternate a b iha ihb => simp [nullable, iha, ihb]
  | star a => exact iff_of_true rfl (Language.nil_mem_kstar _)

/- `c :: s ∈ (concat a b).lang`: `c` starts the first part, or the first part is empty. -/
theorem cons_mem_concat
    {a b : Regexp}
    {c : Char}
    {s : List Char} :
    c :: s ∈ (concat a b).lang ↔
      (∃ x, c :: x ∈ a.lang ∧ ∃ y ∈ b.lang, x ++ y = s) ∨
        ([] ∈ a.lang ∧ c :: s ∈ b.lang) := by
  simp only [mem_lang_concat]
  constructor
  · rintro ⟨_ | ⟨d, x⟩, hx, y, hy, hs⟩
    · rw [List.nil_append] at hs
      exact .inr ⟨hx, hs ▸ hy⟩
    · simp only [List.cons_append, List.cons.injEq] at hs
      obtain ⟨rfl, rfl⟩ := hs
      exact .inl ⟨x, hx, y, hy, rfl⟩
  · rintro (⟨x, hx, y, hy, rfl⟩ | ⟨hx, hy⟩)
    · exact ⟨c :: x, hx, y, hy, rfl⟩
    · exact ⟨[], hx, c :: s, hy, rfl⟩

/- `c :: s ∈ (star a).lang` peels a first, nonempty piece off. -/
theorem cons_mem_star
    {a : Regexp}
    {c : Char}
    {s : List Char} :
    c :: s ∈ (star a).lang ↔
      ∃ x, c :: x ∈ a.lang ∧ ∃ y ∈ (star a).lang, x ++ y = s := by
  simp only [lang, Language.mem_kstar_iff_exists_nonempty]
  constructor
  · rintro ⟨_ | ⟨_ | ⟨d, x⟩, pieces⟩, hs, hPieces⟩
    · simp at hs
    · simp at hPieces
    · simp only [List.flatten_cons, List.cons_append, List.cons.injEq] at hs
      obtain ⟨rfl, rfl⟩ := hs
      have hRest := fun y hy => hPieces y (List.mem_cons_of_mem _ hy)
      exact ⟨x, (hPieces _ (List.mem_cons_self _ _)).1, _, ⟨pieces, rfl, hRest⟩, rfl⟩
  · rintro ⟨x, hx, y, ⟨pieces, rfl, hPieces⟩, rfl⟩
    refine ⟨(c :: x) :: pieces, rfl, ?_⟩
    simpa [hx] using hPieces

/- The derivative by `c` is the language after a leading `c`. -/
theorem mem_lang_deriv
    (c : Char)
    (r : Regexp)
    (s : List Char) :
    s ∈ (r.deriv c).lang ↔ c :: s ∈ r.lang := by
  induction r generalizing s with
  | noMatch => simp [deriv]
  | emptyMatch => simp [deriv]
  | literal runes =>
      rcases runes with _ | ⟨r, rs⟩
      · simp [deriv]
      · by_cases hr : r = c
        · simp [deriv, hr]
        · simp [deriv, hr, Ne.symm hr]
  | anyCharNotNL =>
      by_cases hc : c = '\n' <;> simp [deriv, hc, and_assoc]
  | concat a b iha ihb =>
      rw [cons_mem_concat, ← nullable_iff, deriv]
      cases a.nullable <;> simp [iha, ihb]
  | alternate a b iha ihb => simp [deriv, iha, ihb]
  | star a iha =>
      rw [cons_mem_star]
      simp [deriv, iha]

end Regexp

end Kit

------------------------------------------------------------
-- MatchString
------------------------------------------------------------

namespace Kit

namespace Regexp

/- Whether some prefix of `s` is in the language. -/
def prefixMatch
    (r : Regexp) : List Char → Bool
  | [] => r.nullable
  | c :: s => r.nullable || (r.deriv c).prefixMatch s

/- `re.MatchString(s)`: a match starts at some position of `s`. -/
def matchString
    (r : Regexp)
    (s : String) : Bool :=
  s.data.tails.any r.prefixMatch

theorem prefixMatch_iff
    (r : Regexp)
    (s : List Char) :
    r.prefixMatch s = true ↔ ∃ p, p <+: s ∧ p ∈ r.lang := by
  induction s generalizing r with
  | nil => simp [prefixMatch, nullable_iff]
  | cons c s ih =>
      simp only [prefixMatch, Bool.or_eq_true, nullable_iff, ih, mem_lang_deriv,
        List.prefix_cons_iff]
      constructor
      · rintro (hNil | ⟨p, hp, hMem⟩)
        · exact ⟨[], .inl rfl, hNil⟩
        · exact ⟨c :: p, .inr ⟨p, rfl, hp⟩, hMem⟩
      · rintro ⟨p, rfl | ⟨p, rfl, hp⟩, hMem⟩
        · exact .inl hMem
        · exact .inr ⟨p, hp, hMem⟩

/- `MatchString` holds exactly when some substring is in the language. -/
theorem matchString_iff
    (r : Regexp)
    (s : String) :
    r.matchString s = true ↔ ∃ p, p <:+: s.data ∧ p ∈ r.lang := by
  simp only [matchString, List.any_eq_true, List.mem_tails, prefixMatch_iff,
    List.infix_iff_prefix_suffix]
  constructor
  · rintro ⟨t, ht, p, hp, hMem⟩
    exact ⟨p, ⟨t, hp, ht⟩, hMem⟩
  · rintro ⟨p, ⟨t, hp, ht⟩, hMem⟩
    exact ⟨t, ht, p, hp, hMem⟩

end Regexp

end Kit
