import Mathlib.Data.List.Infix
import Mathlib.Data.Nat.Digits

/-
  Connection strings: `fmt.Sprintf`, with which the constructors
  build a DSN, and `url.Parse`, with which the migration tool's
  Postgres driver reads one.

  `Sprintf` is modelled for the verbs the DSN formats use, with
  Go's marks for a mismatch: an operand of the wrong type prints
  as `%!verb(type=value)`, a verb without an operand as
  `%!verb(MISSING)`, and operands left over as
  `%!(EXTRA type=value, ...)`.

  `Parse` is modelled as Go writes it: cut the fragment, reject
  control characters, split off the scheme, the query and the
  authority, and unescape the path, which fails at the first `%`
  not followed by two hex digits. The check of the authority
  (userinfo and host) is a parameter. Strings are lists of
  characters; a byte above `0x7f` is not told apart from a
  character.

  Correctness is proven by:
    * `cut_append_of_not_mem`, `cut_append_cons_of_not_mem`: where
      `cut` splits a string built around its separator
    * `parse_of_path`, `urlParse_of_not_mem`: what `Parse` returns
      for a URL `scheme://authority/path?query` whose parts hold
      none of the characters that end them

  Main declarations:
    * `Fmt.Arg`, `Fmt.sprintf`
    * `Url.cut`, `Url.getScheme`, `Url.unescape`, `Url.URL`,
      `Url.parse`, `Url.urlParse`
-/

------------------------------------------------------------
-- Sprintf
------------------------------------------------------------

namespace Kit

namespace Fmt

/- An operand of `Sprintf`: a Go `string` or `int`. -/
inductive Arg where
  | string (s : String)
  | int (i : Int)
deriving DecidableEq, Repr

/- The operand's type, as the error marks print it. -/
def Arg.typeName : Arg → List Char
  | .string _ => "string".data
  | .int _ => "int".data

/- The operand under `%v`. -/
def Arg.value : Arg → List Char
  | .string s => s.data
  | .int i => (toString i).data

/- `type=value`, inside an error mark. -/
def Arg.typed (a : Arg) : List Char :=
  a.typeName ++ '=' :: a.value

/- The operand under `verb`, or `none` when the verb does not take its type. -/
def Arg.format? (verb : Char) : Arg → Option (List Char)
  | .string s => if verb = 's' ∨ verb = 'v' then some s.data else none
  | .int i => if verb = 'd' ∨ verb = 'v' then some (toString i).data else none

/- `%!(EXTRA type=value, ...)` for the operands no verb took. -/
def extra : List Arg → List Char
  | [] => []
  | a :: args =>
      "%!(EXTRA ".data ++ a.typed ++ (args.flatMap fun b => ", ".data ++ b.typed) ++ [')']

/- The output for a format and the operands left. -/
def sprintfAux : List Char → List Arg → List Char
  | [], args => extra args
  | ['%'], args => "%!(NOVERB)".data ++ extra args
  | '%' :: '%' :: format, args => '%' :: sprintfAux format args
  | '%' :: verb :: format, [] => "%!".data ++ verb :: "(MISSING)".data ++ sprintfAux format []
  | '%' :: verb :: format, a :: args =>
      (a.format? verb).getD ("%!".data ++ verb :: '(' :: a.typed ++ [')']) ++
        sprintfAux format args
  | c :: format, args => c :: sprintfAux format args

/- `fmt.Sprintf(format, args...)` -/
def sprintf
    (format : String)
    (args : List Arg) : String :=
  ⟨sprintfAux format.data args⟩

example : sprintf "%s:%d" [.string "localhost", .int 6379] = "localhost:6379" := by
  decide

theorem digitChar_isDigit
    {d : Nat}
    (h : d < 10) :
    (Nat.digitChar d).isDigit = true := by
  revert d
  decide

theorem mem_toDigitsCore
    {c : Char} :
    ∀ (fuel n : Nat) (l : List Char),
      c ∈ Nat.toDigitsCore 10 fuel n l → c ∈ l ∨ c.isDigit = true
  | 0, _, _, h => .inl h
  | fuel + 1, n, l, h => by
      have hd := digitChar_isDigit (Nat.mod_lt n (by decide : 10 > 0))
      simp only [Nat.toDigitsCore] at h
      split_ifs at h
      · rcases List.mem_cons.mp h with rfl | h
        · exact .inr hd
        · exact .inl h
      · rcases mem_toDigitsCore fuel _ _ h with h | h
        · rcases List.mem_cons.mp h with rfl | h
          · exact .inr hd
          · exact .inl h
        · exact .inr h

/- An `int` prints as a sign and digits. -/
theorem mem_toString_int
    {c : Char}
    (i : Int)
    (h : c ∈ (toString i).data) :
    c = '-' ∨ c.isDigit = true := by
  have hNat : ∀ n : Nat, c ∈ (Nat.repr n).data → c.isDigit = true := fun n hn => by
    rcases mem_toDigitsCore _ _ _ hn with h | h
    · simp at h
    · exact h
  rcases i with n | n
  · exact .inr (hNat n h)
  · change c ∈ '-' :: (Nat.repr (n + 1)).data at h
    rcases List.mem_cons.mp h with h | h
    · exact .inl h
    · exact .inr (hNat _ h)

end Fmt

end Kit

------------------------------------------------------------
-- Parse
------------------------------------------------------------

namespace Kit

namespace Url

/- `strings.Cut(s, sep)` for one character: the text before the first `sep`, and after it. -/
def cut (sep : Char) : List Char → List Char × Option (List Char)
  | [] => ([], none)
  | c :: s =>
      if c = sep then ([], some s)
      else (c :: (cut sep s).1, (cut sep s).2)

/- `ishex` -/
def ishex (c : Char) : Bool :=
  c.isDigit || ('a' ≤ c && c ≤ 'f') || ('A' ≤ c && c ≤ 'F')

/- `unhex` -/
def unhex (c : Char) : Nat :=
  if c.isDigit then c.toNat - '0'.toNat
  else if 'a' ≤ c ∧ c ≤ 'f' then c.toNat - 'a'.toNat + 10
  else if 'A' ≤ c ∧ c ≤ 'F' then c.toNat - 'A'.toNat + 10
  else 0

/-
  `unescape(s, encodePath)`: each `%XY` becomes the character of
  code `0xXY`; any other `%` is an `EscapeError` holding it and at
  most the two characters after it.
-/
def unescape : List Char → Except (List Char) (List Char)
  | [] => .ok []
  | '%' :: a :: b :: s =>
      if ishex a && ishex b then (Char.ofNat (unhex a * 16 + unhex b) :: ·) <$> unescape s
      else .error ['%', a, b]
  | '%' :: s => .error ('%' :: s)
  | c :: s => (c :: ·) <$> unescape s

/- The errors of `Parse`, without the `parse "<url>": ` they are wrapped in. -/
inductive UrlError where
  | controlCharacter
  | missingScheme
  | colonInFirstSegment
  | escape (s : List Char)
  | authority (text : String)
deriving DecidableEq, Repr

/- `Error()` of each. -/
def UrlError.text : UrlError → String
  | .controlCharacter => "net/url: invalid control character in URL"
  | .missingScheme => "missing protocol scheme"
  | .colonInFirstSegment => "first path segment in URL cannot contain colon"
  | .escape s => "invalid URL escape " ++ ⟨'"' :: s ++ ['"']⟩
  | .authority text => text

/-
  `getScheme`: the letters, digits, `+`, `-` and `.` before the
  first `:`, a letter first; without one the URL has no scheme.
-/
def getScheme (raw : List Char) : Except UrlError (List Char × List Char) :=
  go [] raw
where
  go (scheme : List Char) : List Char → Except UrlError (List Char × List Char)
    | [] => .ok ([], raw)
    | c :: rest =>
        if c.isAlpha then go (scheme ++ [c]) rest
        else if c.isDigit || c = '+' || c = '-' || c = '.' then
          if scheme.isEmpty then .ok ([], raw) else go (scheme ++ [c]) rest
        else if c = ':' then
          if scheme.isEmpty then .error .missingScheme else .ok (scheme, rest)
        else .ok ([], raw)

/- `stringContainsCTLByte`, character by character. -/
def isCTL (c : Char) : Bool :=
  c.toNat < 0x20 || c.toNat = 0x7f

/-
  The fields of `url.URL` that `Parse` sets; `authority` is what the
  check of the authority returned.
-/
structure URL (α : Type) where
  scheme : List Char
  rootless : List Char
  authority : Option α
  path : List Char
  forceQuery : Bool
  rawQuery : List Char
  fragment : List Char
deriving DecidableEq, Repr

/-
  The query: `ForceQuery` when the text ends in its only `?`, else
  `strings.Cut` at the first `?`.
-/
def splitQuery (rest : List Char) : List Char × Bool × List Char :=
  if rest.getLast? = some '?' ∧ rest.count '?' = 1 then (rest.dropLast, true, [])
  else ((cut '?' rest).1, false, (cut '?' rest).2.getD [])

/- After `//`: the authority up to the first `/`, and the path from it on. -/
def splitAuthority (rest : List Char) : List Char × List Char :=
  ((cut '/' (rest.drop 2)).1, ((cut '/' (rest.drop 2)).2.map ('/' :: ·)).getD [])

variable {α : Type} (parseAuthority : List Char → Except String α)

/- `parse(rawURL, false)`: everything but the fragment. -/
def parse (raw : List Char) : Except UrlError (URL α) :=
  if raw.any isCTL then .error .controlCharacter
  else match getScheme raw with
    | .error e => .error e
    | .ok (scheme, rest) =>
        let scheme := scheme.map Char.toLower
        let (rest, forceQuery, rawQuery) := splitQuery rest
        if rest.head? ≠ some '/' ∧ scheme ≠ [] then
          .ok ⟨scheme, rest, none, [], forceQuery, rawQuery, []⟩
        else if rest.head? ≠ some '/' ∧ ':' ∈ (cut '/' rest).1 then
          .error .colonInFirstSegment
        else
          let authority : Except UrlError (Option α × List Char) :=
            if (scheme ≠ [] ∨ ¬"///".data <+: rest) ∧ "//".data <+: rest then
              match parseAuthority (splitAuthority rest).1 with
              | .error e => .error (.authority e)
              | .ok a => .ok (some a, (splitAuthority rest).2)
            else .ok (none, rest)
          match authority with
          | .error e => .error e
          | .ok (authority, path) =>
              match unescape path with
              | .error e => .error (.escape e)
              | .ok path => .ok ⟨scheme, [], authority, path, forceQuery, rawQuery, []⟩

/- `url.Parse(rawURL)`: cut off the fragment, parse the rest, then unescape the fragment. -/
def urlParse (raw : List Char) : Except UrlError (URL α) :=
  match parse parseAuthority (cut '#' raw).1 with
  | .error e => .error e
  | .ok url =>
      match (cut '#' raw).2 with
      | none | some [] => .ok url
      | some frag =>
          match unescape frag with
          | .error e => .error (.escape e)
          | .ok fragment => .ok { url with fragment }

end Url

end Kit

------------------------------------------------------------
-- Where Cut Splits, and Bad Escapes
------------------------------------------------------------

namespace Kit

namespace Url

variable {α : Type} (parseAuthority : List Char → Except String α)

@[simp]
theorem cut_nil
    (sep : Char) :
    cut sep [] = ([], none) :=
  rfl

theorem cut_cons
    (sep c : Char)
    (s : List Char) :
    cut sep (c :: s) =
      if c = sep then ([], some s) else (c :: (cut sep s).1, (cut sep s).2) :=
  rfl

/- A prefix without the separator is kept whole. -/
theorem cut_append_of_not_mem
    {sep : Char}
    {x : List Char}
    (h : sep ∉ x)
    (y : List Char) :
    cut sep (x ++ y) = (x ++ (cut sep y).1, (cut sep y).2) := by
  induction x with
  | nil => rfl
  | cons c x ih =>
      have hc : c ≠ sep := fun hEq => h (hEq ▸ List.mem_cons_self c x)
      rw [List.cons_append, cut_cons, if_neg hc, ih (fun hm => h (List.mem_cons_of_mem c hm))]
      rfl

/- Past text without the separator, `cut` stops at the separator that follows. -/
theorem cut_append_cons_of_not_mem
    {sep : Char}
    {u : List Char}
    (h : sep ∉ u)
    (v : List Char) :
    cut sep (u ++ sep :: v) = (u, some v) := by
  rw [cut_append_of_not_mem h, cut_cons, if_pos rfl, List.append_nil]

/- A `?` after text without one, with more text after it, starts the query. -/
theorem splitQuery_of_mid
    {X Q : List Char}
    (hX : '?' ∉ X)
    (hQ : Q ≠ []) :
    splitQuery (X ++ '?' :: Q) = (X, false, Q) := by
  unfold splitQuery
  rw [if_neg, cut_append_cons_of_not_mem hX]
  · rfl
  rintro ⟨hLast, hCount⟩
  have hNone : '?' ∉ Q := by
    rw [List.count_append, List.count_cons_self, List.count_eq_zero.mpr hX] at hCount
    exact List.count_eq_zero.mp (by omega)
  obtain ⟨c, Q', rfl⟩ := List.exists_cons_of_ne_nil hQ
  rw [List.getLast?_append_cons, List.getLast?_cons_cons] at hLast
  exact hNone (List.mem_of_getLast?_eq_some hLast)

/- After `//`, `splitAuthority` cuts what follows at its first `/`. -/
theorem splitAuthority_slashes
    (X : List Char) :
    splitAuthority ("//".data ++ X) = ((cut '/' X).1, ((cut '/' X).2.map ('/' :: ·)).getD []) :=
  rfl

/- An authority without `/` ends at the `/` that follows it. -/
theorem splitAuthority_of_not_mem
    {A : List Char}
    (h : '/' ∉ A)
    (P : List Char) :
    splitAuthority ("//".data ++ A ++ '/' :: P) = (A, '/' :: P) := by
  rw [List.append_assoc, splitAuthority_slashes, cut_append_cons_of_not_mem h]
  rfl

/- A path without `%` unescapes to itself. -/
theorem unescape_of_not_mem
    (s : List Char)
    (h : '%' ∉ s) :
    unescape s = .ok s := by
  induction s using unescape.induct with
  | case1 => rfl
  | case2 => simp at h
  | case3 => simp at h
  | case4 => simp at h
  | case5 c s hLong hc ih =>
      rw [unescape, ih (fun hm => h (List.mem_cons_of_mem c hm))]
      · rfl
      · exact hLong
      · exact hc

/-
  A URL `scheme://authority/path?query` whose authority the check
  accepts and whose path unescapes parses to them.
-/
theorem parse_of_path
    {raw scheme rest X Q authority path path' : List Char}
    {a : α}
    (hCtl : raw.any isCTL = false)
    (hScheme : getScheme raw = .ok (scheme, rest))
    (hNonempty : scheme ≠ [])
    (hSplit : splitQuery rest = (X, false, Q))
    (hSlash : "//".data <+: X)
    (hAuthority : splitAuthority X = (authority, path))
    (ha : parseAuthority authority = .ok a)
    (hPath : unescape path = .ok path') :
    parse parseAuthority raw = .ok ⟨scheme.map Char.toLower, [], some a, path', false, Q, []⟩ := by
  have hHead : X.head? = some '/' := by
    obtain ⟨t, rfl⟩ := hSlash
    rfl
  have hLower : scheme.map Char.toLower ≠ [] := by simpa using hNonempty
  unfold parse
  simp only [hCtl, hScheme, hSplit, Bool.false_eq_true, if_false, hHead, ne_eq,
    not_true_eq_false, false_and]
  rw [if_pos ⟨.inl hLower, hSlash⟩, hAuthority]
  simp only [ha, hPath]

/- Without a fragment, `Parse` is `parse`. -/
theorem urlParse_of_not_mem
    {raw : List Char}
    (h : '#' ∉ raw) :
    urlParse parseAuthority raw = parse parseAuthority raw := by
  have hCut : cut '#' raw = (raw, none) := by
    simpa using cut_append_of_not_mem h []
  unfold urlParse
  rw [hCut]
  split <;> simp_all

end Url

end Kit
