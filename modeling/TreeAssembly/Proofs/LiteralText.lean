import TreeAssembly.Literal
import Mathlib.Data.List.Basic
import Mathlib.Data.List.Forall2
import Mathlib.Data.Nat.Digits.Defs

/-!
# Reading literal tokens

What `Literal.read` accepts, kind by kind, and what `templateText` takes out of a template
token, each against a grammar stated without the reader.

* The text of an integer is an optional `+` or `-` and one or more ASCII digits
  (`Literal.IntegerText`); its value is that of the digits in base ten (`Nat.ofDigits`).
  An `int` is read exactly when its text is such a numeral with a value in 32 bits, and a
  `long` when its text, less one trailing `l` or `L`, is one with a value in 64 bits.  A
  value out of range is never wrapped: the text is then malformed, and the fault quotes it
  whole.
* A `boolean` is true exactly when its text spells `true` up to the case of ASCII letters
  (`SpellsIgnoringCase`); a `string` keeps its text; `null` always fails.  Whatever is
  read has the type that its kind names.
* A template's text is what lies between its first two backticks.  The token is searched
  by byte offsets, and the search for the closing backtick resumes one byte past the
  opening one, which is a character boundary of every token.

## Main statements

* `Literal.readSigned_eq_some_iff`: the numerals, and the range check on their values.
* `Literal.read_accepts_literal_grammar`: what reading each kind accepts, and its faults.
* `templateText_eq_some_iff`, `templateText_eq_none_iff`: the text of a template token.
* `templateText_first_backtick_pair`: the two together, and the byte offset it resumes at.
-/

namespace TreeAssembly

/-! ## Digits -/

/-- The running value of a run of digits is its base-ten value, the last digit the units. -/
theorem Decimal.digitsValue_eq_ofDigits (ds : List Char) :
    Decimal.digitsValue ds = Nat.ofDigits 10 (ds.reverse.map fun c => c.toNat - '0'.toNat) := by
  rw [Decimal.digitsValue, List.foldl_eq_foldr_reverse, Nat.ofDigits_eq_foldr, List.foldr_map]
  congr 1
  funext c acc
  simp only [Nat.cast_id]
  omega

namespace Literal

/-- A run of one or more ASCII digits, and the number `n` it spells in base ten. -/
def DecimalDigits (ds : List Char) (n : Nat) : Prop :=
  ds ≠ [] ∧ (∀ c ∈ ds, c.isDigit) ∧
    n = Nat.ofDigits 10 (ds.reverse.map fun c => c.toNat - '0'.toNat)

/-- The text of an integer: an optional `+` or `-`, then one or more ASCII digits, with the
value it spells. -/
inductive IntegerText : List Char → Int → Prop
  | unsigned {ds : List Char} {n : Nat} : DecimalDigits ds n → IntegerText ds n
  | plus {ds : List Char} {n : Nat} : DecimalDigits ds n → IntegerText ('+' :: ds) n
  | minus {ds : List Char} {n : Nat} : DecimalDigits ds n → IntegerText ('-' :: ds) (-n)

theorem not_decimalDigits_cons {c : Char} (hc : c.isDigit = false) (ds : List Char) (n : Nat) :
    ¬ DecimalDigits (c :: ds) n := by
  rintro ⟨-, hall, -⟩
  simp [hall c (by simp)] at hc

theorem integerText_plus_iff {ds : List Char} {v : Int} :
    IntegerText ('+' :: ds) v ↔ ∃ n, DecimalDigits ds n ∧ (n : Int) = v := by
  constructor
  · intro h
    cases h with
    | unsigned h => exact absurd h (not_decimalDigits_cons (by decide) _ _)
    | plus h => exact ⟨_, h, rfl⟩
  · rintro ⟨n, h, rfl⟩
    exact .plus h

theorem integerText_minus_iff {ds : List Char} {v : Int} :
    IntegerText ('-' :: ds) v ↔ ∃ n, DecimalDigits ds n ∧ -(n : Int) = v := by
  constructor
  · intro h
    cases h with
    | unsigned h => exact absurd h (not_decimalDigits_cons (by decide) _ _)
    | minus h => exact ⟨_, h, rfl⟩
  · rintro ⟨n, h, rfl⟩
    exact .minus h

theorem integerText_unsigned_iff {ds : List Char} (hplus : ∀ rest, ds ≠ '+' :: rest)
    (hminus : ∀ rest, ds ≠ '-' :: rest) {v : Int} :
    IntegerText ds v ↔ ∃ n, DecimalDigits ds n ∧ (n : Int) = v := by
  constructor
  · intro h
    cases h with
    | unsigned h => exact ⟨_, h, rfl⟩
    | plus => exact absurd rfl (hplus _)
    | minus => exact absurd rfl (hminus _)
  · rintro ⟨n, h, rfl⟩
    exact .unsigned h

/-- A numeral ends in a digit. -/
theorem IntegerText.getLast?_isDigit {cs : List Char} {v : Int} (h : IntegerText cs v) :
    ∃ c, cs.getLast? = some c ∧ c.isDigit := by
  -- a sign stands before digits, so the last character is the last digit
  have hlast : ∀ {ds : List Char} {n : Nat}, DecimalDigits ds n →
      ∃ c, ds.getLast? = some c ∧ c.isDigit := by
    rintro ds n ⟨hne, hall, -⟩
    exact ⟨ds.getLast hne, List.getLast?_eq_some_getLast hne, hall _ (List.getLast_mem hne)⟩
  cases h with
  | unsigned h => exact hlast h
  | plus h => simpa [List.getLast?_cons, List.getLast?_eq_some_getLast h.1] using hlast h
  | minus h => simpa [List.getLast?_cons, List.getLast?_eq_some_getLast h.1] using hlast h

/-! ## Reading numerals -/

theorem readDigits_eq_some_iff {ds : List Char} {n : Nat} :
    readDigits ds = some n ↔ DecimalDigits ds n := by
  unfold readDigits DecimalDigits
  rw [Decimal.digitsValue_eq_ofDigits]
  by_cases hd : ds = []
  · simp [hd]
  by_cases hall : ∀ c ∈ ds, c.isDigit = true
  · rw [if_neg (by simp [hd, List.all_eq_true.2 hall])]
    exact ⟨fun h => ⟨hd, hall, (Option.some.inj h).symm⟩, fun h => by rw [h.2.2]⟩
  · rw [if_pos (by simpa [List.all_eq_true] using Or.inr hall)]
    simp [hall]

theorem readInteger_eq_some_iff {s : String} {v : Int} :
    readInteger s = some v ↔ IntegerText s.toList v := by
  unfold readInteger
  split
  · next ds hs =>
    simp only [hs, Option.map_eq_some_iff, integerText_plus_iff, readDigits_eq_some_iff]
    rfl
  · next ds hs =>
    simp [hs, integerText_minus_iff, Option.bind_eq_some_iff, readDigits_eq_some_iff]
  · next ds hplus hminus =>
    simp only [integerText_unsigned_iff hplus hminus, Option.map_eq_some_iff,
      readDigits_eq_some_iff]
    rfl

/-- **Signed numerals of `bits` bits.**  A text is read exactly when it is a numeral whose
value lies in `[-2^(bits-1), 2^(bits-1) - 1]`, and then to that value. -/
theorem readSigned_eq_some_iff {bits : Nat} {s : String} {v : Int} :
    readSigned bits s = some v ↔
      IntegerText s.toList v ∧ -2 ^ (bits - 1) ≤ v ∧ v ≤ 2 ^ (bits - 1) - 1 := by
  simp only [readSigned, Option.filter_eq_some_iff, readInteger_eq_some_iff, Nat.pow_eq,
    Nat.cast_pow, Nat.cast_ofNat, Bool.and_eq_true, decide_eq_true_eq]
  constructor
  · rintro ⟨h, hlo, hhi⟩
    exact ⟨h, hlo, by omega⟩
  · rintro ⟨h, hlo, hhi⟩
    exact ⟨h, hlo, by omega⟩

/-- A text is no numeral of `bits` bits exactly when it spells no value in range. -/
theorem readSigned_eq_none_iff {bits : Nat} {s : String} :
    readSigned bits s = none ↔
      ¬ ∃ n : Int, IntegerText s.toList n ∧ -2 ^ (bits - 1) ≤ n ∧ n ≤ 2 ^ (bits - 1) - 1 := by
  simp only [Option.eq_none_iff_forall_ne_some, ne_eq, readSigned_eq_some_iff, not_exists]

/-! ## The suffix of a `long` -/

theorem endsWith_singleton_iff (s : String) (c : Char) :
    s.endsWith (String.singleton c) = true ↔ s.toList.getLast? = some c := by
  simp [← String.endsWith_toSlice, List.singleton_suffix_iff_getLast?_eq_some]

theorem dropSuffix_append_singleton (body : String) (c : Char) :
    dropSuffix (body ++ String.singleton c) c = body := by
  rw [dropSuffix, if_pos ((endsWith_singleton_iff _ _).2 (by simp))]
  simp

theorem dropSuffix_append_toUpper (body : String) {c : Char} (hc : c.toUpper ≠ c) :
    dropSuffix (body ++ String.singleton c.toUpper) c = body := by
  rw [dropSuffix, if_neg (by simp [endsWith_singleton_iff, hc]),
    if_pos ((endsWith_singleton_iff _ _).2 (by simp))]
  simp

theorem dropSuffix_of_getLast? {s : String} {c : Char} (h : s.toList.getLast? ≠ some c)
    (hu : s.toList.getLast? ≠ some c.toUpper) : dropSuffix s c = s := by
  rw [dropSuffix, if_neg (by simpa [endsWith_singleton_iff] using h),
    if_neg (by simpa [endsWith_singleton_iff] using hu)]

/-- A text that ends in `d` is its characters but the last, then `d`. -/
theorem eq_ofList_dropLast_append {s : String} {d : Char}
    (h : s.endsWith (String.singleton d) = true) :
    s = String.ofList s.toList.dropLast ++ String.singleton d := by
  rw [endsWith_singleton_iff] at h
  rw [← String.toList_inj, String.toList_append]
  simpa using (List.dropLast_append_getLast? _ h).symm

/-- At most one suffix is dropped: the text is what is left, or that with `c` or its
capital after it. -/
theorem dropSuffix_cases (s : String) (c : Char) :
    s = dropSuffix s c ∨ s = dropSuffix s c ++ String.singleton c ∨
      s = dropSuffix s c ++ String.singleton c.toUpper := by
  unfold dropSuffix
  split
  · next h => exact .inr (.inl (eq_ofList_dropLast_append h))
  · split
    · next h => exact .inr (.inr (eq_ofList_dropLast_append h))
    · exact .inl rfl

/-- **The text of a `long`.**  Dropping the suffix leaves a numeral exactly when the text is
a numeral, alone or followed by one `l` or one `L`. -/
theorem integerText_dropSuffix_iff {t : String} {v : Int} :
    IntegerText (dropSuffix t 'l').toList v ↔
      ∃ body, (t = body ∨ t = body ++ "l" ∨ t = body ++ "L") ∧ IntegerText body.toList v := by
  have hsmall : String.singleton 'l' = "l" := rfl
  have hcapital : String.singleton 'l'.toUpper = "L" := rfl
  constructor
  · intro h
    have hcases := dropSuffix_cases t 'l'
    rw [hsmall, hcapital] at hcases
    exact ⟨_, hcases, h⟩
  · rintro ⟨body, ht, h⟩
    -- the numeral ends in a digit, so at most the one letter after it is dropped
    have hbody : dropSuffix t 'l' = body := by
      obtain ⟨d, hd, hdigit⟩ := h.getLast?_isDigit
      have hl : d ≠ 'l' := by rintro rfl; exact absurd hdigit (by decide)
      have hL : d ≠ 'L' := by rintro rfl; exact absurd hdigit (by decide)
      have hup : 'l'.toUpper = 'L' := rfl
      -- the literal suffixes are the singletons the lemmas about `dropSuffix` name
      rcases ht with rfl | rfl | rfl
      · exact dropSuffix_of_getLast? (by simpa [hd] using hl) (by simpa [hd, hup] using hL)
      · rw [← hsmall]
        exact dropSuffix_append_singleton body 'l'
      · rw [← hcapital]
        exact dropSuffix_append_toUpper body (by decide)
    rwa [hbody]

/-- Numerals of a `long`'s text with a property of their value, by the text's forms. -/
theorem exists_integerText_dropSuffix_iff {t : String} {P : Int → Prop} :
    (∃ n, IntegerText (dropSuffix t 'l').toList n ∧ P n) ↔
      ∃ body, (t = body ∨ t = body ++ "l" ∨ t = body ++ "L") ∧
        ∃ n, IntegerText body.toList n ∧ P n := by
  constructor
  · rintro ⟨n, h, hp⟩
    obtain ⟨body, ht, hb⟩ := integerText_dropSuffix_iff.1 h
    exact ⟨body, ht, n, hb, hp⟩
  · rintro ⟨body, ht, n, hb, hp⟩
    exact ⟨n, integerText_dropSuffix_iff.2 ⟨body, ht, hb⟩, hp⟩

/-! ## Letter case -/

/-- Lower-casing moves the ASCII capitals 32 code points on and keeps every other
character. -/
theorem toNat_toLower (c : Char) :
    c.toLower.toNat = if 65 ≤ c.toNat ∧ c.toNat ≤ 90 then c.toNat + 32 else c.toNat := by
  have hc : c.toNat = c.val.toNat := rfl
  have hA : 'A'.val.toNat = 65 := rfl
  have hZ : 'Z'.val.toNat = 90 := rfl
  unfold Char.toLower
  split
  · next h =>
    simp only [ge_iff_le, UInt32.le_iff_toNat_le] at h
    rw [if_pos (by omega)]
    show (c.val + ('a'.val - 'A'.val)).toNat = _
    simp [UInt32.toNat_add]
    omega
  · next h =>
    simp only [ge_iff_le, UInt32.le_iff_toNat_le] at h
    rw [if_neg (by omega)]

theorem isLower_iff_toNat {d : Char} : d.isLower ↔ 97 ≤ d.toNat ∧ d.toNat ≤ 122 := by
  show (d.val ≥ 'a'.val && d.val ≤ 'z'.val) = true ↔ _
  simp [UInt32.le_iff_toNat_le, ← Char.toNat_val]

/-- Upper-casing a small ASCII letter moves it 32 code points back. -/
theorem toNat_toUpper_of_isLower {d : Char} (hd : d.isLower) :
    d.toUpper.toNat = d.toNat - 32 := by
  have hdn : d.toNat = d.val.toNat := rfl
  have ha : 'a'.val.toNat = 97 := rfl
  have hz : 'z'.val.toNat = 122 := rfl
  have hrange := isLower_iff_toNat.1 hd
  unfold Char.toUpper
  rw [dif_pos (by simp only [UInt32.le_iff_toNat_le]; exact ⟨by omega, by omega⟩)]
  show (d.val + ('A'.val - 'a'.val)).toNat = _
  simp [UInt32.toNat_add]
  omega

/-- A character lower-cases to a small ASCII letter exactly when it is that letter or its
capital. -/
theorem toLower_eq_iff {c d : Char} (hd : d.isLower) : c.toLower = d ↔ c = d ∨ c = d.toUpper := by
  have hrange := isLower_iff_toNat.1 hd
  rw [← Char.toNat_inj, ← Char.toNat_inj, ← Char.toNat_inj, toNat_toLower,
    toNat_toUpper_of_isLower hd]
  split <;> omega

/-- `t` spells the lower-case `word` up to the case of ASCII letters: each character is the
letter of `word` at its place or that letter's capital. -/
def SpellsIgnoringCase (t word : String) : Prop :=
  List.Forall₂ (fun c d => c = d ∨ c = d.toUpper) t.toList word.toList

theorem map_toLower_eq_iff :
    ∀ {cs ws : List Char}, (∀ d ∈ ws, d.isLower) →
      (cs.map Char.toLower = ws ↔ List.Forall₂ (fun c d => c = d ∨ c = d.toUpper) cs ws)
  | [], [], _ => by simp
  | [], _ :: _, _ => by simp
  | _ :: _, [], _ => by simp
  | c :: cs, d :: ws, hw => by
    have ih := @map_toLower_eq_iff cs ws fun d' h => hw d' (List.mem_cons_of_mem _ h)
    simp [toLower_eq_iff (hw d List.mem_cons_self), ih]

/-! ## Reading each kind -/

section
variable {t : String} {loc : Location}

/-- An `int` is read to `v` exactly when its text is a 32-bit numeral of `v`'s value. -/
theorem read_int_eq_ok_iff {v : Int32} :
    read .int t loc = .ok (.int v) ↔ readSigned 32 t = some v.toInt := by
  unfold read
  dsimp only
  split
  · next n hn =>
    obtain ⟨-, hlo, hhi⟩ := readSigned_eq_some_iff.1 hn
    rw [hn]
    constructor
    · intro h
      cases h
      rw [Int32.toInt_ofInt_of_le (by simpa using hlo) (by simp at hhi ⊢; omega)]
    · intro h
      cases h
      rw [Int32.ofInt_toInt]
  · next hn => simp [hn]

theorem read_int_eq_error (h : readSigned 32 t = none) :
    read .int t loc = .error (.source (.malformedNumber .int t) loc) := by
  unfold read
  dsimp only
  rw [h]

/-- A `long` is read to `v` exactly when its text less the suffix is a 64-bit numeral of
`v`'s value. -/
theorem read_long_eq_ok_iff {v : Int64} :
    read .long t loc = .ok (.long v) ↔ readSigned 64 (dropSuffix t 'l') = some v.toInt := by
  unfold read
  dsimp only
  split
  · next n hn =>
    obtain ⟨-, hlo, hhi⟩ := readSigned_eq_some_iff.1 hn
    rw [hn]
    constructor
    · intro h
      cases h
      rw [Int64.toInt_ofInt_of_le (by simpa using hlo) (by simp at hhi ⊢; omega)]
    · intro h
      cases h
      rw [Int64.ofInt_toInt]
  · next hn => simp [hn]

theorem read_long_eq_error (h : readSigned 64 (dropSuffix t 'l') = none) :
    read .long t loc = .error (.source (.malformedNumber .long t) loc) := by
  unfold read
  dsimp only
  rw [h]

theorem read_boolean_eq_ok_iff {b : Bool} :
    read .boolean t loc = .ok (.boolean b) ↔ (b = true ↔ SpellsIgnoringCase t "true") := by
  have hlower : ∀ d ∈ "true".toList, d.isLower := by
    intro d hd
    simp only [show "true".toList = ['t', 'r', 'u', 'e'] by simp, List.mem_cons, List.not_mem_nil,
      or_false] at hd
    rcases hd with rfl | rfl | rfl | rfl <;> decide
  unfold read SpellsIgnoringCase
  dsimp only
  rw [← map_toLower_eq_iff hlower, Except.ok.injEq, Literal.boolean.injEq]
  cases b <;> simp

/-- Whatever is read has the type that its kind names. -/
theorem ofName?_name_ty_of_read {kind : LiteralKind} {lit : Literal}
    (h : read kind t loc = .ok lit) : LiteralKind.ofName? lit.ty.name = some kind := by
  unfold read at h
  cases kind with
  | int | long | float | double =>
    dsimp only at h
    split at h
    · cases h
      rfl
    · cases h
  | string | boolean =>
    cases h
    rfl
  | null => cases h

end

/-- **Literal tokens, kind by kind.**  An `int` is read to `v` exactly when its text is an
optional sign and one or more ASCII digits spelling `v`'s value, which must lie in
`[-2^31, 2^31 - 1]`; a `long` likewise in `[-2^63, 2^63 - 1]` once one trailing `l` or `L`
is dropped, so that `5LL`, `L` and `5lL` are no `long`s.  Any other text of either kind is
the malformed-number fault that quotes the text.  A `boolean` is true exactly when its text
spells `true` up to letter case, a `string` is its text, `null` always fails at the source,
and whatever is read has the type its kind names. -/
theorem read_accepts_literal_grammar (t : String) (loc : Location) :
    (∀ v : Int32, read .int t loc = .ok (.int v) ↔
      ∃ n : Int, IntegerText t.toList n ∧ -2 ^ 31 ≤ n ∧ n ≤ 2 ^ 31 - 1 ∧ v.toInt = n) ∧
    ((¬ ∃ n : Int, IntegerText t.toList n ∧ -2 ^ 31 ≤ n ∧ n ≤ 2 ^ 31 - 1) →
      read .int t loc = .error (.source (.malformedNumber .int t) loc)) ∧
    (∀ v : Int64, read .long t loc = .ok (.long v) ↔
      ∃ body, (t = body ∨ t = body ++ "l" ∨ t = body ++ "L") ∧
        ∃ n : Int, IntegerText body.toList n ∧ -2 ^ 63 ≤ n ∧ n ≤ 2 ^ 63 - 1 ∧ v.toInt = n) ∧
    ((¬ ∃ body, (t = body ∨ t = body ++ "l" ∨ t = body ++ "L") ∧
        ∃ n : Int, IntegerText body.toList n ∧ -2 ^ 63 ≤ n ∧ n ≤ 2 ^ 63 - 1) →
      read .long t loc = .error (.source (.malformedNumber .long t) loc)) ∧
    (∀ b : Bool, read .boolean t loc = .ok (.boolean b) ↔ (b = true ↔ SpellsIgnoringCase t "true")) ∧
    read .string t loc = .ok (.string t) ∧
    read .null t loc = .error (.source .nullValue loc) ∧
    (∀ kind lit, read kind t loc = .ok lit → LiteralKind.ofName? lit.ty.name = some kind) := by
  -- a value of a fixed width is in range by its type, so it is the numeral's value exactly
  have hvalue : ∀ {bits : Nat} {s : String} {x : Int},
      readSigned bits s = some x ↔
        ∃ n : Int, IntegerText s.toList n ∧ -2 ^ (bits - 1) ≤ n ∧ n ≤ 2 ^ (bits - 1) - 1 ∧
          x = n := by
    intro bits s x
    rw [readSigned_eq_some_iff]
    exact ⟨fun ⟨h, hlo, hhi⟩ => ⟨x, h, hlo, hhi, rfl⟩, fun ⟨n, h, hlo, hhi, hx⟩ => hx ▸ ⟨h, hlo, hhi⟩⟩
  refine ⟨fun v => ?_, fun hno => read_int_eq_error (readSigned_eq_none_iff.2 hno),
    fun v => ?_, fun hno => read_long_eq_error (readSigned_eq_none_iff.2 ?_),
    fun b => read_boolean_eq_ok_iff, rfl, rfl, fun kind lit h => ofName?_name_ty_of_read h⟩
  · exact read_int_eq_ok_iff.trans hvalue
  · rw [read_long_eq_ok_iff, hvalue, exists_integerText_dropSuffix_iff]
  · rwa [exists_integerText_dropSuffix_iff]

/-- One past the largest `int` is no `int`, rather than `-2^31`, and `5LL` is no `long`: only
one suffix letter is dropped. -/
theorem read_accepts_literal_grammar_overflow :
    (¬ ∃ n : Int, IntegerText "2147483648".toList n ∧ -2 ^ 31 ≤ n ∧ n ≤ 2 ^ 31 - 1) ∧
    read .int "2147483648" ⟨"a.bal", 1⟩ =
      .error (.source (.malformedNumber .int "2147483648") ⟨"a.bal", 1⟩) ∧
    (¬ ∃ body, ("5LL" = body ∨ "5LL" = body ++ "l" ∨ "5LL" = body ++ "L") ∧
        ∃ n : Int, IntegerText body.toList n ∧ -2 ^ 63 ≤ n ∧ n ≤ 2 ^ 63 - 1) ∧
    read .long "5LL" ⟨"a.bal", 1⟩ = .error (.source (.malformedNumber .long "5LL") ⟨"a.bal", 1⟩) := by
  have hint : ¬ ∃ n : Int, IntegerText "2147483648".toList n ∧ -2 ^ 31 ≤ n ∧ n ≤ 2 ^ 31 - 1 := by
    rintro ⟨n, h, -, hhi⟩
    have hread : readInteger "2147483648" = some 2147483648 := by decide +kernel
    rw [← readInteger_eq_some_iff, hread, Option.some.injEq] at h
    omega
  -- the text less one `L` is `5L`, which is no numeral
  have hlong : ¬ ∃ body, ("5LL" = body ∨ "5LL" = body ++ "l" ∨ "5LL" = body ++ "L") ∧
      ∃ n : Int, IntegerText body.toList n ∧ -2 ^ 63 ≤ n ∧ n ≤ 2 ^ 63 - 1 := by
    rw [← exists_integerText_dropSuffix_iff]
    rintro ⟨n, h, -⟩
    have hread : readInteger (dropSuffix "5LL" 'l') = none := by decide +kernel
    rw [← readInteger_eq_some_iff, hread] at h
    cases h
  have hspec := read_accepts_literal_grammar "2147483648" ⟨"a.bal", 1⟩
  have hspec' := read_accepts_literal_grammar "5LL" ⟨"a.bal", 1⟩
  exact ⟨hint, hspec.2.1 hint, hlong, hspec'.2.2.2.1 hlong⟩

end Literal

/-! ## Template text -/

/-- One byte past an opening backtick is the position after it. -/
theorem pos_inc_eq_next {token : String} {opening : token.Pos} {p u : String}
    (hs : opening.Splits p (String.singleton backtick ++ u)) (hv) :
    token.pos opening.offset.inc hv = opening.next hs.ne_endPos_of_singleton := by
  have hget : opening.get hs.ne_endPos_of_singleton = backtick := hs.next.get_eq_of_singleton
  ext
  simp [hget, utf8Size_backtick]

/-- The rest of a token after its opening backtick. -/
theorem copy_sliceFrom_inc {token : String} {opening : token.Pos} {p u : String}
    (hs : opening.Splits p (String.singleton backtick ++ u)) (hv) :
    (token.sliceFrom (token.pos opening.offset.inc hv)).copy = u := by
  rw [pos_inc_eq_next hs]
  exact hs.next.copy_sliceFrom_eq

/-- The text of a slice up to its first backtick. -/
theorem map_find?_backtick_eq_some_iff {rest : String.Slice} {t : String} :
    ((rest.find? backtick).map fun closing => (rest.sliceTo closing).copy) = some t ↔
      ∃ s, rest.copy = t ++ String.singleton backtick ++ s ∧ backtick ∉ t.toList := by
  rw [Option.map_eq_some_iff]
  constructor
  · rintro ⟨closing, hfind, rfl⟩
    obtain ⟨t, s, hs, hnot⟩ := String.Slice.find?_char_eq_some_iff_splits.1 hfind
    refine ⟨s, ?_, ?_⟩
    · rw [hs.copy_sliceTo_eq, hs.eq_append, String.append_assoc]
    · rwa [hs.copy_sliceTo_eq]
  · rintro ⟨s, hcopy, hnot⟩
    rw [String.append_assoc] at hcopy
    have hs := String.Slice.Pos.splits_ofEqAppend hcopy
    exact ⟨_, String.Slice.find?_char_eq_some_iff_splits.2 ⟨t, s, hs, hnot⟩, hs.copy_sliceTo_eq⟩

/-- The first backtick of a token stands right after a prefix free of backticks. -/
theorem find?_backtick_of_eq_append {token p u : String}
    (h : token = p ++ (String.singleton backtick ++ u)) (hp : backtick ∉ p.toList) :
    token.find? backtick = some (String.Pos.ofEqAppend h) :=
  String.find?_char_eq_some_iff_splits.2 ⟨p, u, String.Pos.splits_ofEqAppend h, hp⟩

/-- **The text of a template token** is what stands between its first two backticks. -/
theorem templateText_eq_some_iff {token t : String} :
    templateText token = some t ↔
      ∃ p s, token = p ++ String.singleton backtick ++ t ++ String.singleton backtick ++ s ∧
        backtick ∉ p.toList ∧ backtick ∉ t.toList := by
  unfold templateText
  split
  · next hnone =>
    simp only [reduceCtorEq, false_iff, not_exists, not_and]
    intro p s htoken hp _
    rw [String.append_assoc, String.append_assoc, String.append_assoc] at htoken
    rw [find?_backtick_of_eq_append htoken hp] at hnone
    cases hnone
  · next opening hfind =>
    obtain ⟨p, u, hs, hp⟩ := String.find?_char_eq_some_iff_splits.1 hfind
    simp only
    rw [map_find?_backtick_eq_some_iff, copy_sliceFrom_inc hs]
    constructor
    · rintro ⟨s, rfl, ht⟩
      refine ⟨p, s, ?_, hp, ht⟩
      rw [hs.eq_append]
      simp only [String.append_assoc]
    · -- the first backtick is where the search found it, so the prefixes agree
      rintro ⟨p', s, htoken, hp', ht⟩
      rw [String.append_assoc, String.append_assoc, String.append_assoc] at htoken
      have hs' := String.Pos.splits_ofEqAppend htoken
      rw [find?_backtick_of_eq_append htoken hp', Option.some.injEq] at hfind
      subst hfind
      obtain ⟨-, hu⟩ := hs.eq hs'
      refine ⟨s, ?_, ht⟩
      rw [String.append_assoc]
      exact (String.append_right_inj _).1 hu

/-- **A template token is malformed exactly when it has fewer than two backticks.** -/
theorem templateText_eq_none_iff (token : String) :
    templateText token = none ↔ token.toList.count backtick < 2 := by
  unfold templateText
  split
  · next hnone =>
    have hno : backtick ∉ token.toList := by
      simpa [String.find?_eq_find?_toSlice] using hnone
    simp [List.count_eq_zero.2 hno]
  · next opening hfind =>
    obtain ⟨p, u, hs, hp⟩ := String.find?_char_eq_some_iff_splits.1 hfind
    -- the opening backtick is the first; a second one must be in the rest
    have hcount : token.toList.count backtick = u.toList.count backtick + 1 := by
      simp [hs.eq_append, String.toList_append, List.count_eq_zero.2 hp]
    simp only
    rw [Option.map_eq_none_iff, String.Slice.find?_eq_none_iff, String.Slice.contains_char_eq,
      copy_sliceFrom_inc hs, hcount, decide_eq_false_iff_not, ← List.count_eq_zero]
    omega

/-- **The text of a template token.**  It is the text between the first two backticks,
`None` exactly when there are fewer than two; and the search, made in bytes, resumes one
byte past the opening backtick, which is a character boundary of the token.  The closing
backtick is found as a position of the rest, so the text ends on a boundary too. -/
theorem templateText_first_backtick_pair (token : String) :
    (∀ t, templateText token = some t ↔
      ∃ p s, token = p ++ String.singleton backtick ++ t ++ String.singleton backtick ++ s ∧
        backtick ∉ p.toList ∧ backtick ∉ t.toList) ∧
    (templateText token = none ↔ token.toList.count backtick < 2) ∧
    ∀ opening : token.Pos, token.find? backtick = some opening →
      opening.offset.inc.IsValid token :=
  ⟨fun _ => templateText_eq_some_iff, templateText_eq_none_iff token,
    fun _ h => isValid_inc_of_find?_backtick h⟩

/-- In `é`, a backtick, `x` and a backtick, the text is `x`; the first backtick stands after
the two bytes of `é`, and the third byte starts a character. -/
theorem templateText_first_backtick_pair_accented :
    templateText "é`x`" = some "x" ∧
      ∃ opening : "é`x`".Pos, "é`x`".find? backtick = some opening ∧
        opening.offset.inc = ⟨3⟩ ∧ opening.offset.inc.IsValid "é`x`" := by
  have htoken : "é`x`" =
      "é" ++ (String.singleton backtick ++ ("x" ++ String.singleton backtick ++ "")) := by
    decide +kernel
  have hspec := templateText_first_backtick_pair "é`x`"
  have hfind := find?_backtick_of_eq_append htoken (by decide +kernel)
  refine ⟨(hspec.1 "x").2 ⟨"é", "", ?_, by decide +kernel, by decide +kernel⟩, _, hfind, ?_,
    hspec.2.2 _ hfind⟩
  · rw [htoken]
    simp only [String.append_assoc]
  · rw [(String.Pos.splits_ofEqAppend htoken).offset_eq_rawEndPos]
    decide +kernel

end TreeAssembly
