import TreeAssembly.Script

/-!
# The line format of event scripts

A script is read line by line.  The lines are those of the usual text convention: a line
ends at a line feed, a carriage return just before the line feed belongs to the line break,
and a final line feed does not start another, empty line.  `Script.lines` splits a text so;
three laws pin it down, since every text is a last line without a line feed or a first line
followed by a line break: `lines_of_no_lineFeed`, `lines_append_lineFeed` and
`lines_append_crlf`.

Each line is then trimmed of blanks, skipped when it is empty or a comment, and otherwise
decoded as one event.  Reading stops at the first line that is neither skipped nor an event
(`Script.malformed`), and reports its number, counted from 1 over *all* lines, skipped ones
included.  `readLines_eq` says this as one equation by induction over the numbered lines:
the first malformed line is `List.findIdx?` of the trimmed lines, and without one the events
are the decoded lines that are not skipped, in order.  None of this depends on how a line is
decoded, so it is stated for every decoder.

## Main statements

* `lines_of_no_lineFeed`, `lines_append_lineFeed`, `lines_append_crlf`: the line split.
* `readLines_eq`: what reading numbered lines returns.
* `readWith_eq_ok_iff`, `readWith_eq_error_iff`: when reading a text succeeds, and which
  line it reports when it fails.
* `read_accepts_line_format`: the whole format, as the line laws and what reading returns
  for every decoder and every text.
-/

namespace TreeAssembly
namespace Script

/-! ## Lines -/

/-- A carriage return at the end of a line belongs to the line break. -/
theorem dropReturn_append_return (a : String) : dropReturn (a ++ "\r") = a := by
  have hends : (a ++ "\r").endsWith "\r" = true := by
    simp [← String.endsWith_toSlice, String.toList_append]
  rw [dropReturn, if_pos hends, String.toList_append]
  simp

/-- A line that does not end in a carriage return keeps all of its characters. -/
theorem dropReturn_of_getLast? {a : String} (h : a.toList.getLast? ≠ some '\r') :
    dropReturn a = a := by
  have hends : a.endsWith "\r" = false := by
    simpa [← String.endsWith_toSlice, List.singleton_suffix_iff_getLast?_eq_some] using h
  rw [dropReturn, if_neg (by simp [hends])]

/-- A text without a line feed is one line, or none when it is empty. -/
theorem lines_of_no_lineFeed {a : String} (h : '\n' ∉ a.toList) :
    lines a = if a = "" then [] else [a] := by
  unfold lines
  rw [List.splitOn_eq_singleton h]
  by_cases ha : a = "" <;> simp [ha]

/-- A line feed ends the first line, and the text after it is read on its own; the first
line is taken without the carriage return before the line feed, if any. -/
theorem lines_append_lineFeed_dropReturn {a : String} (h : '\n' ∉ a.toList) (rest : String) :
    lines (a ++ "\n" ++ rest) = dropReturn a :: lines rest := by
  have hsplit : (a ++ "\n" ++ rest).toList = a.toList ++ '\n' :: rest.toList := by
    simp [String.toList_append]
  unfold lines
  rw [hsplit, List.splitOn_append_cons_self_of_not_mem h]
  -- the pieces after the first are those of `rest`, of which there is at least one
  obtain ⟨p, ps, hps⟩ := List.exists_cons_of_ne_nil (List.splitOn_ne_nil '\n' rest.toList)
  simp [hps]

/-- **A line ended by a line feed alone.** -/
theorem lines_append_lineFeed {a : String} (h : '\n' ∉ a.toList)
    (hr : a.toList.getLast? ≠ some '\r') (rest : String) :
    lines (a ++ "\n" ++ rest) = a :: lines rest := by
  rw [lines_append_lineFeed_dropReturn h, dropReturn_of_getLast? hr]

/-- **A line ended by a carriage return and a line feed.** -/
theorem lines_append_crlf {a : String} (h : '\n' ∉ a.toList) (rest : String) :
    lines (a ++ "\r\n" ++ rest) = a :: lines rest := by
  have hcr : '\n' ∉ (a ++ "\r").toList := by simpa [String.toList_append] using h
  have hsplit : a ++ "\r\n" ++ rest = a ++ "\r" ++ "\n" ++ rest := by
    simp only [String.append_assoc]
    rfl
  rw [hsplit, lines_append_lineFeed_dropReturn hcr, dropReturn_append_return]

/-! ## Reading -/

/-- A trimmed line that is neither skipped nor an event of `decode`. -/
def malformed (decode : String → Option Event) (line : String) : Bool :=
  !skipped line && (decode line).isNone

theorem skipped_iff (line : String) :
    skipped line = true ↔ line = "" ∨ line.toList.head? = some '#' := by
  have hprefix : ['#'] <+: line.toList ↔ line.toList.head? = some '#' := by
    cases line.toList <;> simp [eq_comm]
  simp [skipped, hprefix]

section
variable (decode : String → Option Event)

/-- **Reading numbered lines** returns the events of the lines that are not skipped, in
order, or the number of the first malformed line. -/
theorem readLines_eq (ls : List String) (k : Nat) :
    readLines decode (ls.zipIdx k) =
      ((ls.map Text.trim).findIdx? (malformed decode)).elim
        (.ok (((ls.map Text.trim).filter (!skipped ·)).filterMap decode))
        (fun j => .error (k + j)) := by
  induction ls generalizing k with
  | nil => rfl
  | cons l ls ih =>
    have hshift : ∀ j, k + 1 + j = k + (j + 1) := fun j => by omega
    rw [List.zipIdx_cons, readLines]
    rcases hs : skipped (Text.trim l)
    · rcases hd : decode (Text.trim l) with _ | e
      · -- the first line is malformed
        simp [malformed, hs, hd, List.findIdx?_cons]
      · -- the first line holds the event `e`
        have hm : malformed decode (Text.trim l) = false := by simp [malformed, hs, hd]
        rw [if_neg (by simp), ih (k + 1), List.map_cons, List.findIdx?_cons, if_neg (by simp [hm])]
        rcases (ls.map Text.trim).findIdx? (malformed decode) with _ | j
        · simp [hs, hd, Except.map]
        · simp [hshift, Except.map]
    · -- the first line is skipped
      have hm : malformed decode (Text.trim l) = false := by simp [malformed, hs]
      rw [if_pos rfl, ih (k + 1), List.map_cons, List.findIdx?_cons, if_neg (by simp [hm])]
      rcases (ls.map Text.trim).findIdx? (malformed decode) with _ | j
      · simp [hs]
      · simp [hshift]

/-- The first index whose element satisfies `p`, said with optional look-ups. -/
theorem findIdx?_eq_some_iff_getElem? {α : Type} {L : List α} {p : α → Bool} {j : Nat} :
    L.findIdx? p = some j ↔
      ∃ l, L[j]? = some l ∧ p l = true ∧ ∀ i l', i < j → L[i]? = some l' → p l' = false := by
  rw [List.findIdx?_eq_some_iff_getElem]
  constructor
  · rintro ⟨hj, hp, hbefore⟩
    refine ⟨_, List.getElem?_eq_getElem hj, hp, fun i l' hi hl' => ?_⟩
    rw [List.getElem?_eq_getElem (by omega), Option.some.injEq] at hl'
    simpa [← hl'] using hbefore i hi
  · rintro ⟨l, hl, hp, hbefore⟩
    obtain ⟨hj, rfl⟩ := List.getElem?_eq_some_iff.mp hl
    refine ⟨hj, hp, fun i hi => ?_⟩
    simpa using hbefore i _ hi (List.getElem?_eq_getElem (by omega))

/-- Reading succeeds exactly when no trimmed line is malformed. -/
theorem readWith_eq_ok_iff (text : String) (evs : List Event) :
    readWith decode text = .ok evs ↔
      (∀ l ∈ (lines text).map Text.trim, malformed decode l = false) ∧
        evs = (((lines text).map Text.trim).filter (!skipped ·)).filterMap decode := by
  rw [readWith, readLines_eq]
  rcases hfirst : ((lines text).map Text.trim).findIdx? (malformed decode) with _ | j
  · rw [List.findIdx?_eq_none_iff] at hfirst
    simp only [Option.elim, Except.ok.injEq]
    exact ⟨fun h => ⟨hfirst, h.symm⟩, fun h => h.2.symm⟩
  · -- a malformed line cannot be read past
    obtain ⟨hj, hbad, -⟩ := List.findIdx?_eq_some_iff_getElem.mp hfirst
    simp only [Option.elim, reduceCtorEq, false_iff, not_and]
    intro hall
    have hgood := hall _ (List.getElem_mem hj)
    rw [hbad] at hgood
    cases hgood

/-- Reading fails with the number, counted from 1, of the first malformed trimmed line. -/
theorem readWith_eq_error_iff (text : String) (n : Nat) :
    readWith decode text = .error n ↔
      ∃ j, ((lines text).map Text.trim).findIdx? (malformed decode) = some j ∧ n = j + 1 := by
  rw [readWith, readLines_eq]
  rcases ((lines text).map Text.trim).findIdx? (malformed decode) with _ | j
  · simp
  · simp only [Option.elim, Except.error.injEq, Option.some.injEq, exists_eq_left']
    omega

end

/-- **The line format of event scripts.**  The lines of a text are split at line feeds, a
carriage return before a line feed belonging to the break and a final line feed starting no
empty line; a trimmed line is skipped when it is empty or starts with `#`.  Whatever reads a
line into an event, reading a text with it succeeds exactly when no trimmed line is
malformed, that is, neither skipped nor an event, and then gives the events of the lines not
skipped, in order; otherwise it fails with `j + 1`, where `j` counts every line, skipped or
not, before the first malformed one. -/
theorem read_accepts_line_format (decode : String → Option Event) :
    (∀ a : String, '\n' ∉ a.toList → lines a = if a = "" then [] else [a]) ∧
    (∀ a rest : String, '\n' ∉ a.toList → a.toList.getLast? ≠ some '\r' →
      lines (a ++ "\n" ++ rest) = a :: lines rest) ∧
    (∀ a rest : String, '\n' ∉ a.toList → lines (a ++ "\r\n" ++ rest) = a :: lines rest) ∧
    (∀ line, skipped line = true ↔ line = "" ∨ line.toList.head? = some '#') ∧
    (∀ line, malformed decode line = true ↔ skipped line = false ∧ decode line = none) ∧
    ∀ text : String,
      (∀ evs, readWith decode text = .ok evs ↔
        (∀ l ∈ (lines text).map Text.trim, malformed decode l = false) ∧
          evs = (((lines text).map Text.trim).filter (!skipped ·)).filterMap decode) ∧
      (∀ n, readWith decode text = .error n ↔
        ∃ j l, ((lines text).map Text.trim)[j]? = some l ∧ malformed decode l = true ∧
          (∀ i l', i < j → ((lines text).map Text.trim)[i]? = some l' → malformed decode l' = false) ∧
          n = j + 1) := by
  refine ⟨fun a h => lines_of_no_lineFeed h, fun a rest h hr => lines_append_lineFeed h hr rest,
    fun a rest h => lines_append_crlf h rest, skipped_iff,
    fun line => by simp [malformed], fun text => ⟨readWith_eq_ok_iff decode text, fun n => ?_⟩⟩
  rw [readWith_eq_error_iff]
  constructor
  · rintro ⟨j, hj, rfl⟩
    obtain ⟨l, hl, hbad, hbefore⟩ := findIdx?_eq_some_iff_getElem?.mp hj
    exact ⟨j, l, hl, hbad, hbefore, rfl⟩
  · rintro ⟨j, l, hl, hbad, hbefore, rfl⟩
    exact ⟨j, findIdx?_eq_some_iff_getElem?.mpr ⟨l, hl, hbad, hbefore⟩, rfl⟩

/-- In the text `#`, line feed, `x`, the comment line is skipped and the second line, no
event, is reported as line 2; the first line ends at its line feed, with or without a
carriage return before it. -/
theorem read_accepts_line_format_comment :
    '\n' ∉ "#".toList ∧ "#".toList.getLast? ≠ some '\r' ∧ '\n' ∉ "x".toList ∧
      lines ("#" ++ "\n" ++ "x") = "#" :: lines "x" ∧
      lines ("#" ++ "\r\n" ++ "x") = "#" :: lines "x" ∧ lines "x" = ["x"] ∧
      read ("#" ++ "\n" ++ "x") = .error 2 := by
  have hhash : '\n' ∉ "#".toList := by decide
  have hx : '\n' ∉ "x".toList := by decide
  have hspec := read_accepts_line_format decodeLine
  have hlines := hspec.2.1 "#" "x" hhash (by decide)
  have hlast : lines "x" = ["x"] := by
    simpa using hspec.1 "x" hx
  refine ⟨hhash, by decide, hx, hlines, hspec.2.2.1 "#" "x" hhash, hlast, ?_⟩
  -- the first malformed trimmed line is the second one
  have htrimmed : (lines ("#" ++ "\n" ++ "x")).map Text.trim = ["#", "x"] := by
    rw [hlines, hlast]
    decide
  refine ((hspec.2.2.2.2.2 _).2 2).mpr ⟨1, "x", by rw [htrimmed]; rfl,
    by decide +kernel, fun i l' hi hl' => ?_, rfl⟩
  obtain rfl : i = 0 := by omega
  rw [htrimmed] at hl'
  cases hl'
  decide +kernel

end Script
end TreeAssembly
