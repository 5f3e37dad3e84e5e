import Allotment.Proofs.Ledger.Table
import Allotment.Proofs.Text.Written
import Allotment.Text.Encoding

/-!
# A ledger that is written and read again

The registry keeps its table in memory and writes a copy of it to the ledger after every change.
This file says that the copy is exact: whoever reads the file and settles it has the same table.

* `Entry.Storable` — the entries that survive a file: a name that a line can hold, and numbers that a
  reader accepts;
* `readEntry_line` — **PROVED**: a storable entry is read back from its line;
* `read_write`, `entries_read_write`, `issues_read_write` — **PROVED**: storable entries are read back
  from a whole file, in order, and nothing is wrong with it;
* `parsed_of_mem_entries` — **PROVED**: what is read from any file at all has a name in normal form
  and no negative number;
* `storable_of_mem_entries` — **PROVED**: and it can be written and read again;
* `settle_read_write` — **PROVED**: a consistent table is settled from the file that describes it.
-/

namespace Allotment.Ledger

open Text (decimal trim OneLine Readable isSkippable)

/-- An entry that survives being written to a file. -/
structure Entry.Storable (e : Entry) : Prop where
  name : Registrant.Storable e.registrant
  nonneg : ∀ n ∈ e.numbers, 0 ≤ n
  readable : ∀ n ∈ e.numbers, Readable n

/-! ### The values of a line -/

theorem joinWith_eq_intercalate (mark : Char) (texts : List (List Char)) :
    joinWith mark texts = [mark].intercalate texts := by
  induction texts with
  | nil => rfl
  | cons t rest ih =>
    cases rest with
    | nil => simp [joinWith]
    | cons u more =>
      rw [joinWith, ih, List.intercalate_cons_cons]
      · simp
      · simp

/-- Values that are put together are cut apart again. -/
theorem splitOn_joinWith {numbers : List Int} (hne : numbers ≠ []) :
    (joinWith ',' (numbers.map decimal)).splitOn ',' = numbers.map decimal := by
  rw [joinWith_eq_intercalate]
  refine List.splitOn_intercalate ',' ?_ (by simpa using hne)
  intro text htext
  obtain ⟨n, -, rfl⟩ := List.mem_map.1 htext
  exact Text.not_mem_decimal (by decide)

theorem readNumbers_map {numbers : List Int} (h : ∀ n ∈ numbers, Readable n) :
    readNumbers (numbers.map decimal) = some numbers := by
  induction numbers with
  | nil => rfl
  | cons n rest ih =>
    have hn := Text.readInt_trim_decimal (h n List.mem_cons_self)
    have hrest := ih fun m hm => h m (List.mem_cons_of_mem n hm)
    simp only [List.map_cons, readNumbers, hn, hrest]

theorem readValues_numbers {e : Entry} (h : e.Storable) (lineNo : Option Int) :
    readValues e.registrant lineNo (e.numbers.map decimal) = .ok { e with lineNo } := by
  have hpos : (e.numbers.any fun n => decide (n < 0)) = false := by
    rw [List.any_eq_false]
    intro n hn
    have := h.nonneg n hn
    simp only [decide_eq_true_eq]
    omega
  have hread := readNumbers_map h.readable
  unfold readValues
  rw [if_neg (by simp [EntryOf.numbers]), hread]
  unfold EntryOf.numbers at hpos ⊢
  simp only [hpos]
  rfl

/-! ### A line -/

theorem mem_joinWith {numbers : List Int} {c : Char} (hc : c ∈ joinWith ',' (numbers.map decimal)) :
    c = ',' ∨ ∃ n ∈ numbers, c ∈ decimal n := by
  induction numbers with
  | nil => simp [joinWith] at hc
  | cons n rest ih =>
    cases rest with
    | nil => exact Or.inr ⟨n, List.mem_cons_self, hc⟩
    | cons m more =>
      rw [List.map_cons, List.map_cons, joinWith, List.mem_append, List.mem_cons] at hc
      · rcases hc with hc | rfl | hc
        · exact Or.inr ⟨n, List.mem_cons_self, hc⟩
        · exact Or.inl rfl
        · rcases ih (by rwa [List.map_cons]) with rfl | ⟨k, hk, hck⟩
          · exact Or.inl rfl
          · exact Or.inr ⟨k, List.mem_cons_of_mem n hk, hck⟩
      · simp

/-- The values of a line hold no end of a line. -/
theorem oneLine_joinWith (numbers : List Int) : OneLine (joinWith ',' (numbers.map decimal)) := by
  constructor
  · intro h
    rcases mem_joinWith h with h | ⟨n, -, h⟩
    · exact absurd h (by decide)
    · exact Text.not_mem_decimal (by decide) h
  · intro h
    rcases mem_joinWith h with h | ⟨n, -, h⟩
    · exact absurd h (by decide)
    · exact Text.not_mem_decimal (by decide) h

/-- The values of a line end with a digit. -/
theorem getLast?_joinWith {numbers : List Int} {c : Char}
    (h : (joinWith ',' (numbers.map decimal)).getLast? = some c) : Text.isBlank c = false := by
  rcases mem_joinWith (List.mem_of_getLast? h) with rfl | ⟨n, -, hc⟩
  · decide
  · exact Text.not_blank_of_mem_decimal hc

theorem joinWith_ne_nil {numbers : List Int} (hne : numbers ≠ []) :
    joinWith ',' (numbers.map decimal) ≠ [] := by
  intro h
  have hsplit := splitOn_joinWith hne
  rw [h, List.splitOn_nil] at hsplit
  cases numbers with
  | nil => exact hne rfl
  | cons n rest =>
    rw [List.map_cons, List.cons.injEq] at hsplit
    exact Text.decimal_ne_nil n hsplit.1.symm

theorem EntryOf.numbers_ne_nil {ν : Type} (e : EntryOf ν) : e.numbers ≠ [] := by simp [EntryOf.numbers]

namespace Entry.Storable

variable {e : Entry} (h : e.Storable)
include h

theorem trim_line : trim e.line = e.line := by
  rw [Entry.line_eq]
  exact Text.trim_marked h.name.trim h.name.ne_nil (joinWith_ne_nil e.numbers_ne_nil)
    (fun _ hc => getLast?_joinWith hc) '='

theorem not_skippable : isSkippable e.line = false := by
  rw [Entry.line_eq]
  exact Text.isSkippable_marked h.name.ne_nil h.name.no_comment '='

theorem oneLine : OneLine e.line := by
  obtain ⟨hn, hr⟩ := h.name.oneLine
  obtain ⟨hn', hr'⟩ := oneLine_joinWith e.numbers
  refine ⟨?_, ?_⟩ <;> simp [Entry.line_eq, *]

end Entry.Storable

/-- **An entry is read back from its line.** -/
theorem readEntry_line {e : Entry} (h : e.Storable) (lineNo : Option Int) :
    readEntry lineNo e.line = .ok { e with lineNo } := by
  have hname : String.ofList (Text.lower (trim e.registrant.toList)) = e.registrant := by
    rw [h.name.trim, h.name.lower, String.ofList_toList]
  rw [readEntry, Entry.line_eq, Text.splitAtFirst_append h.name.no_mark]
  simp only
  rw [if_neg (by rw [h.name.trim]; exact h.name.ne_nil), hname, splitOn_joinWith e.numbers_ne_nil,
    readValues_numbers h]
  rfl

/-! ### A file -/

/-- The comment at the top of a ledger says nothing. -/
theorem header_skippable : ∀ line ∈ header, OneLine line.toList ∧
    isSkippable (trim line.toList) = true := by
  have hall : ∀ line ∈ header, ('\n' ∉ line.toList ∧ '\r' ∉ line.toList) ∧
      isSkippable (trim line.toList) = true := by
    decide +kernel
  exact hall

/-- The lines of a written ledger are read as they are, but for blanks at their ends. -/
theorem fileLines_write {es : List Entry} (h : ∀ e ∈ es, e.Storable) :
    Text.fileLines (Text.encodeUtf8 (write es)) =
      (header.map String.toList).map trim ++ (es.map Entry.line).map trim := by
  obtain ⟨first, rest, hheader⟩ : ∃ first rest, header.map String.toList = ('#' :: first) :: rest :=
    ⟨_, _, rfl⟩
  have hlines : ∀ line ∈ header.map String.toList ++ es.map Entry.line, OneLine line := by
    intro line hline
    rcases List.mem_append.1 hline with hline | hline
    · obtain ⟨text, htext, rfl⟩ := List.mem_map.1 hline
      exact (header_skippable text htext).1
    · obtain ⟨e, he, rfl⟩ := List.mem_map.1 hline
      exact (h e he).oneLine
  rw [← List.map_append, write_eq]
  rw [hheader, List.cons_append] at hlines ⊢
  exact Text.fileLines_unlines hlines

/-- The reading of a line that says what an entry says. -/
def Entry.reading (e : Entry) : Reading := ⟨e.lineNo, e.line, .ok e⟩

theorem significantFrom_lines {es : List Entry} (h : ∀ e ∈ es, e.Storable) (number : Int) :
    (Text.significantFrom number ((es.map Entry.line).map trim)).map
        (fun l => readLine (some l.number) l.chars) =
      (numberedFrom number es).map Entry.reading := by
  induction es generalizing number with
  | nil => rfl
  | cons e rest ih =>
    have he := h e List.mem_cons_self
    have hrest := ih (fun other hother => h other (List.mem_cons_of_mem e hother)) (number + 1)
    rw [List.map_cons, List.map_cons, Text.significantFrom_cons he.trim_line he.not_skippable,
      List.map_cons, hrest, readLine, readEntry_line he]
    rfl

/-- **A written file is read line by line** as the entries that it was written for. -/
theorem read_write {es : List Entry} (h : ∀ e ∈ es, e.Storable) :
    read (Text.fileLines (Text.encodeUtf8 (write es))) = (numberedFrom 5 es).map Entry.reading := by
  have hskip : ∀ line ∈ (header.map String.toList).map trim, isSkippable (trim line) = true := by
    intro line hline
    obtain ⟨text, htext, rfl⟩ := List.mem_map.1 hline
    obtain ⟨comment, hcomment, rfl⟩ := List.mem_map.1 htext
    rw [Text.trim_trim]
    exact (header_skippable comment hcomment).2
  have hlength : (1 : Int) + ((header.map String.toList).map trim).length = 5 := by
    rw [List.length_map, List.length_map]
    rfl
  rw [read, Text.significant, fileLines_write h, Text.significantFrom_append,
    Text.significantFrom_of_skippable hskip, List.nil_append, hlength]
  exact significantFrom_lines h 5

/-- **Entries are read back from a whole file,** in their order. -/
theorem entries_read_write {es : List Entry} (h : ∀ e ∈ es, e.Storable) :
    entries (read (Text.fileLines (Text.encodeUtf8 (write es)))) = numberedFrom 5 es := by
  rw [read_write h, entries, List.filterMap_map]
  exact List.filterMap_some

/-- **Nothing is wrong with a file that was written.** -/
theorem issues_read_write {es : List Entry} (h : ∀ e ∈ es, e.Storable) (source : String) :
    issues source (read (Text.fileLines (Text.encodeUtf8 (write es)))) = [] := by
  rw [read_write h, issues, List.filterMap_map, List.filterMap_eq_nil_iff]
  exact fun _ _ => rfl

/-! ### What any file gives -/

/-- What `readValues` makes of the values of a line. -/
theorem of_readValues_eq_ok {registrant : String} {lineNo : Option Int}
    {values : List (List Char)} {e : Entry} (h : readValues registrant lineNo values = .ok e) :
    e.registrant = registrant ∧ e.lineNo = lineNo ∧ readNumbers values = some e.numbers ∧
      ∀ n ∈ e.numbers, 0 ≤ n := by
  unfold readValues at h
  split at h
  · cases h
  · split at h
    · rename_i hnumbers
      split at h
      · cases h
      · rename_i hpos
        cases h
        refine ⟨rfl, rfl, hnumbers, ?_⟩
        intro n hn
        rw [Bool.not_eq_true, List.any_eq_false] at hpos
        have := hpos n hn
        simp only [decide_eq_true_eq] at this
        omega
    · cases h

/-- A line that is read has a name before its first mark and values behind it. -/
theorem exists_cut_of_readEntry {lineNo : Option Int} {line : List Char} {e : Entry}
    (h : readEntry lineNo line = .ok e) :
    ∃ key rest, line = key ++ '=' :: rest ∧ '=' ∉ key ∧ trim key ≠ [] ∧
      readValues (String.ofList (Registrant.normal key)) lineNo (rest.splitOn ',') = .ok e := by
  unfold readEntry at h
  split at h
  · cases h
  · rename_i key rest hcut
    obtain ⟨hline, hmark⟩ := Text.splitAtFirst_eq_some hcut
    split at h
    · cases h
    · rename_i hne
      simp only at h
      refine ⟨key, rest, hline, hmark, hne, ?_⟩
      cases hv : readValues (String.ofList (Text.lower (trim key))) lineNo (rest.splitOn ',') with
      | error fault =>
        rw [hv] at h
        cases h
      | ok entry =>
        rw [hv] at h
        cases h
        exact hv

/-- An entry has the name before the first mark of its line, in normal form. -/
theorem registrant_of_readEntry {lineNo : Option Int} {key values : List Char} {e : Entry}
    (hmark : '=' ∉ key) (h : readEntry lineNo (key ++ '=' :: values) = .ok e) :
    e.registrant = String.ofList (Registrant.normal key) := by
  obtain ⟨other, rest, hcut, hmark', -, hv⟩ := exists_cut_of_readEntry h
  have hsame := (Text.splitAtFirst_append hmark values).symm.trans
    (hcut ▸ Text.splitAtFirst_append hmark' rest)
  rw [Option.some.injEq, Prod.mk.injEq] at hsame
  rw [hsame.1]
  exact (of_readValues_eq_ok hv).1

theorem parsed_of_readEntry {lineNo : Option Int} {line : List Char} {e : Entry}
    (h : readEntry lineNo line = .ok e) : e.Parsed := by
  obtain ⟨key, rest, -, -, -, hv⟩ := exists_cut_of_readEntry h
  obtain ⟨hname, -, -, hpos⟩ := of_readValues_eq_ok hv
  exact ⟨⟨key, hname⟩, hpos⟩

/-- An entry knows the line from which it was read. -/
theorem lineNo_of_readEntry {lineNo : Option Int} {line : List Char} {e : Entry}
    (h : readEntry lineNo line = .ok e) : e.lineNo = lineNo := by
  obtain ⟨key, rest, -, -, -, hv⟩ := exists_cut_of_readEntry h
  exact (of_readValues_eq_ok hv).2.1

theorem readable_of_readNumbers {values : List (List Char)} {numbers : List Int}
    (h : readNumbers values = some numbers) : ∀ n ∈ numbers, Readable n := by
  induction values generalizing numbers with
  | nil =>
    cases h
    simp
  | cons value rest ih =>
    rw [readNumbers] at h
    split at h
    · rename_i n ns hn hns
      cases h
      intro m hm
      rcases List.mem_cons.1 hm with rfl | hm
      · exact Text.readable_of_readInt hn
      · exact ih hns m hm
    · cases h

/-- **Whatever numbers a line has, they can be written again.** -/
theorem readable_of_readEntry {lineNo : Option Int} {line : List Char} {e : Entry}
    (h : readEntry lineNo line = .ok e) : ∀ n ∈ e.numbers, Readable n := by
  obtain ⟨key, rest, -, -, -, hv⟩ := exists_cut_of_readEntry h
  exact readable_of_readNumbers (of_readValues_eq_ok hv).2.2.1

/-- **And its name can:** lower case brings no mark into it. -/
theorem storable_of_readEntry {lineNo : Option Int} {raw : List Char} {e : Entry}
    (hline : OneLine raw) (hskip : isSkippable (trim raw) = false)
    (h : readEntry lineNo (trim raw) = .ok e) : e.Storable := by
  obtain ⟨key, rest, hcut, hmark, hne, hv⟩ := exists_cut_of_readEntry h
  obtain ⟨hname, -, -, hpos⟩ := of_readValues_eq_ok hv
  refine ⟨?_, hpos, readable_of_readEntry h⟩
  rw [hname]
  exact Registrant.storable_lower (IdName.storable_of_cut hline hskip hcut hmark hne)

/-- Every entry comes from a significant line. -/
theorem readEntry_of_mem_entries {lines : List (List Char)} {e : Entry}
    (h : e ∈ entries (read lines)) :
    ∃ l ∈ Text.significant lines, readEntry (some l.number) l.chars = .ok e := by
  obtain ⟨r, hr, hentry⟩ := List.mem_filterMap.1 h
  obtain ⟨l, hl, rfl⟩ := List.mem_map.1 hr
  refine ⟨l, hl, ?_⟩
  unfold Reading.entry? readLine at hentry
  cases hread : readEntry (some l.number) l.chars with
  | error flaw =>
    rw [hread] at hentry
    cases hentry
  | ok entry =>
    rw [hread] at hentry
    cases hentry
    rfl

/-- **Whatever is read from a file is parsed.** -/
theorem parsed_of_mem_entries {lines : List (List Char)} :
    ∀ e ∈ entries (read lines), e.Parsed := by
  intro e he
  obtain ⟨l, -, hread⟩ := readEntry_of_mem_entries he
  exact parsed_of_readEntry hread

/-- **And it can be written again,** whatever the file holds. -/
theorem storable_of_mem_entries {bytes : List UInt8} :
    ∀ e ∈ entries (read (Text.fileLines bytes)), e.Storable := by
  intro e he
  obtain ⟨l, hl, hread⟩ := readEntry_of_mem_entries he
  obtain ⟨i, raw, hraw, hskip, rfl⟩ := Text.mem_significantFrom_iff.1 hl
  have hline := Text.oneLine_of_mem_fileLines raw (List.mem_of_getElem? hraw)
  exact storable_of_readEntry hline hskip hread

/-! ### The copy of a table -/

/-- The zones are small, so every number in a consistent table can be read. -/
theorem Consistent.storable {table : List (String × Holding)} (h : Consistent table) :
    ∀ e ∈ describe table, e.Storable := by
  intro e he
  obtain ⟨⟨name, holding⟩, hmem, rfl⟩ := List.mem_map.1 he
  have hkey : Registrant.IsKey name := h.isKey (name, holding) hmem
  have hfits : holding.Fits name := h.fits (name, holding) hmem
  have hrange : ∀ s, 0 ≤ (holding.get s).start ∧ (holding.get s).start < 100000 ∧
      0 ≤ (holding.get s).size ∧ (holding.get s).size < 100000 ∧
      0 ≤ (holding.get s).used ∧ (holding.get s).used < 100000 := by
    intro s
    have hbounds := (hfits s).bounds
    have hnonneg := (hfits s).used_nonneg
    have hle := (hfits s).used_le
    have hzone : 0 ≤ s.zone.lower ∧ s.zone.upper < 50000 := by cases s <;> decide
    omega
  have ha := hrange .a
  have hb := hrange .b
  simp only [Both.get] at ha hb
  have hnumbers : ∀ n ∈ (Entry.ofHolding name holding).numbers, 0 ≤ n ∧ n < 100000 := by
    intro n hn
    simp only [EntryOf.numbers, Entry.ofHolding, List.mem_cons, List.not_mem_nil, or_false] at hn
    omega
  refine ⟨hkey.storable, fun n hn => (hnumbers n hn).1, fun n hn => Text.readable_of_lt ?_⟩
  have := hnumbers n hn
  omega

/-- **A table is settled from the file that describes it.** -/
theorem settle_read_write {table : List (String × Holding)} (h : Consistent table) :
    settle (entries (read (Text.fileLines (Text.encodeUtf8 (write (describe table)))))) =
      (table, []) := by
  rw [entries_read_write h.storable]
  exact settle_describe h 5

end Allotment.Ledger
