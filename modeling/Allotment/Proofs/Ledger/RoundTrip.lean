import Allotment.Proofs.Disk.Frame
import Allotment.Proofs.Ledger.Copy

/-!
# What a ledger can hold

A ledger is written by the registry and by hand. Whoever writes it, the entries that are read from it
are tidy, and tidy entries come back from a file as they are, as long as the file can be written: a
name may hold surrogates, and these have no bytes.

* `Tidy` — an entry, under a name of any letters, that the reader leaves as it is;
* `tidy_spelled_iff` — **PROVED**: for names of characters this is what the line of an entry asks for;
* `Survives` — entries that are written to a path and read from it again;
* `survives_iff` — **PROVED**: entries survive just if all of them are tidy and have names without
  surrogates;
* `store_of_surrogate` — **PROVED**: if a name has one, the write fails and changes no file;
* `survives_of_takes` — **PROVED**: what is read from any file survives, so a ledger that is read
  and written again says the same.
-/

namespace Allotment.Ledger

open Text (Readable Letter CodePoint Encodable spelled)

section Letters

variable {α : Type} [Letter α]

/-- An entry that the reader leaves as it is. -/
structure Tidy (e : EntryOf (List α)) : Prop where
  ne_nil : e.registrant ≠ []
  trim : Text.trim e.registrant = e.registrant
  lower : Text.lower e.registrant = e.registrant
  no_mark : ∀ c ∈ ['=', '\n', '\r'], Letter.ofChar c ∉ e.registrant
  no_comment : e.registrant.head? ≠ some (Letter.ofChar '#')
  nonneg : ∀ n ∈ e.numbers, 0 ≤ n
  readable : ∀ n ∈ e.numbers, Readable n

/-- For a name of characters this is what the line of an entry asks for. -/
theorem tidy_spelled_iff {e : Entry} : Tidy (e.spelled : EntryOf (List α)) ↔ e.Storable := by
  have hhead : (spelled e.registrant.toList : List α).head? = some (Letter.ofChar '#') ↔
      e.registrant.toList.head? = some '#' := Text.head?_spelled_eq_some_iff
  constructor
  · rintro ⟨hne, htrim, hlower, hmark, hcomment, hnonneg, hreadable⟩
    have hnot : ∀ c ∈ ['=', '\n', '\r'], c ∉ e.registrant.toList := fun c hc hmem =>
      hmark c hc (Text.mem_spelled.2 hmem)
    exact
      { name :=
          { ne_nil := fun hnil => hne (List.map_eq_nil_iff.2 hnil)
            trim := Text.spelled_injective ((Text.trim_spelled _).symm.trans htrim)
            oneLine := ⟨hnot '\n' (by simp), hnot '\r' (by simp)⟩
            no_mark := hnot '=' (by simp)
            no_comment := fun hsharp => hcomment (hhead.2 hsharp)
            lower := Text.spelled_injective ((Text.lower_spelled _).symm.trans hlower) }
        nonneg := hnonneg
        readable := hreadable }
  · rintro ⟨hname, hnonneg, hreadable⟩
    refine ⟨fun hnil => hname.ne_nil (List.map_eq_nil_iff.1 hnil), ?_, ?_, ?_,
      fun hsharp => hname.no_comment (hhead.1 hsharp), hnonneg, hreadable⟩
    · exact (Text.trim_spelled _).trans (congrArg spelled hname.trim)
    · exact (Text.lower_spelled _).trans (congrArg spelled hname.lower)
    · intro c hc hmem
      have hchar := Text.mem_spelled.1 hmem
      simp only [List.mem_cons, List.not_mem_nil, or_false] at hc
      rcases hc with rfl | rfl | rfl
      · exact hname.no_mark hchar
      · exact hname.oneLine.1 hchar
      · exact hname.oneLine.2 hchar

/-- An entry whose name has no surrogates is one of characters. -/
theorem exists_spelled {e : EntryOf (List α)} (h : Encodable e.registrant) :
    ∃ e' : Entry, e = e'.spelled := by
  obtain ⟨name, aStart, aSize, bStart, bSize, aUsed, bUsed, lineNo⟩ := e
  obtain ⟨s, rfl⟩ := Text.encodable_iff.1 h
  exact ⟨⟨String.ofList s, aStart, aSize, bStart, bSize, aUsed, bUsed, lineNo⟩, by
    rw [EntryOf.spelled, String.toList_ofList]⟩

theorem exists_spelled_entries {es : List (EntryOf (List α))}
    (h : ∀ e ∈ es, Encodable e.registrant) :
    ∃ es' : List Entry, es = es'.map EntryOf.spelled := by
  induction es with
  | nil => exact ⟨[], rfl⟩
  | cons e rest ih =>
    obtain ⟨he, hrest⟩ := List.forall_mem_cons.1 h
    obtain ⟨e', rfl⟩ := exists_spelled he
    obtain ⟨rest', rfl⟩ := ih hrest
    exact ⟨e' :: rest', rfl⟩

theorem numberedFrom_spelled (number : Int) (es : List Entry) :
    numberedFrom number (es.map EntryOf.spelled : List (EntryOf (List α))) =
      (numberedFrom number es).map EntryOf.spelled := by
  induction es generalizing number with
  | nil => rfl
  | cons e rest ih =>
    rw [List.map_cons, numberedFrom, ih]
    rfl

/-- Some entries survive a file at a path. The write goes through, and the file gives the entries
back in their order, each with the number of its line, and with no issues. -/
def Survives (d : Disk) (p : Path) (es : List (EntryOf (List α))) : Prop :=
  ∃ after bytes, d.store p (text es) = (.ok (), after) ∧ after.read p = .ok (some bytes) ∧
    (entries (read (Text.fileLines bytes))).map EntryOf.spelled = numberedFrom 5 es ∧
    ∀ source, issues source (read (Text.fileLines bytes)) = []

/-- What a file gives is tidy, and so is what it was made of. -/
theorem tidy_of_numberedFrom (number : Int) {es : List (EntryOf (List α))}
    (h : ∀ e ∈ numberedFrom number es, Tidy e ∧ Encodable e.registrant) :
    ∀ e ∈ es, Tidy e ∧ Encodable e.registrant := by
  induction es generalizing number with
  | nil => exact h
  | cons e rest ih =>
    rw [numberedFrom, List.forall_mem_cons] at h
    obtain ⟨⟨⟨hne, htrim, hlower, hmark, hcomment, hnonneg, hreadable⟩, hencodable⟩, hrest⟩ := h
    exact List.forall_mem_cons.2
      ⟨⟨⟨hne, htrim, hlower, hmark, hcomment, hnonneg, hreadable⟩, hencodable⟩, ih _ hrest⟩

/-- **The entries of any file are tidy,** and their names have no surrogates. -/
theorem tidy_of_mem_entries {bytes : List UInt8} :
    ∀ e ∈ entries (read (Text.fileLines bytes)),
      Tidy (e.spelled : EntryOf (List α)) ∧ Encodable (e.spelled : EntryOf (List α)).registrant :=
  fun e he => ⟨tidy_spelled_iff.2 (storable_of_mem_entries e he), Text.encodable_spelled _⟩

/-- **Entries survive a file just if all of them are tidy** and their names have no surrogates. -/
theorem survives_iff {d : Disk} {p : Path} (h : d.Takes p) {es : List (EntryOf (List α))} :
    Survives d p es ↔ ∀ e ∈ es, Tidy e ∧ Encodable e.registrant := by
  constructor
  · rintro ⟨after, bytes, -, -, hentries, -⟩
    refine tidy_of_numberedFrom 5 ?_
    rw [← hentries, List.forall_mem_map]
    exact tidy_of_mem_entries
  · intro hall
    obtain ⟨es, rfl⟩ := exists_spelled_entries fun e he => (hall e he).2
    have hstorable : ∀ e ∈ es, e.Storable := fun e he =>
      tidy_spelled_iff.1 (hall e.spelled (List.mem_map_of_mem he)).1
    have htext : text (es.map EntryOf.spelled : List (EntryOf (List α))) =
        some (spelled (write es)) := by
      refine text_eq_some_iff.2 ⟨?_, compose_spelled es⟩
      rw [List.forall_mem_map]
      exact fun e he => (hstorable e he).readable
    obtain ⟨after, hwrite, hread⟩ := h.replace (Text.encodeUtf8 (write es))
    refine ⟨after, _, ?_, hread, ?_, issues_read_write hstorable⟩
    · rw [htext, Disk.store, Text.encode_spelled]
      exact hwrite
    · rw [entries_read_write hstorable, numberedFrom_spelled]

/-- A file has bytes only if the names in it have. -/
theorem encodable_of_compose {es : List (EntryOf (List α))} (h : Encodable (compose es)) :
    ∀ e ∈ es, Encodable e.registrant := by
  intro e he
  have hline : Encodable e.written :=
    Text.encodable_of_unlines h _ (List.mem_append_right _ (List.mem_map_of_mem he))
  exact (Text.encodable_append.1 hline).1

/-- **A name with a surrogate is never written:** the write fails for the first surrogates in the file,
and changes no file. -/
theorem store_of_surrogate {d : Disk} {p : Path} (h : d.Takes p) {es : List (EntryOf (List α))}
    (hreadable : ∀ e ∈ es, ∀ n ∈ e.numbers, Readable n)
    (hsurrogate : ¬∀ e ∈ es, Encodable e.registrant) :
    ∃ after, d.store p (text es) =
        (.error (.unencodable (Text.firstSurrogates (compose es))), after) ∧
      d.SameContents after := by
  rw [text_eq_some_iff.2 ⟨hreadable, rfl⟩]
  exact h.store_of_not_encodable fun hencodable => hsurrogate (encodable_of_compose hencodable)

end Letters

/-- **A ledger holds what it gives.** On a disk that takes a file at a path, entries come back from
there just if they are tidy and their names have no surrogates; a surrogate makes the write fail, and
no file is changed. The entries of any file are tidy, however it came about, and have no surrogates; so
a file that is read, written and read again gives the same entries and no issues. -/
theorem survives_of_takes {d : Disk} {p : Path} (h : d.Takes p) :
    (∀ es : List (EntryOf (List CodePoint)),
      (Survives d p es ↔ ∀ e ∈ es, Tidy e ∧ Encodable e.registrant) ∧
      ((∀ e ∈ es, Tidy e) → (¬∀ e ∈ es, Encodable e.registrant) →
        ∃ after, d.store p (text es) =
            (.error (.unencodable (Text.firstSurrogates (compose es))), after) ∧
          d.SameContents after)) ∧
    (∀ bytes, ∀ e ∈ entries (read (Text.fileLines bytes)),
      Tidy (e.spelled : EntryOf (List CodePoint)) ∧
        Encodable (e.spelled : EntryOf (List CodePoint)).registrant) ∧
    ∀ bytes, Survives d p
      ((entries (read (Text.fileLines bytes))).map EntryOf.spelled :
        List (EntryOf (List CodePoint))) := by
  refine ⟨fun es => ⟨survives_iff h, fun htidy => ?_⟩, fun bytes => tidy_of_mem_entries, fun bytes => ?_⟩
  · exact store_of_surrogate h fun e he => (htidy e he).readable
  · rw [survives_iff h, List.forall_mem_map]
    exact tidy_of_mem_entries

/-- An entry with a name that no registrant may have. -/
def oddEntry : Entry := ⟨"[a:ς/\\]!", 0, 100000000000000000000, 7, 0, 12, 3, none⟩

/-- A ledger that a hand has been in: a name in capital letters with blanks around it, numbers in
two scripts with a sign and an underscore, and a line without a name. -/
def editedText : List Char := " ΑΣ = +1, 2_0,\u0663,4,5 , 6\r\n# a comment\n=1,2,3,4,5,6".toList

theorem storable_oddEntry : oddEntry.Storable where
  name := {
    ne_nil := by decide +kernel
    trim := by decide +kernel
    oneLine := by unfold Text.OneLine; decide +kernel
    no_mark := by decide +kernel
    no_comment := by decide +kernel
    lower := by decide +kernel }
  nonneg := by decide +kernel
  readable := by unfold Readable; decide +kernel

theorem takes_table : ({} : Disk).Takes ⟨.here, ["id", "table"]⟩ := by
  unfold Disk.Takes
  decide +kernel

/-- The odd entry survives, and so does what the edited ledger gives: one entry, with the name in
lower case. -/
theorem survives_of_takes_odd :
    ({} : Disk).Takes ⟨.here, ["id", "table"]⟩ ∧
      Survives {} ⟨.here, ["id", "table"]⟩ [(oddEntry.spelled : EntryOf (List CodePoint))] ∧
      entries (read (Text.fileLines (Text.encodeUtf8 editedText))) =
        [⟨"ας", 1, 20, 3, 4, 5, 6, some 1⟩] ∧
      Survives {} ⟨.here, ["id", "table"]⟩
        [((⟨"ας", 1, 20, 3, 4, 5, 6, some 1⟩ : Entry).spelled : EntryOf (List CodePoint))] := by
  have hentries : entries (read (Text.fileLines (Text.encodeUtf8 editedText))) =
      [⟨"ας", 1, 20, 3, 4, 5, 6, some 1⟩] := by
    decide +kernel
  obtain ⟨hiff, -, hsurvives⟩ := survives_of_takes takes_table
  refine ⟨takes_table, (hiff _).1.2 ?_, hentries, ?_⟩
  · exact List.forall_mem_singleton.2
      ⟨tidy_spelled_iff.2 storable_oddEntry, Text.encodable_spelled _⟩
  · have hedited := hsurvives (Text.encodeUtf8 editedText)
    rwa [hentries] at hedited

/-- An entry whose name is a surrogate. -/
def surrogateEntry : EntryOf (List CodePoint) :=
  ⟨[.surrogate 0], 2024, 64, 4096, 256, 0, 0, none⟩

/-- **A tidy entry that does not survive:** its name is a surrogate, and nothing is written. -/
theorem not_survives_surrogate : ({} : Disk).Takes ⟨.here, ["id", "table"]⟩ ∧
    Tidy surrogateEntry ∧ ¬Survives {} ⟨.here, ["id", "table"]⟩ [surrogateEntry] ∧
    (({} : Disk).store ⟨.here, ["id", "table"]⟩ (text [surrogateEntry])).1 =
      .error (.unencodable ⟨0xD800, 174, 1⟩) := by
  have htidy : Tidy surrogateEntry := {
    ne_nil := by decide +kernel
    trim := by decide +kernel
    lower := by decide +kernel
    no_mark := by simp [surrogateEntry, Letter.ofChar]
    no_comment := by decide +kernel
    nonneg := by decide +kernel
    readable := by unfold Readable; decide +kernel }
  refine ⟨takes_table, htidy, ?_, by decide +kernel⟩
  rw [survives_iff takes_table, List.forall_mem_singleton]
  rintro ⟨-, hencodable⟩
  revert hencodable
  decide +kernel

end Allotment.Ledger
