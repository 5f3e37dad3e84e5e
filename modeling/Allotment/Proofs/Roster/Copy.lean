import Allotment.Proofs.Naming
import Allotment.Proofs.Text.Written
import Allotment.Roster.Basic
import Allotment.Text.Encoding

/-!
# A roster that is written and read again

After every new id the registry writes all ids of the registrant to the roster, lowest id first.
The next registry reads them from there. This file says that nothing is lost on the way.

* `listedIn` — the named ids that entries list in a space, in file order;
* `Writable` — the named ids that survive a file: names that a line can hold, and numbers that a
  reader accepts;
* `read_write`, `listedIn_read_write`, `issues_read_write` — **PROVED**: the ids of a written roster are
  those that it lists, and nothing is wrong with it;
* `write_inOrder` — **PROVED**: written again with the ids in this order, it is the same text;
* `storable_of_mem_entries` — **PROVED**: whatever a file holds, the names read from it can be
  written again.
-/

namespace Allotment.Roster

open Text (decimal trim OneLine Readable isSkippable)

/-! ### Ids in a list of entries -/

/-- The named ids that entries list in a space. -/
def listedIn (entries : List Entry) (space : Space) : NamedIds :=
  (entries.filter fun e => decide (e.space = space)).map fun e => (e.name, e.id)

theorem mem_listedIn {entries : List Entry} {space : Space} {x : String × Int} :
    x ∈ listedIn entries space ↔ ∃ e ∈ entries, e.space = space ∧ (e.name, e.id) = x := by
  simp only [listedIn, List.mem_map, List.mem_filter, decide_eq_true_eq, and_assoc]

theorem entries_append (readings more : List Reading) :
    entries (readings ++ more) = entries readings ++ entries more := List.filterMap_append

theorem issues_append (source : String) (registrant : Option String)
    (readings more : List Reading) : issues source registrant (readings ++ more) =
      issues source registrant readings ++ issues source registrant more := List.filterMap_append

/-- Ids of one space, as that space and the others see them. -/
def ofSpace (here : Space) (ids : NamedIds) (space : Space) : NamedIds :=
  if space = here then ids else []

/-! ### The line of an id -/

/-- **The reader makes an entry of a line that has a name and a number,** and of no other. -/
theorem readEntry_eq_ok_iff {space : Space} {number : Int} {line : List Char} {e : Entry} :
    readEntry space number line = .ok e ↔ ∃ name value shown, line = name ++ '=' :: value ∧
      '=' ∉ name ∧ trim name ≠ [] ∧ Text.readInt (trim value) = .ok shown ∧
      e = ⟨space, String.ofList (trim name), space.zone.fromDisplay shown, number⟩ := by
  constructor
  · intro h
    unfold readEntry at h
    split at h
    · cases h
    · rename_i name value hcut
      obtain ⟨hline, hmark⟩ := Text.splitAtFirst_eq_some hcut
      split at h
      · cases h
      · rename_i hname
        split at h
        · rename_i shown hvalue
          cases h
          exact ⟨name, value, shown, hline, hmark, hname, hvalue, rfl⟩
        · cases h
  · intro h
    obtain ⟨name, value, shown, rfl, hmark, hname, hvalue, rfl⟩ := h
    rw [readEntry, Text.splitAtFirst_append hmark]
    simp only [if_neg hname, hvalue]

/-- Named ids that survive being written to a file, in a space. -/
def Writable (space : Space) (ids : NamedIds) : Prop :=
  ∀ x ∈ ids, IdName.Storable x.1 ∧ Readable (space.zone.toDisplay x.2)

section Line

variable {space : Space} {name : String} {id : Int} (h : IdName.Storable name)
include h

theorem trim_idLine : trim (idLine space name id) = idLine space name id := by
  rw [idLine_eq]
  exact Text.trim_marked h.trim h.ne_nil (Text.decimal_ne_nil _)
    (fun _ hc => Text.not_blank_of_mem_decimal (List.mem_of_getLast? hc)) '='

theorem not_skippable_idLine : isSkippable (idLine space name id) = false := by
  rw [idLine_eq]
  exact Text.isSkippable_marked h.ne_nil h.no_comment '='

theorem oneLine_idLine : OneLine (idLine space name id) := by
  obtain ⟨hn, hr⟩ := h.oneLine
  have hn' : '\n' ∉ decimal (space.zone.toDisplay id) := Text.not_mem_decimal (by decide)
  have hr' : '\r' ∉ decimal (space.zone.toDisplay id) := Text.not_mem_decimal (by decide)
  constructor
  · simp [idLine_eq, hn, hn']
  · simp [idLine_eq, hr, hr']

omit h in
/-- The line of an id is no section's head, even if the name opens with a bracket: the line ends
with a digit. -/
theorem sectionLabel?_idLine : sectionLabel? (idLine space name id) = none := by
  have hlast : ∀ before, (before ++ '=' :: decimal (space.zone.toDisplay id)).getLast? ≠
      some ']' := by
    intro before hget
    obtain ⟨d, ds, hds⟩ := List.exists_cons_of_ne_nil (Text.decimal_ne_nil (space.zone.toDisplay id))
    rw [List.getLast?_append, hds, List.getLast?_cons_cons, ← hds] at hget
    rw [List.getLast?_eq_some_getLast (Text.decimal_ne_nil _), Option.some_or,
      Option.some.injEq] at hget
    exact Text.not_mem_decimal (n := space.zone.toDisplay id) (c := ']') (by decide)
      (hget ▸ List.getLast_mem _)
  rw [idLine_eq]
  cases hname : name.toList with
  | nil => rfl
  | cons first rest =>
    rw [List.cons_append]
    unfold sectionLabel?
    split
    · rename_i tail heq
      rw [List.cons.injEq] at heq
      rw [← heq.2, if_neg (hlast rest)]
    · rfl

/-- **The line of an id is read back** in the section of its space. -/
theorem readLine_idLine (hid : Readable (space.zone.toDisplay id)) (number : Int) :
    readLine (.ofSpace space) ⟨number, idLine space name id⟩ =
      (.ofSpace space, some (.ok ⟨space, name, id, number⟩)) := by
  have hentry : readEntry space number (idLine space name id) = .ok ⟨space, name, id, number⟩ := by
    refine readEntry_eq_ok_iff.2 ⟨_, _, _, idLine_eq space name id, h.no_mark, ?_,
      Text.readInt_trim_decimal hid, ?_⟩
    · rw [h.trim]
      exact h.ne_nil
    · rw [h.trim, String.ofList_toList, Zone.fromDisplay_toDisplay]
  unfold readLine
  rw [sectionLabel?_idLine]
  simp only [hentry]

end Line

/-! ### A section -/

/-- What the reader makes of the lines of ids, the first of which has a given number. -/
def idReadings (space : Space) (number : Int) : NamedIds → List Reading
  | [] => []
  | (name, id) :: rest =>
    ⟨number, idLine space name id, .ok ⟨space, name, id, number⟩⟩ ::
      idReadings space (number + 1) rest

/-- They list the ids. -/
theorem listedIn_idReadings (space : Space) (number : Int) (ids : NamedIds) (other : Space) :
    listedIn (entries (idReadings space number ids)) other = ofSpace space ids other := by
  induction ids generalizing number with
  | nil => simp [idReadings, entries, listedIn, ofSpace]
  | cons x rest ih =>
    obtain ⟨name, id⟩ := x
    have hrest := ih (number + 1)
    have hentries : entries (idReadings space number ((name, id) :: rest)) =
      ⟨space, name, id, number⟩ :: entries (idReadings space (number + 1) rest) := rfl
    rw [hentries]
    by_cases hspace : other = space
    · subst hspace
      simp only [listedIn, List.filter_cons, decide_true, if_true, List.map_cons, ofSpace] at hrest ⊢
      rw [hrest]
    · have hne : ¬space = other := fun heq => hspace heq.symm
      simp only [listedIn, List.filter_cons, hne, decide_false, ofSpace, hspace, if_false,
        Bool.false_eq_true] at hrest ⊢
      exact hrest

/-- Nothing is wrong with them. -/
theorem issues_idReadings (source : String) (registrant : Option String) (space : Space)
    (number : Int) (ids : NamedIds) :
    issues source registrant (idReadings space number ids) = [] := by
  induction ids generalizing number with
  | nil => rfl
  | cons x rest ih => exact ih (number + 1)

theorem listedIn_append (entries more : List Entry) (space : Space) :
    listedIn (entries ++ more) space = listedIn entries space ++ listedIn more space := by
  simp [listedIn]

/-- The lines of ids are read one by one. -/
theorem readFrom_idLines {space : Space} {ids : NamedIds} (h : Writable space ids) (number : Int)
    (rest : List Text.NumberedLine) :
    readFrom (.ofSpace space) (Text.significantFrom number
        ((ids.map fun (name, id) => idLine space name id).map trim) ++ rest) =
      idReadings space number ids ++ readFrom (.ofSpace space) rest := by
  induction ids generalizing number with
  | nil => rfl
  | cons x ids ih =>
    obtain ⟨name, id⟩ := x
    obtain ⟨hname, hid⟩ := h (name, id) List.mem_cons_self
    have hrest := ih (fun y hy => h y (List.mem_cons_of_mem _ hy)) (number + 1)
    rw [List.map_cons, List.map_cons, Text.significantFrom_cons (trim_idLine hname)
      (not_skippable_idLine hname), List.cons_append, readFrom, readLine_idLine hname hid]
    simp only [Option.map_some, Option.toList_some, List.cons_append, List.nil_append, idReadings]
    rw [hrest]

/-- The head of a section, whatever stands before it. -/
theorem readLine_head (here : Section) (space : Space) (number : Int) :
    readLine here ⟨number, '[' :: space.label.toList ++ [']']⟩ = (.ofSpace space, none) := by
  have hlabel : sectionLabel? ('[' :: space.label.toList ++ [']']) = some space.label.toList := by
    cases space <;> decide +kernel
  have hsection : Section.ofLabel space.label.toList = .ofSpace space := by
    cases space <;> rfl
  unfold readLine
  simp only [hlabel, hsection]

theorem head_plain (space : Space) : OneLine ('[' :: space.label.toList ++ [']']) ∧
    trim ('[' :: space.label.toList ++ [']']) = '[' :: space.label.toList ++ [']'] ∧
    isSkippable ('[' :: space.label.toList ++ [']']) = false := by
  unfold OneLine
  cases space <;> decide +kernel

/-- Where lines stand behind the section of a space: a section without ids is not written. -/
def Section.behind (here : Section) (space : Space) : NamedIds → Section
  | [] => here
  | _ :: _ => .ofSpace space

theorem writable_inOrder {space : Space} {ids : NamedIds} (h : Writable space ids) :
    Writable space (inOrder ids) := fun x hx => h x (mem_sortBy.1 hx)

/-- A section is read id by id, wherever it stands. -/
theorem readFrom_section {space : Space} {ids : NamedIds} (h : Writable space ids)
    (here : Section) (number : Int) (rest : List Text.NumberedLine) :
    readFrom here (Text.significantFrom number ((sectionLines space ids).map trim) ++ rest) =
      idReadings space (number + 1 + 1) (inOrder ids) ++ readFrom (here.behind space ids) rest := by
  cases hids : ids with
  | nil => rfl
  | cons x more =>
    obtain ⟨-, htrim, hskip⟩ := head_plain space
    have hblank : isSkippable (trim (trim [])) = true := by decide
    have hlines := readFrom_idLines (writable_inOrder h) (number + 1 + 1) rest
    rw [← hids]
    rw [sectionLines_of_ne_nil space (by rw [hids]; exact List.cons_ne_nil x more),
      List.map_cons, List.map_cons, Text.significantFrom, if_pos hblank,
      Text.significantFrom_cons htrim hskip, List.cons_append, readFrom, readLine_head]
    rw [hids] at hlines ⊢
    exact hlines

/-! ### A file -/

/-- A line of a roster that is a comment. -/
theorem comment_skippable (text : List Char) : isSkippable (trim ('#' :: text)) = true := by
  have hhead := Text.head?_trim_of_head? (s := '#' :: text) (c := '#') rfl (by decide)
  simp [isSkippable, hhead]

theorem oneLine_boundsLine (space : Space) (w : Window) : OneLine (boundsLine space w) := by
  have hlabel : OneLine space.label.toList := by
    unfold OneLine
    cases space <;> decide
  obtain ⟨hn, hr⟩ := hlabel
  have hdecimal : ∀ n, '\n' ∉ decimal n ∧ '\r' ∉ decimal n := fun n =>
    ⟨Text.not_mem_decimal (by decide), Text.not_mem_decimal (by decide)⟩
  constructor
  · simp [boundsLine, hn, (hdecimal _).1]
  · simp [boundsLine, hr, (hdecimal _).2]

theorem boundsLine_eq_cons (space : Space) (w : Window) :
    ∃ text, boundsLine space w = '#' :: text := ⟨_, rfl⟩

theorem oneLine_sectionLines {space : Space} {ids : NamedIds} (h : Writable space ids) :
    ∀ line ∈ sectionLines space ids, OneLine line := by
  intro line hline
  by_cases hnil : ids = []
  · rw [hnil] at hline
    cases hline
  · rw [sectionLines_of_ne_nil space hnil] at hline
    rcases List.mem_cons.1 hline with rfl | hline
    · exact ⟨List.not_mem_nil, List.not_mem_nil⟩
    · rcases List.mem_cons.1 hline with rfl | hline
      · exact (head_plain space).1
      · obtain ⟨y, hy, rfl⟩ := List.mem_map.1 hline
        exact oneLine_idLine (writable_inOrder h y hy).1

/-- What stands before the name in the first line of a roster. -/
def titleComment : List Char := "# ID configuration for ".toList

/-- The first line of a roster. -/
def title (registrant : String) : List Char := titleComment ++ registrant.toList

/-- What stands below it: the comments on the windows and the sections. -/
def body (bounds : List (Space × Window)) (ids : Both NamedIds) : List (List Char) :=
  bounds.map (fun x => boundsLine x.1 x.2) ++ (sectionLines .a ids.a ++ sectionLines .b ids.b)

theorem write_eq_unlines (registrant : String) (bounds : List (Space × Window))
    (ids : Both NamedIds) :
    write registrant bounds ids = Text.unlines (title registrant :: body bounds ids) := by
  rw [write_eq]
  unfold title titleComment body
  simp only [Space.all, List.flatMap_cons, List.flatMap_nil, List.append_nil, Both.get,
    List.cons_append]

theorem exists_titleComment : ∃ text, titleComment = '#' :: text ∧ OneLine ('#' :: text) := by
  obtain ⟨text, htext⟩ : ∃ text, titleComment = '#' :: text := ⟨_, rfl⟩
  refine ⟨text, htext, ?_⟩
  rw [← htext]
  unfold OneLine
  decide

section Body

variable (bounds : List (Space × Window)) {ids : Both NamedIds}
  (h : ∀ s, Writable s (ids.get s))
include h

theorem oneLine_body : ∀ line ∈ body bounds ids, OneLine line := by
  intro line hline
  rcases List.mem_append.1 hline with hline | hline
  · obtain ⟨x, -, rfl⟩ := List.mem_map.1 hline
    exact oneLine_boundsLine x.1 x.2
  · rcases List.mem_append.1 hline with hline | hline
    · exact oneLine_sectionLines (h .a) line hline
    · exact oneLine_sectionLines (h .b) line hline

/-- **What stands below the first line is read id by id,** wherever it starts. -/
theorem readFrom_body (here : Section) (number : Int) :
    ∃ first second, readFrom here (Text.significantFrom number ((body bounds ids).map trim)) =
      idReadings .a first (inOrder ids.a) ++ idReadings .b second (inOrder ids.b) := by
  have hskip : ∀ line ∈ (bounds.map fun x => boundsLine x.1 x.2).map trim,
      isSkippable (trim line) = true := by
    intro line hline
    obtain ⟨raw, hraw, rfl⟩ := List.mem_map.1 hline
    obtain ⟨x, -, rfl⟩ := List.mem_map.1 hraw
    obtain ⟨text, htext⟩ := boundsLine_eq_cons x.1 x.2
    rw [Text.trim_trim, htext]
    exact comment_skippable text
  have ha := readFrom_section (h .a) here
    (number + ((bounds.map fun x => boundsLine x.1 x.2).map trim).length)
  have hb := readFrom_section (h .b) (Section.behind here .a ids.a)
    (number + ((bounds.map fun x => boundsLine x.1 x.2).map trim).length
      + ((sectionLines .a ids.a).map trim).length) []
  simp only [Both.get, List.append_nil, readFrom] at ha hb
  rw [body, List.map_append, Text.significantFrom_append, Text.significantFrom_of_skippable hskip,
    List.nil_append, List.map_append, Text.significantFrom_append, ha, hb]
  exact ⟨_, _, rfl⟩

/-- **A written roster is read id by id,** the ids of each space in their order. -/
theorem read_write {registrant : String} (hname : OneLine registrant.toList) :
    ∃ first second, read (Text.fileLines (Text.encodeUtf8 (write registrant bounds ids))) =
      idReadings .a first (inOrder ids.a) ++ idReadings .b second (inOrder ids.b) := by
  obtain ⟨text, hcomment, htext⟩ := exists_titleComment
  have htitle : title registrant = '#' :: (text ++ registrant.toList) := by
    rw [title, hcomment, List.cons_append]
  have hlines : ∀ line ∈ ('#' :: (text ++ registrant.toList)) :: body bounds ids, OneLine line :=
    List.forall_mem_cons.2 ⟨htext.append hname, oneLine_body bounds h⟩
  have hskip : isSkippable (trim (trim ('#' :: (text ++ registrant.toList)))) = true := by
    rw [Text.trim_trim]
    exact comment_skippable _
  rw [write_eq_unlines, htitle, Text.fileLines_unlines hlines, List.map_cons, read,
    Text.significant, Text.significantFrom, if_pos hskip]
  exact readFrom_body bounds h .top _

end Body

/-- **The ids of a written roster** are those that it lists, in the order of the ids. -/
theorem listedIn_read_write {registrant : String} (hname : OneLine registrant.toList)
    (bounds : List (Space × Window)) {ids : Both NamedIds} (h : ∀ s, Writable s (ids.get s))
    (space : Space) :
    listedIn (entries (read (Text.fileLines (Text.encodeUtf8 (write registrant bounds ids))))) space
      = inOrder (ids.get space) := by
  obtain ⟨first, second, hread⟩ := read_write bounds h hname
  rw [hread, entries_append, listedIn_append, listedIn_idReadings, listedIn_idReadings]
  cases space with
  | a => simp [ofSpace, Both.get]
  | b => simp [ofSpace, Both.get]

/-- **Nothing is wrong with a roster that was written.** -/
theorem issues_read_write {registrant : String} (hname : OneLine registrant.toList)
    (bounds : List (Space × Window)) {ids : Both NamedIds} (h : ∀ s, Writable s (ids.get s))
    (source : String) (owner : Option String) :
    issues source owner (read (Text.fileLines (Text.encodeUtf8 (write registrant bounds ids)))) =
      [] := by
  obtain ⟨first, second, hread⟩ := read_write bounds h hname
  rw [hread, issues_append, issues_idReadings, issues_idReadings, List.append_nil]

/-! ### Written again -/

theorem pairwise_inOrder (ids : NamedIds) :
    (inOrder ids).Pairwise fun x y => decide (x.2 ≤ y.2) = true := by
  apply pairwise_sortBy
  · intro x y h
    simp only [decide_eq_true_eq, decide_eq_false_iff_not] at h ⊢
    omega
  · intro x y z hxy hyz
    simp only [decide_eq_true_eq] at hxy hyz ⊢
    omega

/-- Ids that are in order stay so. -/
theorem inOrder_inOrder (ids : NamedIds) : inOrder (inOrder ids) = inOrder ids :=
  sortBy_of_pairwise (pairwise_inOrder ids)

/-- **A roster is the same text** when the ids come back in order. -/
theorem sectionLines_inOrder (space : Space) (ids : NamedIds) :
    sectionLines space (inOrder ids) = sectionLines space ids := by
  by_cases hnil : ids = []
  · rw [hnil]
    rfl
  · have hne : inOrder ids ≠ [] := by
      intro hempty
      have hperm := (perm_sortBy (fun x y => decide (x.2 ≤ y.2)) ids).symm
      exact hnil (List.Perm.eq_nil (hempty ▸ hperm))
    rw [sectionLines_of_ne_nil space hne, sectionLines_of_ne_nil space hnil, inOrder_inOrder]

theorem write_inOrder (registrant : String) (bounds : List (Space × Window)) {ids other : Both NamedIds}
    (h : ∀ s, other.get s = inOrder (ids.get s)) :
    write registrant bounds other = write registrant bounds ids := by
  have hlines : ∀ s, sectionLines s (other.get s) = sectionLines s (ids.get s) := by
    intro s
    rw [h s, sectionLines_inOrder]
  simp only [write_eq, hlines]

/-! ### What any file gives -/

theorem storable_of_readEntry {space : Space} {number : Int} {raw : List Char} {e : Entry}
    (hline : OneLine raw) (hskip : isSkippable (trim raw) = false)
    (h : readEntry space number (trim raw) = .ok e) : IdName.Storable e.name := by
  obtain ⟨name, value, shown, hcut, hmark, hne, -, rfl⟩ := readEntry_eq_ok_iff.1 h
  exact IdName.storable_of_cut hline hskip hcut hmark hne

theorem space_of_readEntry {space : Space} {number : Int} {line : List Char} {e : Entry}
    (h : readEntry space number line = .ok e) : e.space = space := by
  obtain ⟨name, value, shown, -, -, -, -, rfl⟩ := readEntry_eq_ok_iff.1 h
  rfl

theorem entry?_eq_some_iff {r : Reading} {e : Entry} : r.entry? = some e ↔ r.result = .ok e := by
  unfold Reading.entry?
  cases r.result <;> simp [Except.toOption]

/-- A line that becomes an entry is read as one of its space. -/
theorem readEntry_of_readLine {here : Section} {l : Text.NumberedLine} {e : Entry}
    (h : (readLine here l).2 = some (.ok e)) : readEntry e.space l.number l.chars = .ok e := by
  unfold readLine at h
  split at h
  · split at h <;> simp at h
  · split at h
    · simp at h
    · simp at h
    · have hentry := Option.some.inj h
      rw [space_of_readEntry hentry]
      exact hentry

/-- Every reading is what became of a line, in some section. -/
theorem exists_line_of_mem_readFrom {here : Section} {lines : List Text.NumberedLine} {r : Reading}
    (h : r ∈ readFrom here lines) : ∃ l ∈ lines, r.lineNo = l.number ∧ r.line = l.chars ∧
      ∃ place, (readLine place l).2 = some r.result := by
  induction lines generalizing here with
  | nil => cases h
  | cons l rest ih =>
    rw [readFrom, List.mem_append] at h
    rcases h with h | h
    · obtain ⟨result, hresult, rfl⟩ := Option.map_eq_some_iff.1 (Option.mem_toList.1 h)
      exact ⟨l, List.mem_cons_self, rfl, rfl, here, hresult⟩
    · obtain ⟨other, hother, hread⟩ := ih h
      exact ⟨other, List.mem_cons_of_mem l hother, hread⟩

/-- A reading of a file is of the line with its number. -/
theorem exists_line_of_mem_read {lines : List (List Char)} {r : Reading} (h : r ∈ read lines) :
    ∃ (i : Nat) (raw : List Char), lines[i]? = some raw ∧ isSkippable (trim raw) = false ∧
      r.lineNo = 1 + i ∧ r.line = trim raw ∧
      ∃ place, (readLine place ⟨1 + i, trim raw⟩).2 = some r.result := by
  obtain ⟨l, hl, hnumber, hline, hread⟩ := exists_line_of_mem_readFrom h
  obtain ⟨i, raw, hraw, hskip, rfl⟩ := Text.mem_significantFrom_iff.1 hl
  exact ⟨i, raw, hraw, hskip, hnumber, hline, hread⟩

/-- **The names in a file can be written again,** whatever the file holds. -/
theorem storable_of_mem_entries {bytes : List UInt8} :
    ∀ e ∈ entries (read (Text.fileLines bytes)), IdName.Storable e.name := by
  intro e he
  obtain ⟨r, hr, hentry⟩ := List.mem_filterMap.1 he
  obtain ⟨i, raw, hraw, hskip, -, -, place, hread⟩ := exists_line_of_mem_read hr
  rw [entry?_eq_some_iff.1 hentry] at hread
  have hline := Text.oneLine_of_mem_fileLines raw (List.mem_of_getElem? hraw)
  exact storable_of_readEntry hline hskip (readEntry_of_readLine hread)

end Allotment.Roster
