import Allotment.Proofs.Disk.Frame
import Allotment.Proofs.Roster.Copy
import Allotment.Proofs.Text.Breaks
import Allotment.Registry.Basic

/-!
# What a roster gives back

A roster is written for a registrant by the name that the caller used, and read section by section.
The ids come back whatever the name is, as long as it has a key. The name stands in a comment, and a
comment ends with its line: if the blanks in front of the name hold the end of one, the name itself
falls on a line of its own, outside of any section.

* `Ordered`, `ordered_inOrder` — ids in the order of their numbers, and **PROVED**: a section has
  them so;
* `Broken` — a name with the end of a line in front of it;
* `nameLine`, `skippable_titleLines`, `exists_stray_line` — **PROVED**: the title of a roster says
  nothing, but for a name that is broken, and on which line this falls;
* `exists_read_write` — **PROVED**: so a roster is read id by id, behind that one line at most;
* `Returned`, `returned_write` — **PROVED**: ids, their order and the numbers that people see come
  back from a file, and nothing is wrong with it, unless the name is broken;
* `AllEncodable`, `exists_returned`, `store_of_surrogate` — **PROVED**: so it is with names of any
  letters, unless one holds a surrogate; then nothing is written;
* `not_returned` — a registrant's name that leaves an issue behind, and one that is never written.
-/

namespace Allotment.Roster

open Text (decimal trim OneLine Readable isSkippable isBlank Blank splitLines NumberedLine Letter
  CodePoint Encodable spelled)

/-! ### Order -/

/-- Some ids in the order of their numbers. Those of one number stand as they stood. -/
structure Ordered (ids sorted : NamedIds) : Prop where
  perm : sorted.Perm ids
  ascending : sorted.Pairwise fun x y => x.2 ≤ y.2
  stable : ∀ id : Int, (sorted.filter fun x => decide (x.2 = id)) =
    ids.filter fun x => decide (x.2 = id)

theorem ordered_inOrder (ids : NamedIds) : Ordered ids (inOrder ids) where
  perm := perm_sortBy _ ids
  ascending := (pairwise_inOrder ids).imp fun h => of_decide_eq_true h
  stable id := by
    apply filter_sortBy
    intro x y hx hy
    simp only [decide_eq_true_eq] at hx hy ⊢
    omega

/-! ### The title -/

/-- The blanks in front of a name hold the end of a line. -/
def Broken (name : String) : Prop := ¬OneLine (name.toList.takeWhile isBlank)

/-- The lines that the reader finds in the title of a roster. -/
def titleLines (registrant : String) : List (List Char) := splitLines (title registrant ++ ['\n'])

theorem skippable_of_blank {line : List Char} (h : Blank line) :
    isSkippable (trim line) = true := by
  rw [Text.trim_blank h]
  rfl

/-- The lines of blanks say nothing, and neither does a comment in front of them. -/
theorem skippable_of_comment {text blanks : List Char} (htext : OneLine ('#' :: text))
    (hblanks : Blank blanks) :
    ∀ line ∈ splitLines ('#' :: text ++ blanks), isSkippable (trim line) = true := by
  have hlines := hblanks.of_mem_splitLines
  rw [Text.splitLines_append htext (List.cons_ne_nil _ _)]
  refine List.forall_mem_cons.2 ⟨comment_skippable _, fun line hline => ?_⟩
  exact skippable_of_blank (hlines line (List.mem_of_mem_tail hline))

/-- The number of the line on which a broken name falls. Its end is the end of the last line up to
there. -/
def nameLine (registrant : String) : Int :=
  (splitLines (titleComment ++ registrant.toList.takeWhile isBlank ++ trim registrant.toList)).length

/-- The title is a comment, the name, and blanks in front of it and behind it. -/
theorem exists_titleLines (name : String) :
    ∃ behind, Blank behind ∧ titleLines name =
      splitLines (titleComment ++ name.toList.takeWhile isBlank ++ trim name.toList ++ behind) := by
  obtain ⟨behind, hname, hbehind⟩ := Text.exists_pads name.toList
  have hend : Blank ['\n'] := List.forall_mem_singleton.2 (by decide)
  refine ⟨behind ++ ['\n'], hbehind.append hend, ?_⟩
  have hwhole : title name ++ ['\n'] =
      titleComment ++ (name.toList.takeWhile isBlank ++ trim name.toList ++ behind) ++ ['\n'] := by
    rw [title]
    exact congrArg (fun s => titleComment ++ s ++ ['\n']) hname
  rw [titleLines, hwhole]
  simp only [List.append_assoc]

section Title

variable {name : String} {key : List Char} (hkey : Registrant.key? name.toList = .ok key)
include hkey

theorem oneLine_trim_of_key? : OneLine (trim name.toList) :=
  ⟨Registrant.not_mem_trim_of_key? hkey (by decide),
    Registrant.not_mem_trim_of_key? hkey (by decide)⟩

/-- **The title of a roster says nothing,** unless the name is broken. -/
theorem skippable_titleLines (hwhole : ¬Broken name) :
    ∀ line ∈ titleLines name, isSkippable (trim line) = true := by
  obtain ⟨text, htitle, htext⟩ := exists_titleComment
  obtain ⟨behind, hbehind, hlines⟩ := exists_titleLines name
  have hlead : OneLine (name.toList.takeWhile isBlank) := Classical.not_not.1 hwhole
  have hcomment := (htext.append hlead).append (oneLine_trim_of_key? hkey)
  rw [hlines, htitle]
  exact skippable_of_comment hcomment hbehind

/-- **A broken name falls on a line of its own,** and no other line of the title says anything. -/
theorem exists_stray_line (hbroken : Broken name) :
    ∃ above line below, titleLines name = above ++ line :: below ∧ trim line = trim name.toList ∧
      nameLine name = 1 + above.length ∧ (∀ other ∈ above, isSkippable (trim other) = true) ∧
      ∀ other ∈ below, isSkippable (trim other) = true := by
  obtain ⟨text, htitle, htext⟩ := exists_titleComment
  obtain ⟨behind, hbehind, hlines⟩ := exists_titleLines name
  obtain ⟨before, c, gap, hlead, hc, hgap⟩ := Text.exists_last_break hbroken
  have hfront : Blank (before ++ c :: gap) := hlead ▸ Text.blank_takeWhile name.toList
  obtain ⟨hbefore, hrest⟩ := List.forall_mem_append.1 hfront
  obtain ⟨hbreak, hblanks⟩ := List.forall_mem_cons.1 hrest
  have hone : OneLine (gap ++ trim name.toList) := hgap.append (oneLine_trim_of_key? hkey)
  have hne : gap ++ trim name.toList ≠ [] :=
    List.append_ne_nil_of_right_ne_nil gap (Registrant.trim_ne_nil_of_key? hkey)
  have hhead : ∀ rest, c = '\r' → (gap ++ trim name.toList ++ rest).head? ≠ some '\n' := by
    intro rest _ hlf
    obtain ⟨first, more, hfirst⟩ := List.exists_cons_of_ne_nil hne
    rw [hfirst, List.cons_append, List.head?_cons, Option.some.injEq] at hlf
    exact hone.1 (by rw [hfirst, hlf]; exact List.mem_cons_self)
  -- the line of the name starts behind the last end of a line, whatever stands behind the name
  have hcut : ∀ rest, splitLines
      (titleComment ++ name.toList.takeWhile isBlank ++ trim name.toList ++ rest) =
        splitLines ('#' :: text ++ (before ++ [c])) ++
          (gap ++ trim name.toList ++ (splitLines rest).headD []) :: (splitLines rest).tail := by
    intro rest
    rw [← Text.splitLines_append hone hne, ← List.append_assoc,
      ← Text.splitLines_break hc (hhead rest), htitle, hlead]
    simp only [List.append_assoc, List.cons_append]
  have hnumber : nameLine name = 1 + (splitLines ('#' :: text ++ (before ++ [c]))).length := by
    have hlast := hcut []
    rw [List.append_nil] at hlast
    rw [nameLine, hlast, List.length_append, List.length_cons]
    simp only [splitLines, List.tail_nil, List.length_nil]
    omega
  have hlast : Blank ((splitLines behind).headD []) := by
    cases hbelow : splitLines behind with
    | nil => exact List.forall_mem_nil _
    | cons line more => exact hbehind.of_mem_splitLines line (by simp [hbelow])
  refine ⟨_, _, _, hlines.trans (hcut behind), ?_, hnumber, ?_, fun other hother => ?_⟩
  · rw [Text.trim_pads hblanks hlast, Text.trim_trim]
  · exact skippable_of_comment htext (Blank.append hbefore (List.forall_mem_singleton.2 hbreak))
  · exact skippable_of_blank (hbehind.of_mem_splitLines other (List.mem_of_mem_tail hother))

theorem not_skippable_trim_of_key? : isSkippable (trim name.toList) = false := by
  have hhash : '#' ∉ trim name.toList := Registrant.not_mem_trim_of_key? hkey (by decide)
  obtain ⟨first, rest, hfirst⟩ := List.exists_cons_of_ne_nil (Registrant.trim_ne_nil_of_key? hkey)
  rw [hfirst, List.mem_cons, not_or] at hhash
  simp [hfirst, isSkippable, Ne.symm hhash.1]

/-- A registrant's name opens no section. -/
theorem readLine_trim_of_key? (number : Int) :
    readLine .top ⟨number, trim name.toList⟩ = (.top, some (.error .outsideSection)) := by
  have hlabel : sectionLabel? (trim name.toList) = none := by
    have hbracket : '[' ∉ trim name.toList := Registrant.not_mem_trim_of_key? hkey (by decide)
    unfold sectionLabel?
    split
    · rename_i rest hopen
      exact absurd (by rw [hopen]; exact List.mem_cons_self) hbracket
    · rfl
  unfold readLine
  rw [hlabel]

end Title

/-! ### The readings of a roster -/

/-- What a reader makes of the title: nothing, or of a broken name a line outside of any section. -/
inductive Strays (name : String) : List Reading → Prop
  | whole (h : ¬Broken name) : Strays name []
  | broken (h : Broken name) :
      Strays name [⟨nameLine name, trim name.toList, .error .outsideSection⟩]

section Written

variable {name : String} (bounds : List (Space × Window)) {ids : Both NamedIds}
  (h : ∀ s, Writable s (ids.get s))
include h

theorem fileLines_write : Text.fileLines (Text.encodeUtf8 (write name bounds ids)) =
    (titleLines name ++ body bounds ids).map trim := by
  obtain ⟨text, hcomment, -⟩ := exists_titleComment
  have htitle : title name = '#' :: text ++ name.toList := by rw [title, hcomment]
  have hdecode : Text.decodeText (Text.encodeUtf8 (write name bounds ids)) =
      write name bounds ids := by
    rw [write_eq_unlines, Text.unlines_cons, htitle]
    exact Text.decodeText_comment _
  have hbody := Text.splitLines_unlines (oneLine_body bounds h)
  rw [Text.fileLines, hdecode, write_eq_unlines, Text.unlines_cons,
    Text.splitLines_break (.inl rfl) (fun hcr => absurd hcr (by decide)), hbody]
  rfl

/-- **A written roster is read id by id,** behind the line of a broken name. -/
theorem exists_read_write {key : List Char} (hkey : Registrant.key? name.toList = .ok key) :
    ∃ strays first second, Strays name strays ∧
      read (Text.fileLines (Text.encodeUtf8 (write name bounds ids))) =
        strays ++ (idReadings .a first (inOrder ids.a) ++ idReadings .b second (inOrder ids.b)) := by
  rw [fileLines_write bounds h, read, Text.significant, List.map_append,
    Text.significantFrom_append, Text.significantFrom_map_trim]
  obtain ⟨first, second, hbody⟩ := readFrom_body bounds h .top
    (1 + ((titleLines name).map trim).length)
  by_cases hbroken : Broken name
  · obtain ⟨above, line, below, hlines, hline, hnumber, habove, hbelow⟩ :=
      exists_stray_line hkey hbroken
    have hskip : isSkippable (trim line) = false := by
      rw [hline]
      exact not_skippable_trim_of_key? hkey
    have htitle : Text.significantFrom 1 (titleLines name) =
        [⟨nameLine name, trim name.toList⟩] := by
      rw [hlines, Text.significantFrom_append, Text.significantFrom_of_skippable habove,
        Text.significantFrom, if_neg (by simp [hskip]), Text.significantFrom_of_skippable hbelow,
        hline, hnumber]
      rfl
    refine ⟨_, first, second, .broken hbroken, ?_⟩
    rw [htitle, List.cons_append, List.nil_append, readFrom, readLine_trim_of_key? hkey]
    simp only [hbody]
    rfl
  · refine ⟨[], first, second, .whole hbroken, ?_⟩
    rw [Text.significantFrom_of_skippable (skippable_titleLines hkey hbroken)]
    exact hbody

end Written

/-- What the lines of ids list, each in its space. -/
theorem triples_idReadings (space : Space) (number : Int) (ids : NamedIds) :
    (entries (idReadings space number ids)).map (fun e => (e.space, e.name, e.id)) =
      ids.map fun x => (space, x.1, x.2) := by
  induction ids generalizing number with
  | nil => rfl
  | cons x rest ih =>
    rw [List.map_cons, ← ih (number + 1)]
    rfl

/-- Every one of them is the line of an id. -/
theorem eq_of_mem_idReadings {space : Space} {number : Int} {ids : NamedIds} {r : Reading}
    (h : r ∈ idReadings space number ids) :
    ∃ x ∈ ids, r = ⟨r.lineNo, idLine space x.1 x.2, .ok ⟨space, x.1, x.2, r.lineNo⟩⟩ := by
  induction ids generalizing number with
  | nil => cases h
  | cons x rest ih =>
    rcases List.mem_cons.1 h with rfl | h
    · exact ⟨x, List.mem_cons_self, rfl⟩
    · obtain ⟨y, hy, hr⟩ := ih h
      exact ⟨y, List.mem_cons_of_mem x hy, hr⟩

/-! ### What comes back -/

/-- What a file gives back of some ids, written for a registrant under a name. -/
structure Returned (name : String) (ids : Both NamedIds) (bytes : List UInt8) : Prop where
  /-- All ids come back and no others, those of the first space before those of the second, and each
  space in the order of its ids. -/
  triples : ∃ first second, Ordered ids.a first ∧ Ordered ids.b second ∧
    (entries (read (Text.fileLines bytes))).map (fun e => (e.space, e.name, e.id)) =
      (first.map fun x => (Space.a, x.1, x.2)) ++ second.map fun x => (Space.b, x.1, x.2)
  /-- The line of an id has the number that people see. -/
  shown : ∀ e ∈ entries (read (Text.fileLines bytes)), ∀ al : Allocator, al.ids = ids →
    ∃ number, number = e.id + e.space.zone.displayOffset ∧
      (e.name, number) ∈ al.displayIds e.space ∧
      (Text.fileLines bytes)[(e.lineNo - 1).toNat]? = some (e.name.toList ++ '=' :: decimal number)
  /-- There is no issue. -/
  clean : ¬Broken name → ∀ source owner, issues source owner (read (Text.fileLines bytes)) = []
  /-- But a broken name is one, by the line on which it falls. -/
  stray : Broken name → ∀ source owner,
    issues source owner (read (Text.fileLines bytes)) = [⟨source, .warn,
      Fault.outsideSection.message, some (nameLine name), owner,
      some (String.ofList (trim name.toList))⟩]

theorem Strays.entries_eq {name : String} {strays : List Reading} (h : Strays name strays) :
    entries strays = [] := by
  cases h <;> rfl

/-- The line of an entry of a written roster. -/
theorem line_of_mem_entries {name : String} {ids : Both NamedIds} {lines : List (List Char)}
    {strays : List Reading} {first second : Int} (hstrays : Strays name strays)
    (hread : read (lines.map trim) =
      strays ++ (idReadings .a first (inOrder ids.a) ++ idReadings .b second (inOrder ids.b)))
    {e : Entry} (he : e ∈ entries (read (lines.map trim))) :
    (e.name, e.id) ∈ ids.get e.space ∧
      (lines.map trim)[(e.lineNo - 1).toNat]? = some (idLine e.space e.name e.id) := by
  obtain ⟨r, hr, hentry⟩ := List.mem_filterMap.1 he
  obtain ⟨i, raw, hraw, -, hnumber, hline, -⟩ := exists_line_of_mem_read hr
  obtain ⟨line, -, rfl⟩ := List.mem_map.1 (List.mem_of_getElem? hraw)
  rw [Text.trim_trim] at hline
  have hids : ∃ (space : Space) (x : String × Int), x ∈ ids.get space ∧
      r = ⟨r.lineNo, idLine space x.1 x.2, .ok ⟨space, x.1, x.2, r.lineNo⟩⟩ := by
    rw [hread, List.mem_append, List.mem_append] at hr
    rcases hr with hr | hr | hr
    · have hnone : e ∈ entries strays := List.mem_filterMap.2 ⟨r, hr, hentry⟩
      rw [hstrays.entries_eq] at hnone
      cases hnone
    · obtain ⟨x, hx, hform⟩ := eq_of_mem_idReadings hr
      exact ⟨.a, x, mem_sortBy.1 hx, hform⟩
    · obtain ⟨x, hx, hform⟩ := eq_of_mem_idReadings hr
      exact ⟨.b, x, mem_sortBy.1 hx, hform⟩
  obtain ⟨space, x, hx, hform⟩ := hids
  have hplace : (r.lineNo - 1).toNat = i := by omega
  rw [← hline] at hraw
  rw [hform] at hentry hraw
  cases hentry
  exact ⟨hx, by rw [hplace]; exact hraw⟩

/-- **Ids that are written to a roster come back from it.** -/
theorem returned_write {name : String} {key : List Char}
    (hkey : Registrant.key? name.toList = .ok key) (bounds : List (Space × Window))
    {ids : Both NamedIds} (h : ∀ s, Writable s (ids.get s)) :
    Returned name ids (Text.encodeUtf8 (write name bounds ids)) := by
  obtain ⟨strays, first, second, hstrays, hread⟩ := exists_read_write bounds h hkey
  have hissues : ∀ source owner, issues source owner
      (read (Text.fileLines (Text.encodeUtf8 (write name bounds ids)))) =
        issues source owner strays := by
    intro source owner
    rw [hread, issues_append, issues_append, issues_idReadings, issues_idReadings,
      List.append_nil, List.append_nil]
  refine ⟨⟨inOrder ids.a, inOrder ids.b, ordered_inOrder _, ordered_inOrder _, ?_⟩, ?_, ?_, ?_⟩
  · rw [hread, entries_append, entries_append, hstrays.entries_eq, List.nil_append,
      List.map_append, triples_idReadings, triples_idReadings]
  · intro e he al hal
    obtain ⟨hid, hline⟩ := line_of_mem_entries hstrays hread he
    refine ⟨_, rfl, ?_, hline.trans (congrArg some (idLine_eq _ _ _))⟩
    rw [Allocator.displayIds, hal]
    exact List.mem_map.2 ⟨(e.name, e.id), hid, rfl⟩
  · intro hwhole source owner
    rw [hissues]
    cases hstrays with
    | whole => rfl
    | broken hbroken => exact absurd hbroken hwhole
  · intro hbroken
    cases hstrays with
    | whole hwhole => exact absurd hbroken hwhole
    | broken => exact fun source owner => hissues source owner

/-! ### Names of any letters -/

section Letters

variable {α : Type} [Letter α]

/-- Names without surrogates. -/
def AllEncodable (registrant : List α) (ids : Both (List (List α × Int))) : Prop :=
  Encodable registrant ∧ ∀ s, ∀ x ∈ ids.get s, Encodable x.1

/-- They are names of characters. -/
theorem exists_spelledIds {ids : List (List α × Int)} (h : ∀ x ∈ ids, Encodable x.1) :
    ∃ ids' : NamedIds, ids = spelledIds ids' := by
  induction ids with
  | nil => exact ⟨[], rfl⟩
  | cons x rest ih =>
    obtain ⟨hx, hrest⟩ := List.forall_mem_cons.1 h
    obtain ⟨ids', rfl⟩ := ih hrest
    obtain ⟨name, id⟩ := x
    obtain ⟨s, rfl⟩ := Text.encodable_iff.1 hx
    exact ⟨(String.ofList s, id) :: ids', by
      simp only [spelledIds, List.map_cons, String.toList_ofList]⟩

theorem spelledIds_injective :
    Function.Injective (spelledIds : NamedIds → List (List α × Int)) := by
  intro _ _ hsame
  refine (List.map_inj_right ?_).1 hsame
  rintro ⟨name, id⟩ ⟨other, id'⟩ h
  obtain ⟨hname, hid⟩ := Prod.mk.inj h
  rw [String.toList_inj.1 (Text.spelled_injective hname), hid]

theorem allEncodable_spelled (name : String) (ids : Both NamedIds) :
    AllEncodable (spelled name.toList : List α) (ids.map spelledIds) := by
  refine ⟨Text.encodable_spelled _, fun s x hx => ?_⟩
  rw [Both.get_map] at hx
  obtain ⟨y, -, rfl⟩ := List.mem_map.1 hx
  exact Text.encodable_spelled _

theorem AllEncodable.exists_spelled {registrant : List α} {ids : Both (List (List α × Int))}
    (h : AllEncodable registrant ids) : ∃ (name : String) (ids' : Both NamedIds),
      registrant = spelled name.toList ∧ ids = ids'.map spelledIds := by
  obtain ⟨hname, hids⟩ := h
  obtain ⟨s, rfl⟩ := Text.encodable_iff.1 hname
  obtain ⟨first, hfirst⟩ := exists_spelledIds (hids .a)
  obtain ⟨second, hsecond⟩ := exists_spelledIds (hids .b)
  refine ⟨String.ofList s, ⟨first, second⟩, by rw [String.toList_ofList], ?_⟩
  apply Both.ext_get
  intro s
  rw [Both.get_map]
  cases s with
  | a => exact hfirst
  | b => exact hsecond

/-- A file has bytes only if the names in it have. -/
theorem encodable_of_compose {registrant : List α} {bounds : List (Space × Window)}
    {ids : Both (List (List α × Int))} (h : Encodable (compose registrant bounds ids)) :
    AllEncodable registrant ids := by
  have hlines := Text.encodable_of_unlines h
  have htitle := hlines _ (List.mem_append_left _ List.mem_cons_self)
  refine ⟨(Text.encodable_append.1 htitle).2, ?_⟩
  intro s x hx
  have hwritten : writtenId s x.1 x.2 ∈ writtenSection s (ids.get s) := by
    have hsorted : x ∈ inOrder (ids.get s) := mem_sortBy.2 hx
    cases hids : ids.get s with
    | nil =>
      rw [hids] at hx
      cases hx
    | cons y rest =>
      rw [hids] at hsorted
      exact List.mem_cons_of_mem _ (List.mem_cons_of_mem _ (List.mem_map.2 ⟨x, hsorted, rfl⟩))
  exact (Text.encodable_append.1 (hlines _ (List.mem_append_right _
    (List.mem_flatMap.2 ⟨s, Space.mem_all s, hwritten⟩)))).1

variable {registrant : List α} {bounds : List (Space × Window)}
  {ids : Both (List (List α × Int))} {d : Disk} {p : Path}

/-- **A name with a surrogate is never written:** the write fails for the first surrogates in the file,
and changes no file. -/
theorem store_of_surrogate (hdisk : d.Takes p) (hreadable : ∀ n ∈ numbers bounds ids, Readable n)
    (hsurrogate : ¬AllEncodable registrant ids) :
    ∃ after, d.store p (text registrant bounds ids) =
        (.error (.unencodable (Text.firstSurrogates (compose registrant bounds ids))), after) ∧
      d.SameContents after := by
  rw [text_eq_some_iff.2 ⟨hreadable, rfl⟩]
  exact hdisk.store_of_not_encodable fun hencodable => hsurrogate (encodable_of_compose hencodable)

variable [DecidableEq α]

/-- A name that an id may have: a caller may give it, or a roster has it. -/
def Nameable (name : List α) : Prop :=
  IdName.ofText name = .ok name ∨
    ∃ bytes, ∃ e ∈ entries (read (Text.fileLines bytes)), spelled e.name.toList = name

theorem Nameable.storable {name : String} (h : Nameable (spelled name.toList : List α)) :
    IdName.Storable name := by
  rcases h with hgiven | ⟨bytes, e, he, hsame⟩
  · have hflaw := (IdName.flaw?_of_ofText hgiven).1
    rw [IdName.flaw?_spelled] at hflaw
    exact IdName.storable_of_flaw? hflaw
  · rw [← String.toList_inj.1 (Text.spelled_injective hsame)]
    exact storable_of_mem_entries e he

/-- **Names without surrogates are written,** and the ids come back. -/
theorem exists_returned {key : List α} (hdisk : d.Takes p)
    (hkey : Registrant.ofText registrant = .ok key)
    (hids : ∀ s, ∀ x ∈ ids.get s, Nameable x.1) (hreadable : ∀ n ∈ numbers bounds ids, Readable n)
    (hencodable : AllEncodable registrant ids) :
    ∃ name ids' after bytes, registrant = spelled name.toList ∧ ids = ids'.map spelledIds ∧
      d.store p (text registrant bounds ids) = (.ok (), after) ∧
      after.read p = .ok (some bytes) ∧ Returned name ids' bytes := by
  obtain ⟨name, ids', rfl, rfl⟩ := hencodable.exists_spelled
  obtain ⟨key', hkey'⟩ : ∃ key', Registrant.key? name.toList = .ok key' := by
    have hname := Registrant.key?_of_ofText hkey
    rw [Registrant.key?_spelled] at hname
    cases hkey' : Registrant.key? name.toList with
    | ok key' => exact ⟨key', rfl⟩
    | error flaw =>
      rw [hkey'] at hname
      cases hname
  have hwritable : ∀ s, Writable s (ids'.get s) := by
    intro s x hx
    refine ⟨(hids s (spelled x.1.toList, x.2) ?_).storable, hreadable _ ?_⟩
    · rw [Both.get_map]
      exact List.mem_map_of_mem hx
    · rw [numbers_spelledIds]
      exact List.mem_append_right _ (List.mem_flatMap.2
        ⟨s, Space.mem_all s, List.mem_map.2 ⟨x, hx, rfl⟩⟩)
  obtain ⟨after, hwrite, hread⟩ := hdisk.replace (Text.encodeUtf8 (write name bounds ids'))
  refine ⟨name, ids', after, _, rfl, rfl, ?_, hread, returned_write hkey' bounds hwritable⟩
  rw [text_eq_some_iff.2 ⟨hreadable, compose_spelled name bounds ids'⟩, Disk.store,
    Text.encode_spelled]
  exact hwrite

end Letters

/-- **A roster gives back what it was given.** For any registrant with a key, any bounds and any ids
under names that a caller may give or a roster may have, all numbers being such that they can be
written, on a disk that takes a file at a path: if no name holds a surrogate, the write goes through,
and from the file come the ids, in the order of their numbers, with the numbers that people see in its
lines. Nothing is wrong with the file, unless the name of the registrant is broken; then the one issue
is the line on which the name falls. If a name holds a surrogate, the write fails and no file is
changed. -/
theorem returned_of_takes {registrant key : List CodePoint}
    (hkey : Registrant.ofText registrant = .ok key) (bounds : List (Space × Window))
    {ids : Both (List (List CodePoint × Int))} (hids : ∀ s, ∀ x ∈ ids.get s, Nameable x.1)
    (hreadable : ∀ n ∈ numbers bounds ids, Readable n) {d : Disk} {p : Path} (hdisk : d.Takes p) :
    (AllEncodable registrant ids → ∃ name ids' after bytes,
      registrant = spelled name.toList ∧ ids = ids'.map spelledIds ∧
      d.store p (text registrant bounds ids) = (.ok (), after) ∧
      after.read p = .ok (some bytes) ∧ Returned name ids' bytes) ∧
    (¬AllEncodable registrant ids → ∃ after,
      d.store p (text registrant bounds ids) =
        (.error (.unencodable (Text.firstSurrogates (compose registrant bounds ids))), after) ∧
      d.SameContents after) :=
  ⟨exists_returned hdisk hkey hids hreadable, store_of_surrogate hdisk hreadable⟩

/-- Ids of a careless owner: two of one number, one below zero, and one with a name that a caller
may not give, since it begins like a section. -/
def mixedIds : Both NamedIds :=
  ⟨[("[x", 2030), ("stone slab", 2024), ("Σ", -7), ("slate", 2024)], [("ingot", 512)]⟩

/-- They have names that ids may have. -/
theorem nameable_mixedIds : ∀ s, ∀ x ∈ (mixedIds.map spelledIds).get s,
    Nameable (x.1 : List CodePoint) := by
  have hread : (⟨.a, "[x", 1, 2⟩ : Entry) ∈
      entries (read (Text.fileLines (Text.encodeUtf8 "[space_a]\n[x=1".toList))) := by
    decide +kernel
  have hgiven : ∀ s, ∀ x ∈ mixedIds.get s, x.1 ≠ "[x" → IdName.flaw? x.1.toList = none := by
    intro s
    cases s <;> decide +kernel
  intro s y hy
  rw [Both.get_map] at hy
  obtain ⟨x, hx, rfl⟩ := List.mem_map.1 hy
  by_cases hodd : x.1 = "[x"
  · exact .inr ⟨_, _, hread, congrArg (fun name => spelled name.toList) hodd.symm⟩
  · refine .inl ?_
    rw [IdName.ofText, IdName.flaw?_spelled, hgiven s x hx hodd]

/-- They come back from the file of a registrant whose name is broken. -/
theorem returned_mixedIds :
    let registrant : List CodePoint := spelled "\n Alpha ".toList
    let ids : Both (List (List CodePoint × Int)) := mixedIds.map spelledIds
    let bounds := [(Space.a, Window.mk 2024 64)]
    Registrant.ofText registrant = .ok (spelled "alpha".toList) ∧
      (∀ s, ∀ x ∈ ids.get s, Nameable x.1) ∧ (∀ n ∈ numbers bounds ids, Readable n) ∧
      ({} : Disk).Takes ⟨.here, ["id", "alpha"]⟩ ∧ ∃ after bytes,
        ({} : Disk).store ⟨.here, ["id", "alpha"]⟩ (text registrant bounds ids) = (.ok (), after) ∧
        after.read ⟨.here, ["id", "alpha"]⟩ = .ok (some bytes) ∧
        Returned "\n Alpha " mixedIds bytes := by
  intro registrant ids bounds
  have hkey : Registrant.ofText registrant = .ok (spelled "alpha".toList) := by decide +kernel
  have hdisk : ({} : Disk).Takes ⟨.here, ["id", "alpha"]⟩ := by
    unfold Disk.Takes
    decide +kernel
  have hreadable : ∀ n ∈ numbers bounds ids, Readable n := by
    unfold Readable
    decide +kernel
  obtain ⟨name, ids', after, bytes, hname, hsame, hwrite, hread, hreturned⟩ :=
    (returned_of_takes hkey bounds nameable_mixedIds hreadable hdisk).1 (allEncodable_spelled _ _)
  obtain rfl := String.toList_inj.1 (Text.spelled_injective hname)
  obtain rfl : mixedIds = ids' := by
    apply Both.ext_get
    intro s
    have hget := congrArg (fun both => Both.get both s) hsame
    simp only [Both.get_map] at hget
    exact spelledIds_injective hget
  exact ⟨hkey, nameable_mixedIds, hreadable, hdisk, after, bytes, hwrite, hread, hreturned⟩

/-- **A registrant may have a name that leaves an issue behind, or none that can be written.** The end
of the line in front of a name is trimmed away from the key, but not from the title of the roster. And
a name may be a surrogate. -/
theorem not_returned :
    Registrant.ofText "\nalpha".toList = .ok "alpha".toList ∧
      IdName.ofText ['x'] = .ok ['x'] ∧
      issues "f.cfg" (some "\nalpha") (read (Text.fileLines (Text.encodeUtf8
        (write "\nalpha" [] ⟨[("x", 2024)], []⟩)))) =
          [⟨"f.cfg", .warn, "entry outside of any section", some 2, some "\nalpha",
            some "alpha"⟩] ∧
      Registrant.ofText [CodePoint.surrogate 0] = .ok [.surrogate 0] ∧
      (({} : Disk).store ⟨.here, ["id", "alpha"]⟩ (text [CodePoint.surrogate 0] [] ⟨[], []⟩)).1 =
        .error (.unencodable ⟨0xD800, 23, 1⟩) := by
  decide +kernel

end Allotment.Roster
