import Allotment.Proofs.Text.LowerCase
import Allotment.Registrant
import Allotment.Text.Encoding
import Mathlib.Data.List.TakeWhile

/-!
# Keys and names that files can hold

A registrant is known by a key, an id by a name, and both are written at the front of a line. This
file says what a line needs of them.

* `Registrant.key?_key` — **PROVED**: the key of a registrant is its own key, so it does not matter
  how often a name is put in normal form;
* `Registrant.IsKey` — a text that is its own key, with what follows for the characters in it;
* `IdName.Storable` — a name that the line of an id can hold, with `storable_of_flaw?`: every name
  that a caller may give is one. A name may also come from a roster, where it may begin with an
  opening bracket, so `Storable` asks for less than `flaw?`;
* `IdName.storable_of_cut` — **PROVED**: what a file has before the mark of a line is such a name;
* `Registrant.Storable` — a name that the line of a registrant can hold: it is in lower case as well.
  `storable_lower` — **PROVED**: putting a name in lower case makes it one.
-/

namespace Allotment

namespace Text

theorem OneLine.append {s rest : List Char} (h : OneLine s) (h' : OneLine rest) :
    OneLine (s ++ rest) :=
  ⟨List.not_mem_append h.1 h'.1, List.not_mem_append h.2 h'.2⟩

/-- A line of a text holds no end of line. -/
theorem oneLine_of_mem_splitLines {s : List Char} : ∀ line ∈ splitLines s, OneLine line := by
  fun_induction splitLines s with
  | case1 => simp
  | case2 rest ih =>
    intro line hline
    rcases List.mem_cons.1 hline with rfl | hline
    · simp [OneLine]
    · exact ih line hline
  | case3 c rest _ hend ih =>
    intro line hline
    rcases List.mem_cons.1 hline with rfl | hline
    · simp [OneLine]
    · exact ih line hline
  | case4 c rest _ hend hrest ih =>
    intro line hline
    rw [List.mem_singleton] at hline
    rw [not_or] at hend
    simp [hline, OneLine, Ne.symm hend.1, Ne.symm hend.2]
  | case5 c rest _ hend first more hrest ih =>
    intro line hline
    rw [not_or] at hend
    rcases List.mem_cons.1 hline with rfl | hline
    · obtain ⟨hn, hr⟩ := ih first (by rw [hrest]; exact List.mem_cons_self)
      simp [OneLine, Ne.symm hend.1, Ne.symm hend.2, hn, hr]
    · exact ih line (by rw [hrest]; exact List.mem_cons_of_mem first hline)

theorem mem_of_mem_trim {s : List Char} {c : Char} (h : c ∈ trim s) : c ∈ s := by
  rw [trim_eq, trimEnd_eq, List.mem_reverse] at h
  have hback := (List.dropWhile_sublist isBlank).subset h
  rw [List.mem_reverse] at hback
  exact (List.dropWhile_sublist isBlank).subset hback

theorem oneLine_trim {s : List Char} (h : OneLine s) : OneLine (trim s) :=
  ⟨fun hn => h.1 (mem_of_mem_trim hn), fun hr => h.2 (mem_of_mem_trim hr)⟩

/-- The lines of a file hold no end of line. -/
theorem oneLine_of_mem_fileLines {bytes : List UInt8} : ∀ line ∈ fileLines bytes, OneLine line := by
  intro line hline
  obtain ⟨raw, hraw, rfl⟩ := List.mem_map.1 hline
  exact oneLine_trim (oneLine_of_mem_splitLines raw hraw)

/-- A text starts with the same character as before if only blanks at its end are dropped. -/
theorem head?_trim_of_head? {s : List Char} {c : Char} (hs : s.head? = some c)
    (hc : isBlank c = false) : (trim s).head? = some c := by
  have hdrop : s.dropWhile isBlank = s := by
    apply dropWhile_eq_self
    intro first hfirst
    rw [hs] at hfirst
    exact Option.some.inj hfirst ▸ hc
  have hpre : trimEnd s <+: s := by
    unfold trimEnd
    simpa using (List.dropWhile_suffix isBlank (l := s.reverse)).reverse
  have hne : trimEnd s ≠ [] := by
    rw [trimEnd_eq, Ne, List.reverse_eq_nil_iff, List.dropWhile_eq_nil_iff]
    intro hall
    have := hall c (List.mem_reverse.2 (List.mem_of_head? hs))
    rw [hc] at this
    simp at this
  rw [trim_eq, hdrop]
  obtain ⟨first, rest, hfirst⟩ := List.exists_cons_of_ne_nil hne
  obtain ⟨tail, htail⟩ := hpre
  rw [hfirst] at htail ⊢
  rw [← htail] at hs
  simpa using hs

end Text

/-! ### Keys of registrants -/

namespace Registrant

theorem normal_normal (name : List Char) : normal (normal name) = normal name := by
  unfold normal
  rw [Text.trim_lower (Text.trim_trim name), Text.lower_lower]

/-- So the normal form of a name has the key of the name. -/
theorem key?_normal (name : List Char) : key? (normal name) = key? name := by
  unfold key?
  rw [normal_normal]

theorem key?_eq_ok_iff {name key : List Char} :
    key? name = .ok key ↔ normal name = key ∧ key ≠ [] ∧ isAcceptable key = true := by
  unfold key?
  simp only
  by_cases hnil : normal name = []
  · rw [if_pos hnil]
    constructor
    · simp
    · rintro ⟨rfl, hne, -⟩
      exact absurd hnil hne
  · rw [if_neg hnil]
    by_cases hok : isAcceptable (normal name) = true
    · rw [if_pos hok]
      constructor
      · intro h
        obtain rfl := Except.ok.inj h
        exact ⟨rfl, hnil, hok⟩
      · rintro ⟨rfl, -, -⟩
        rfl
    · rw [if_neg hok]
      constructor
      · simp
      · rintro ⟨rfl, -, h⟩
        exact absurd h hok

/-- No forbidden character is a capital letter. -/
theorem lowerRuns_forbidden : (Text.lowerRuns.all fun r =>
    ['=', '#', '[', ']', '\r', '\n', '/', '\\', ':'].all fun c => !r.has c.toNat) = true := by
  decide +kernel

theorem isLower_of_isForbidden {c : Char} (h : isForbidden c = true) : Text.IsLower c := by
  have hmem : c ∈ ['=', '#', '[', ']', '\r', '\n', '/', '\\', ':'] := List.contains_iff_mem.1 h
  have hnone : Text.lowerRuns.find? (·.has c.toNat) = none := by
    rw [List.find?_eq_none]
    intro r hr
    have hrun := List.all_eq_true.1 (List.all_eq_true.1 lowerRuns_forbidden r hr) c hmem
    simpa using hrun
  have hother : ∀ x ∈ ['=', '#', '[', ']', '\r', '\n', '/', '\\', ':'], x ≠ 'İ' ∧ x ≠ 'Σ' := by
    simp
  obtain ⟨hdotted, hsigma⟩ := hother c hmem
  refine ⟨?_, hsigma⟩
  rw [Text.lowerChar, if_neg hdotted, hnone]

/-- A name that has a key holds no forbidden character but at its ends. -/
theorem not_mem_trim_of_key? {name key : List Char} (h : key? name = .ok key) {c : Char}
    (hc : isForbidden c = true) : c ∉ Text.trim name := by
  intro hmem
  obtain ⟨hkey, -, hok⟩ := key?_eq_ok_iff.1 h
  have hlower : c ∈ key := by
    rw [← hkey]
    exact Text.mem_lowerFrom_of_isLower (isLower_of_isForbidden hc) hmem
  simp only [isAcceptable, Text.Letter.is_char, Bool.and_eq_true, Bool.not_eq_true',
    List.any_eq_false] at hok
  exact hok.1.1.1 c hlower hc

theorem trim_ne_nil_of_key? {name key : List Char} (h : key? name = .ok key) :
    Text.trim name ≠ [] := by
  obtain ⟨hkey, hne, -⟩ := key?_eq_ok_iff.1 h
  intro hnil
  rw [normal, hnil] at hkey
  exact hne hkey.symm

/-- **The key of a registrant is its own key.** -/
theorem key?_key {name key : List Char} (h : key? name = .ok key) : key? key = .ok key := by
  rw [key?_eq_ok_iff] at h ⊢
  obtain ⟨rfl, hne, hok⟩ := h
  exact ⟨normal_normal name, hne, hok⟩

/-- A text that is its own key. -/
def IsKey (key : String) : Prop := key? key.toList = .ok key.toList

/-- A name that stands for a registrant has a key. -/
theorem key?_of_ofArgument {name key : String} (h : ofArgument (.text name) = .ok key) :
    key? name.toList = .ok key.toList := by
  simp only [ofArgument, ofText] at h
  split at h
  · rename_i chars hchars
    obtain rfl := Except.ok.inj h
    rw [hchars, String.toList_ofList]
  · cases h
  · cases h

theorem isKey_of_ofArgument {name : Argument} {key : String} (h : ofArgument name = .ok key) :
    IsKey key := by
  cases name with
  | text name => exact key?_key (key?_of_ofArgument h)
  | _ => cases h

/-- A name that has a key stands for the registrant with this key. -/
theorem ofArgument_eq_ok_iff {name key : String} :
    ofArgument (.text name) = .ok key ↔ key? name.toList = .ok key.toList := by
  refine ⟨key?_of_ofArgument, ?_⟩
  intro h
  simp only [ofArgument, ofText, h, Except.map, String.ofList_toList]

/-- A key stands for itself when a caller gives it. -/
theorem ofArgument_key {key : String} (h : IsKey key) : ofArgument (.text key) = .ok key := by
  rw [ofArgument_eq_ok_iff]
  exact h

/-- A text in normal form that is accepted is a key. -/
theorem isKey_of_accepts {name : List Char} (h : accepts (String.ofList (normal name)) = true) :
    IsKey (String.ofList (normal name)) := by
  unfold accepts at h
  rw [IsKey]
  rw [String.toList_ofList] at h ⊢
  cases hkey : key? (normal name) with
  | error flaw =>
    rw [hkey] at h
    simp [Except.toOption] at h
  | ok key =>
    obtain ⟨hnormal, -, -⟩ := key?_eq_ok_iff.1 hkey
    rw [normal_normal] at hnormal
    rw [← hnormal]

namespace IsKey

variable {key : String} (h : IsKey key)
include h

theorem normal : Registrant.normal key.toList = key.toList := (key?_eq_ok_iff.1 h).1

theorem ne_nil : key.toList ≠ [] := (key?_eq_ok_iff.1 h).2.1

theorem acceptable : isAcceptable key.toList = true := (key?_eq_ok_iff.1 h).2.2

theorem accepts : Registrant.accepts key = true := by
  unfold Registrant.accepts
  rw [h]
  rfl

theorem trim : Text.trim key.toList = key.toList := by
  have hstable : Text.trim (Registrant.normal key.toList) = Registrant.normal key.toList := by
    unfold Registrant.normal
    exact Text.trim_lower (Text.trim_trim _)
  rwa [h.normal] at hstable

theorem lower : Text.lower key.toList = key.toList := by
  have hnormal := h.normal
  unfold Registrant.normal at hnormal
  rwa [h.trim] at hnormal

theorem not_mem {c : Char} (hc : isForbidden c = true) : c ∉ key.toList := by
  have hnot := not_mem_trim_of_key? h hc
  rwa [h.trim] at hnot

theorem oneLine : Text.OneLine key.toList := ⟨h.not_mem (by decide), h.not_mem (by decide)⟩

/-- A key is no name with a meaning in paths. -/
theorem ne_dots : key ≠ "." ∧ key ≠ ".." := by
  have hok := h.acceptable
  simp only [isAcceptable, Bool.and_eq_true, bne_iff_ne, ne_eq] at hok
  refine ⟨?_, ?_⟩
  · rintro rfl
    exact hok.1.2 rfl
  · rintro rfl
    exact hok.2 rfl

end IsKey

end Registrant

/-! ### Names of ids -/

namespace IdName

/-- A name that the line of an id can hold. -/
structure Storable (name : String) : Prop where
  ne_nil : name.toList ≠ []
  trim : Text.trim name.toList = name.toList
  oneLine : Text.OneLine name.toList
  no_mark : '=' ∉ name.toList
  no_comment : name.toList.head? ≠ some '#'

/-- Every name that a caller may give to an id can be stored. -/
theorem storable_of_flaw? {name : String} (h : flaw? name.toList = none) : Storable name := by
  unfold flaw? at h
  split at h
  · simp at h
  · rename_i hblank
    rw [not_or, Classical.not_not] at hblank
    split at h
    · simp at h
    · rename_i hchars
      simp only [Bool.or_eq_true, not_or, List.contains_iff_mem, beq_iff_eq] at hchars
      obtain ⟨⟨⟨⟨hmark, hlf⟩, hcr⟩, hhash⟩, -⟩ := hchars
      exact ⟨hblank.1, hblank.2, ⟨hlf, hcr⟩, hmark, hhash⟩

theorem storable_of_ofArgument {name : Argument} {key : String} (h : ofArgument name = .ok key) :
    name = .text key ∧ Storable key := by
  unfold ofArgument ofText at h
  split at h
  · split at h
    · rename_i hflaw
      obtain rfl := Except.ok.inj h
      exact ⟨rfl, storable_of_flaw? hflaw⟩
    · cases h
    · cases h
  · cases h

/-- **What stands before the mark of a line that says something** is a name that a line can hold. -/
theorem storable_of_cut {raw name value : List Char} (hline : Text.OneLine raw)
    (hskip : Text.isSkippable (Text.trim raw) = false) (hcut : Text.trim raw = name ++ '=' :: value)
    (hmark : '=' ∉ name) (hne : Text.trim name ≠ []) :
    Storable (String.ofList (Text.trim name)) := by
  have hsub : ∀ c ∈ Text.trim name, c ∈ raw := by
    intro c hc
    apply Text.mem_of_mem_trim
    rw [hcut]
    exact List.mem_append_left _ (Text.mem_of_mem_trim hc)
  refine ⟨by simpa using hne, ?_, ?_, ?_, ?_⟩
  · simp [Text.trim_trim]
  · simp only [String.toList_ofList]
    exact ⟨fun hn => hline.1 (hsub _ hn), fun hr => hline.2 (hsub _ hr)⟩
  · simp only [String.toList_ofList]
    exact fun hm => hmark (Text.mem_of_mem_trim hm)
  · -- the name starts as the whole line does, and the line is no comment
    simp only [String.toList_ofList]
    cases name with
    | nil => exact absurd rfl hne
    | cons first rest =>
      have hfirst : (Text.trim raw).head? = some first := by
        rw [hcut]
        rfl
      have hblank := Text.head?_trim raw first hfirst
      rw [Text.head?_trim_of_head? rfl hblank]
      intro heq
      rw [heq] at hfirst
      simp [Text.isSkippable, hfirst] at hskip

end IdName

/-! ### Names of registrants -/

namespace Registrant

/-- A name that the line of a registrant can hold. -/
structure Storable (name : String) : Prop extends IdName.Storable name where
  lower : Text.lower name.toList = name.toList

theorem IsKey.storable {key : String} (h : IsKey key) : Storable key where
  ne_nil := h.ne_nil
  trim := h.trim
  oneLine := h.oneLine
  no_mark := h.not_mem (by decide)
  no_comment := fun hhead => h.not_mem (by decide) (List.mem_of_head? hhead)
  lower := h.lower

/-- **A name that a line can hold is one in lower case too:** no mark comes up in it. -/
theorem storable_lower {name : List Char} (h : IdName.Storable (String.ofList name)) :
    Storable (String.ofList (Text.lower name)) := by
  obtain ⟨hne, htrim, ⟨hn, hr⟩, hmark, hcomment⟩ := h
  simp only [String.toList_ofList] at hne htrim hn hr hmark hcomment
  refine ⟨⟨?_, ?_, ⟨?_, ?_⟩, ?_, ?_⟩, ?_⟩ <;> rw [String.toList_ofList]
  · exact fun hnil => hne (Text.lower_eq_nil_iff.1 hnil)
  · exact Text.trim_lower htrim
  · exact fun hmem => hn (Text.mem_of_mem_lower (by decide) hmem)
  · exact fun hmem => hr (Text.mem_of_mem_lower (by decide) hmem)
  · exact fun hmem => hmark (Text.mem_of_mem_lower (by decide) hmem)
  · exact fun hhead => hcomment (Text.head?_of_head?_lower (by decide) hhead)
  · exact Text.lower_lower name

end Registrant

end Allotment
