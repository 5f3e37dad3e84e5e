import Allotment.Proofs.Registry.Lineage

/-!
# What a call for an id leaves that fails

A call that is refused should leave everything as it was. A new id is in memory before the two files
are written, so a call that fails in writing leaves it there. A disk that says why it does not write
makes the caller say so, and that a file was not saved. But a path with a NUL is no matter of the disk,
and a registrant's name may hold one: the ledger takes such a name, and the roster never gets written.
Nor is a number with too many digits, which can come about where parts of holdings are assigned.

* `Desk.Traced` — what is left in memory: the name is bound, and one id more is counted;
* `Desk.Caused` — what a failure of writing is due to: the disk, a path with a NUL, or a number with
  too many digits. Names of characters can always be written;
* `Told`, `told_of_store` — **PROVED**: what a caller is told says why the file was not written;
* `ends_grant_traced`, `ends_allocate_traced` — **PROVED**: a call that fails leaves nothing or a trace;
* `traceless_iff` — **PROVED**: it leaves nothing just if the failure is none of writing; and for a
  registrant whose roster cannot be on any disk, every new name leaves a trace;
* `traced_nul` — a registrant with a NUL in the name, who is accepted, and whose call for an id is
  said to be refused and leaves the name in memory and the count in the ledger.
-/

namespace Allotment

open Disk (touches_store_error read_of_replace tells_store replace_ne_ok)

namespace Desk

/-- What a call for an id leaves in memory when it fails too late. -/
structure Traced (d : Desk) (registrant : String) (al : Allocator) (s : Space) (key : String)
    (e : Desk) : Prop where
  new : Assoc.get? key (al.ids.get s) = none
  grants : d.Grants al s key e
  /-- The name is bound to the id that was the next one. -/
  bound : e.registry.Binds registrant s key ((d.registry.holding al.holding).get s).nextId
  /-- The id is counted. -/
  counted : ((e.registry.holding al.holding).get s).used =
    ((d.registry.holding al.holding).get s).used + 1

/-- A trace is a change of the registry. -/
theorem Traced.ne {d e : Desk} {registrant : String} {al : Allocator} {s : Space} {key : String}
    (h : d.Traced registrant al s key e) : e.registry ≠ d.registry := by
  intro hsame
  have hcounted := h.counted
  rw [hsame] at hcounted
  omega

/-- The ledger is on the disk as the registry has it. -/
def LedgerWritten (e : Desk) (l : Layout) : Prop :=
  e.disk.read l.ledgerPath = .ok (some (Text.encodeUtf8 (Ledger.write e.registry.ledger)))

/-- How a failure of writing comes about. -/
inductive Caused (d : Desk) (al : Allocator) (s : Space) (e : Desk) : Failure → Prop
  /-- The disk gives a reason, and the caller is told that a file was not saved. -/
  | notSaved (file : StateFile) (path : String) : Caused d al s e (.notSaved file path)
  /-- The write was cut short from outside. -/
  | interrupted : Caused d al s e .interrupted
  /-- The ledger cannot be on any disk. -/
  | ledger (hnul : d.registry.layout.ledgerPath.hasNul = true) : Caused d al s e .nulInPath
  /-- The roster cannot be on any disk, and the ledger was written before. -/
  | roster (hnul : al.path.hasNul = true) (hwritten : e.LedgerWritten d.registry.layout) :
    Caused d al s e .nulInPath
  /-- The id has too many digits to be told, and no file was touched. -/
  | idTooLong (hlong : ¬Text.Readable ((d.registry.holding al.holding).get s).nextId)
      (hdisk : e.disk = d.disk) : Caused d al s e .tooLongToWrite
  /-- A number in the ledger has too many digits, and no file was touched. -/
  | ledgerTooLong (hlong : ¬∀ x ∈ e.registry.ledger, ∀ n ∈ x.numbers, Text.Readable n)
      (hdisk : e.disk = d.disk) : Caused d al s e .tooLongToWrite
  /-- A number in the roster has too many digits, and the ledger was written before. -/
  | rosterTooLong (later : Allocator)
      (hlater : e.registry.allocator? al.registrant = some later)
      (hlong : ¬∀ n ∈ Roster.numbers (later.bounds e.registry) later.ids, Text.Readable n)
      (hwritten : e.LedgerWritten d.registry.layout) : Caused d al s e .tooLongToWrite

/-- What a caller may be told when a text of characters is not written, and why. -/
inductive Told (file : StateFile) (p : Path) (disk : Disk) (text : Option (List Char))
    (after : Disk) : Failure → Prop
  | notSaved : Told file p disk text after (.notSaved file p.text)
  | interrupted : Told file p disk text after .interrupted
  | nulInPath (h : p.hasNul = true) : Told file p disk text after .nulInPath
  | tooLongToWrite (h : text = none) (hdisk : after = disk) :
    Told file p disk text after .tooLongToWrite

/-- **Nothing else is told:** characters always have bytes. -/
theorem told_of_store {file : StateFile} {p : Path} {disk after : Disk} {text : Option (List Char)}
    {fault : WriteFault} (h : disk.store p text = (.error fault, after)) :
    Told file p disk text after (told file p fault) := by
  have htells := tells_store h
  unfold told
  cases fault with
  | nulInPath => exact .nulInPath htells
  | numberTooLong =>
    obtain rfl : text = none := Option.map_eq_none_iff.1 htells
    exact .tooLongToWrite rfl (Prod.mk.inj h).2.symm
  | unencodable what =>
    obtain ⟨t, -, ht⟩ := Option.map_eq_some_iff.1 htells
    rw [Text.encode_char] at ht
    cases ht
  | outage what =>
    cases hreported : what.reported with
    | true =>
      rw [if_pos (by exact hreported)]
      exact .notSaved
    | false =>
      rw [if_neg (by simp [WriteFault.isSystem, hreported]), WriteFault.failure, hreported]
      exact .interrupted
  | blocked why shown => exact .notSaved
  | fileInPlace shown => exact .notSaved
  | targetTooLong shown => exact .notSaved
  | targetIsDirectory shown => exact .notSaved

/-- The ledger's fault when it is not saved. -/
theorem Told.caused_ledger {d e : Desk} {al : Allocator} {s : Space} {f : Failure}
    (h : Told .ledger d.registry.layout.ledgerPath d.disk e.registry.ledgerText e.disk f) :
    d.Caused al s e f := by
  cases h with
  | notSaved => exact .notSaved _ _
  | interrupted => exact .interrupted
  | nulInPath hnul => exact .ledger hnul
  | tooLongToWrite hnone hdisk =>
    refine .ledgerTooLong (fun hshort => ?_) hdisk
    rw [Registry.ledgerText_eq_some_iff.2 ⟨hshort, rfl⟩] at hnone
    cases hnone

/-- The roster's fault when it is not saved after the ledger was. -/
theorem Told.caused_roster {d e : Desk} {al later : Allocator} {s : Space} {f : Failure} {disk : Disk}
    (h : Told .roster al.path disk (later.rosterText e.registry) e.disk f)
    (hlater : e.registry.allocator? al.registrant = some later)
    (hwritten : e.LedgerWritten d.registry.layout) : d.Caused al s e f := by
  cases h with
  | notSaved => exact .notSaved _ _
  | interrupted => exact .interrupted
  | nulInPath hnul => exact .roster hnul hwritten
  | tooLongToWrite hnone =>
    refine .rosterTooLong later hlater (fun hshort => ?_) hwritten
    rw [Registry.rosterText_eq_some_iff.2 ⟨hshort, rfl⟩] at hnone
    cases hnone

section Linked

variable {d : Desk} (h : d.registry.Linked) {registrant : String} {al : Allocator}
  (hal : d.registry.allocator? registrant = some al)
include h hal

/-- The registry after an id was handed out has the trace of it. -/
theorem traced_granted {s : Space} {key : String} (hnew : Assoc.get? key (al.ids.get s) = none)
    (hroom : ((d.registry.holding al.holding).get s).isFull = false) {e : Desk}
    (he : e.registry = d.registry.granted al s key) : d.Traced registrant al s key e := by
  obtain ⟨hregistrant, hlt⟩ := h.allocators registrant al hal
  refine ⟨hnew, ⟨hroom, he⟩, ⟨_, he ▸ Registry.allocator?_granted_self hregistrant, ?_⟩, ?_⟩
  · rw [Registry.get?_grantee_self]
  · have hholding : (d.registry.granted al s key).holding al.holding =
        (d.registry.holding al.holding).modify s Reservation.bump :=
      Registry.holding_modifyHolding_self hlt _
    rw [he, hholding, Both.get_modify_self]
    rfl

/-- **Handing out an id** fails at once and leaves nothing, or fails in writing and leaves a trace. -/
theorem ends_grant_traced {s : Space} {key : String}
    (hnew : Assoc.get? key (al.ids.get s) = none) :
    Ends d (grant registrant s key) (fun _ _ => True) (fun f e =>
      (f.ofWriting = false ∧ e = d) ∨
        f.ofWriting = true ∧ d.Traced registrant al s key e ∧ d.Caused al s e f) := by
  refine ends_grant_cases hal (fun _ => .inl ⟨rfl, rfl⟩)
    (fun _ _ => .inl ⟨Failure.ofWriting_met rfl, rfl⟩) ?_ ?_
  · intro _ hroom hlong
    exact .inr ⟨rfl, traced_granted h hal hnew hroom rfl, .idTooLong hlong rfl⟩
  intro _ hroom _ notices
  have hal' : (d.registry.granted al s key).allocator? registrant =
      some (d.registry.grantee al s key) :=
    Registry.allocator?_granted_self (h.allocators _ al hal).1
  refine ends_saveLedger_told ?_ ?_
  · intro disk hledger
    refine ends_saveRoster_told hal' (fun _ _ => trivial) ?_
    intro fault disk' more hroster
    refine .inr ⟨ofWriting_told _ _ _, traced_granted h hal hnew hroom rfl, ?_⟩
    have hwritten := (touches_store_error hroster).read_eq
      (read_of_replace (replace_of_storeLedger hledger))
    exact (told_of_store hroster).caused_roster ((h.allocators _ al hal).1 ▸ hal') hwritten
  · intro fault disk more hledger
    exact .inr ⟨ofWriting_told _ _ _, traced_granted h hal hnew hroom rfl,
      (told_of_store hledger).caused_ledger⟩

/-- A roster that cannot be on any disk is never written. -/
theorem ends_grant_of_nul {s : Space} {key : String} (hclosed : d.registry.closed = false)
    (hroom : ((d.registry.holding al.holding).get s).isFull = false)
    (hnul : al.path.hasNul = true) :
    Ends d (grant registrant s key) (fun _ _ => False) (fun f _ => f.ofWriting = true) := by
  have hal' : (d.registry.granted al s key).allocator? registrant =
      some (d.registry.grantee al s key) :=
    Registry.allocator?_granted_self (h.allocators _ al hal).1
  refine ends_grant_cases hal ?_ ?_ ?_ ?_
  · intro hshut
    rw [hclosed] at hshut
    cases hshut
  · intro _ hfull
    rw [hroom] at hfull
    cases hfull
  · exact fun _ _ _ => rfl
  · intro _ _ _ notices
    refine ends_saveLedger ?_ fun _ _ _ _ _ hf => hf
    intro disk _
    refine ends_saveRoster hal' ?_ fun _ _ _ _ _ hf => hf
    intro disk' hwrite
    exact absurd (congrArg Prod.fst hwrite) (replace_ne_ok hnul _)

end Linked

/-- **A call for an id that fails** leaves nothing, or fails in writing and leaves a trace. -/
theorem ends_allocate_traced {d : Desk} (h : d.registry.Linked) (registrant : String)
    (name space : Argument) :
    Ends d (allocate registrant name space) (fun _ _ => True) (fun f e =>
      (f.ofWriting = false ∧ e = d) ∨ f.ofWriting = true ∧
        ∃ al s key, d.Asks registrant name space al s key ∧ d.Traced registrant al s key e ∧
          d.Caused al s e f) := by
  refine ends_allocate_cases (fun f hf => .inl ⟨hf, rfl⟩) (fun _ _ _ _ _ _ => trivial) ?_
  intro al s key hasks _ hnew
  refine (ends_grant_traced h hasks.allocator hnew).imp (fun _ _ _ => trivial) ?_
  rintro f e (hrefused | ⟨hf, htraced, hcaused⟩)
  · exact .inl hrefused
  · exact .inr ⟨hf, al, s, key, hasks, htraced, hcaused⟩

/-- **When a call for an id that fails leaves everything as it was.** At every moment, whatever has been
assigned to holdings and whatever has become of the files: a call that fails leaves the desk as it was
just if the failure is none of writing. A failure of writing leaves the name bound and the id counted.
Then the caller is told that a file was not saved, or the write was cut short from outside, or a path
holds a NUL: that of the ledger, or that of the roster, and in this case the ledger was written. Or a
number has too many digits: the id itself, or one in the ledger, or one in the roster, and in this case
the ledger was written.

So it is with every call of a registrant whose roster has such a path: as long as the registry is open
and there is room, a new name that an id may have gets an id and leaves a trace, and the call fails. -/
theorem traceless_iff (layout : Layout) (passes : Int) (disk : Disk) (incidents : List Incident) :
    let d := chronicle layout passes disk incidents
    (∀ registrant name space f e, allocate registrant name space d = .error f e →
      (e = d ↔ f.ofWriting = false) ∧ (e.registry = d.registry ↔ f.ofWriting = false) ∧
      (f.ofWriting = true → ∃ al s key, d.Asks registrant name space al s key ∧
        d.Traced registrant al s key e ∧ d.Caused al s e f)) ∧
    ∀ registrant al s space key, d.registry.closed = false →
      d.registry.allocator? registrant = some al → al.path.hasNul = true →
      space.toSpace = .ok s → IdName.ofArgument (.text key) = .ok key →
      Assoc.get? key (al.ids.get s) = none →
      ((d.registry.holding al.holding).get s).isFull = false →
      ∃ f e, allocate registrant (.text key) space d = .error f e ∧ f.ofWriting = true ∧
        d.Traced registrant al s key e := by
  intro d
  have h : d.registry.Linked := linked_chronicle layout passes disk incidents
  refine ⟨?_, ?_⟩
  · intro registrant name space f e hact
    rcases (ends_allocate_traced h registrant name space).of_error hact with
      ⟨hf, rfl⟩ | ⟨hf, al, s, key, hasks, htraced, hcaused⟩
    · rw [hf]
      exact ⟨iff_of_true rfl rfl, iff_of_true rfl rfl, fun hw => by cases hw⟩
    · have hne := htraced.ne
      rw [hf]
      refine ⟨iff_of_false (fun hsame => hne (congrArg Desk.registry hsame)) Bool.noConfusion,
        iff_of_false hne Bool.noConfusion, fun _ => ⟨al, s, key, hasks, htraced, hcaused⟩⟩
  · intro registrant al s space key hclosed hal hnul hspace hname hnew hroom
    have hends := (ends_allocate_of_unbound hal hspace hname hnew).2
      ((ends_grant_of_nul h hal hclosed hroom hnul).and (ends_grant_traced h hal hnew))
    cases hact : allocate registrant (.text key) space d with
    | ok id e => exact (hends.of_ok hact).1.elim
    | error f e =>
      obtain ⟨hf, hcase⟩ := hends.of_error hact
      refine ⟨f, e, rfl, hf, ?_⟩
      rcases hcase with ⟨hnot, -⟩ | ⟨-, htraced, -⟩
      · cases hf.symm.trans hnot
      · exact htraced

/-- A registry with an allocator of a registrant whose name holds a NUL. -/
def accepting : Desk :=
  chronicle {} 2 {} [.event (.asked (.allocatorFor (.text "a\x00b") .null .null))]

/-- A name with a blank is refused and leaves nothing; any other new name leaves a trace. -/
theorem traceless_accepting :
    (∃ f e, allocate "a\x00b" (.text " x") (.space .a) accepting = .error f e ∧
      f.ofWriting = false ∧ e = accepting) ∧
    ∃ al f e, accepting.registry.allocator? "a\x00b" = some al ∧ al.path.hasNul = true ∧
      allocate "a\x00b" (.text "x") (.space .a) accepting = .error f e ∧
      accepting.Traced "a\x00b" al .a "x" e := by
  have hrefused : accepting.fails (allocate "a\x00b" (.text " x") (.space .a)) (fun f _ =>
      decide (f.ofWriting = false)) = true := by
    decide +kernel
  have hclosed : accepting.registry.closed = false := by decide +kernel
  have hallocator : (accepting.registry.allocator? "a\x00b").any (fun al => al.path.hasNul &&
      (Assoc.get? "x" (al.ids.get .a)).isNone &&
      !((accepting.registry.holding al.holding).get .a).isFull) = true := by
    decide +kernel
  have hname : IdName.ofArgument (.text "x") = .ok "x" := by decide +kernel
  have htraceless := traceless_iff {} 2 {}
    [.event (.asked (.allocatorFor (.text "a\x00b") .null .null))]
  rw [← accepting] at htraceless
  generalize accepting = d at *
  obtain ⟨f, e, hact, hf⟩ := exists_error_of_fails hrefused
  have hf := of_decide_eq_true hf
  refine ⟨⟨f, e, hact, hf, ((htraceless.1 _ _ _ _ _ hact).1).2 hf⟩, ?_⟩
  cases hal : d.registry.allocator? "a\x00b" with
  | none =>
    rw [hal] at hallocator
    cases hallocator
  | some al =>
    rw [hal, Option.any_some, Bool.and_eq_true, Bool.and_eq_true, Option.isNone_iff_eq_none,
      Bool.not_eq_true'] at hallocator
    obtain ⟨⟨hnul, hnew⟩, hroom⟩ := hallocator
    obtain ⟨g, e, hact, -, htraced⟩ :=
      htraceless.2 _ al .a (.space .a) "x" hclosed hal hnul rfl hname hnew hroom
    exact ⟨al, g, e, rfl, hnul, hact, htraced⟩

/-- **A call that leaves a trace.** The registrant is accepted, and the call for an id does not say that
a file was not saved. Afterwards the name is bound, and the count in the ledger is another. -/
theorem traced_nul : Registrant.ofArgument (.text "a\x00b") = .ok "a\x00b" ∧
    accepting.registry.isOpen = true ∧ ∃ e,
      allocate "a\x00b" (.text "x") (.space .a) accepting = .error .nulInPath e ∧
      (accepting.registry.allocator? "a\x00b").map (fun al => al.ids.a) = some [] ∧
      (e.registry.allocator? "a\x00b").map (fun al => al.ids.a.map Prod.fst) = some ["x"] ∧
      (accepting.registry.holding 0).a.used = 0 ∧ (e.registry.holding 0).a.used = 1 ∧
      e.disk.read e.registry.layout.ledgerPath ≠
        accepting.disk.read accepting.registry.layout.ledgerPath := by
  have hfails : accepting.fails (allocate "a\x00b" (.text "x") (.space .a)) (fun f e =>
      decide (f = .nulInPath ∧
        (e.registry.allocator? "a\x00b").map (fun al => al.ids.a.map Prod.fst) = some ["x"] ∧
        (e.registry.holding 0).a.used = 1 ∧
        (e.disk.read e.registry.layout.ledgerPath).toOption ≠
          (accepting.disk.read accepting.registry.layout.ledgerPath).toOption)) = true := by
    decide +kernel
  obtain ⟨f, e, hact, htest⟩ := exists_error_of_fails hfails
  obtain ⟨rfl, hbound, hused, hdisk⟩ := of_decide_eq_true htest
  refine ⟨by decide +kernel, by decide +kernel, e, hact, by decide +kernel, hbound,
    by decide +kernel, hused, fun hsame => hdisk ?_⟩
  rw [hsame]

end Desk

end Allotment
