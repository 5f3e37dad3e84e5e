import Allotment.Proofs.Registry.Isolation
import Allotment.Proofs.Registry.Loading

/-!
# Spellings of a registrant

People name a registrant in two places: before the mark of a line of the ledger, and in a request. The
reader of the ledger puts the name in normal form, and the settlement only asks whether the result may
be a key; a request puts its name in normal form again. Nothing keeps the two in step but that the
normal form of a normal form is itself.

* `Registrant.SameKey` — two spellings with one key;
* `Ledger.registrant_of_accepts` — **PROVED**: the settlement accepts the name of an entry just if a
  request would accept what stands before the mark, and then both have the same key;
* `Desk.getOrCreate_eq_number_iff` — **PROVED**: which names are met with the holding of a registrant;
* `Desk.found_by_spelling` — **PROVED**: so the line of one spelling and the request of another come
  together just if the two have one key, at whatever later time the request comes.
-/

namespace Allotment

/-! ### Spellings with one key -/

namespace Registrant

/-- Two spellings of one registrant: both have a key, and it is the same. -/
def SameKey (x y : String) : Prop :=
  ∃ key, ofArgument (.text x) = .ok key ∧ ofArgument (.text y) = .ok key

theorem sameKey_iff {x y key : String} (hy : ofArgument (.text y) = .ok key) :
    SameKey x y ↔ ofArgument (.text x) = .ok key := by
  constructor
  · intro h
    obtain ⟨other, hx, hother⟩ := h
    rw [hx, ← hother, hy]
  · intro hx
    exact ⟨key, hx, hy⟩

/-- A name is accepted in normal form just if it is accepted as it is. -/
theorem accepts_normal (name : List Char) :
    accepts (String.ofList (normal name)) = accepts (String.ofList name) := by
  unfold accepts
  rw [String.toList_ofList, String.toList_ofList, key?_normal]

/-- The normal form of a name is its key, if it is accepted. -/
theorem ofArgument_of_accepts {name : List Char} (h : accepts (String.ofList (normal name)) = true) :
    ofArgument (.text (String.ofList name)) = .ok (String.ofList (normal name)) := by
  have hkey := isKey_of_accepts h
  rw [IsKey, String.toList_ofList, key?_normal] at hkey
  rw [ofArgument_eq_ok_iff, String.toList_ofList, String.toList_ofList]
  exact hkey

end Registrant

/-- **What a line is keyed by.** The name of an entry is accepted just if what stands before the mark
of its line is, and then it is the key of what stands there. -/
theorem Ledger.registrant_of_accepts {lineNo : Option Int} {key values : List Char} {x : Entry}
    (hmark : '=' ∉ key) (hread : readEntry lineNo (key ++ '=' :: values) = .ok x) :
    (Registrant.accepts x.registrant = true ↔ Registrant.accepts (String.ofList key) = true) ∧
      (Registrant.accepts x.registrant = true →
        Registrant.ofArgument (.text (String.ofList key)) = .ok x.registrant) := by
  rw [registrant_of_readEntry hmark hread]
  refine ⟨?_, Registrant.ofArgument_of_accepts⟩
  rw [Registrant.accepts_normal]

/-! ### The rows of a ledger -/

section Accounts

variable {source : String} {lines : List Text.NumberedLine}
  {fates : List (Text.NumberedLine × Ledger.Fate)} {issues : List Issue}
  {table : List (String × Holding)} (h : Ledger.Accounts source lines fates issues table)
include h

/-- Every row of the table comes from a line that is accepted. -/
theorem Ledger.Accounts.exists_accepted {row : String × Holding} (hrow : row ∈ table) :
    ∃ l x, (l, Ledger.Fate.accepted x) ∈ fates ∧ l ∈ lines ∧ row = (x.registrant, x.settled) := by
  rw [h.rows] at hrow
  obtain ⟨⟨l, fate⟩, hfate, haccepted⟩ := List.mem_filterMap.1 hrow
  have hline : l ∈ lines := h.complete ▸ List.mem_map_of_mem hfate
  cases fate with
  | skipped flaw => cases haccepted
  | dropped x why => cases haccepted
  | accepted x => exact ⟨l, x, hfate, hline, (Option.some.inj haccepted).symm⟩

/-- **The row of a line that is accepted** has the key of what stands before the mark. -/
theorem Ledger.Accounts.mem_of_accepted {l : Text.NumberedLine} {x : Ledger.Entry}
    (hfate : (l, Ledger.Fate.accepted x) ∈ fates) {key values : List Char}
    (hline : l.chars = key ++ '=' :: values) (hmark : '=' ∉ key) :
    (x.registrant, x.settled) ∈ table ∧
      Registrant.ofArgument (.text (String.ofList key)) = .ok x.registrant := by
  obtain ⟨earlier, hbefalls⟩ := h.settles.befalls (l, .accepted x) hfate
  cases hbefalls with
  | accepted hread hpass _ =>
    rw [hline] at hread
    refine ⟨?_, (Ledger.registrant_of_accepts hmark hread).2 hpass.name⟩
    rw [h.rows]
    exact List.mem_filterMap.2 ⟨(l, .accepted x), hfate, rfl⟩

end Accounts

/-! ### The holding that a name is met with -/

/-- A row of the table by value has a number. -/
theorem Registry.Lawful.exists_number {r : Registry} (h : r.Lawful) {row : String × Holding}
    (hrow : row ∈ r.entries) :
    ∃ number, Assoc.get? row.1 r.table = some number ∧ r.holding number = row.2 := by
  obtain ⟨⟨name, number⟩, hmem, rfl⟩ := List.mem_map.1 hrow
  exact ⟨number, Assoc.get?_of_mem h.nodup hmem, rfl⟩

namespace Desk

/-- **Who is met with the holding of a registrant:** exactly the requests that name the registrant and
want what can be had, as long as the registry is not closed. Others are refused, or get a holding of
their own. -/
theorem getOrCreate_eq_number_iff {d : Desk} (h : d.registry.Lawful) {registrant : String}
    {number : Nat} (hget : Assoc.get? registrant d.registry.table = some number)
    (name sizeA sizeB : Argument) :
    (∃ e, getOrCreate name sizeA sizeB d = .ok number e) ↔
      Registrant.ofArgument name = .ok registrant ∧
        (∃ want, wanted d.registry.layout name sizeA sizeB = .ok want) ∧
          d.registry.closed = false := by
  constructor
  · intro hmet
    obtain ⟨e, hact⟩ := hmet
    obtain ⟨hturn, other, hname, hholds⟩ := (follows_getOrCreate h name sizeA sizeB).of_ok hact
    -- the registrant keeps its number, and at the end the number has two names
    have hkept := (hturn.registry.holdings registrant number hget).1
    obtain rfl : other = registrant := hturn.registry.lawful.eq_of_number hholds.1 hkept
    rw [getOrCreate_of_mem h hname hget] at hact
    cases hwanted : wanted d.registry.layout name sizeA sizeB with
    | error f =>
      rw [hwanted] at hact
      cases hact
    | ok want =>
      refine ⟨hname, ⟨want, rfl⟩, ?_⟩
      cases hclosed : d.registry.closed with
      | false => rfl
      | true =>
        rw [hwanted, hclosed] at hact
        cases hact
  · intro hasked
    obtain ⟨hname, ⟨want, hwanted⟩, hclosed⟩ := hasked
    rw [getOrCreate_of_mem h hname hget, hwanted, hclosed]
    exact ⟨_, rfl⟩

/-- **A registrant is found by every spelling of its key, and by no other name.** The key of a name
is its own key. The name of an entry of the ledger is accepted just if what stands before the mark of
its line is, and is then the key of what stands there. So when a registry opens with a ledger, each
line that is accepted gives a holding, and at any later time a name is looked up as this holding, and
met with it, just if the name and what stands before the mark have one key. -/
theorem found_by_spelling :
    (∀ name key, Registrant.ofArgument name = .ok key → Registrant.ofArgument (.text key) = .ok key) ∧
      (∀ lineNo key values x, '=' ∉ key →
        Ledger.readEntry lineNo (key ++ '=' :: values) = .ok x →
          (Registrant.accepts x.registrant = true ↔
            Registrant.accepts (String.ofList key) = true) ∧
          (Registrant.accepts x.registrant = true →
            Registrant.ofArgument (.text (String.ofList key)) = .ok x.registrant)) ∧
      ∀ (layout : Layout) (passes : Int) (disk : Disk) (bytes : List UInt8),
        disk.read layout.ledgerPath = .ok (some bytes) →
          ∃ e fates, openLedger (fresh layout passes disk) = .ok ⟨⟩ e ∧
            Ledger.Accounts layout.ledgerPath.text (Text.significant (Text.fileLines bytes)) fates
              e.registry.report.issues e.registry.entries ∧
            ∀ l x, (l, Ledger.Fate.accepted x) ∈ fates →
              ∀ key values, l.chars = key ++ '=' :: values → '=' ∉ key →
                ∃ number, e.registry.holding number = x.settled ∧
                  ∀ (requests : List Request) (name : String),
                    let d := e.run requests
                    ((∃ registrant, Registrant.ofArgument (.text name) = .ok registrant ∧
                        Assoc.get? registrant d.registry.table = some number) ↔
                      Registrant.SameKey name (String.ofList key)) ∧
                    ∀ sizeA sizeB, (∃ f, getOrCreate (.text name) sizeA sizeB d = .ok number f) ↔
                      Registrant.SameKey name (String.ofList key) ∧
                        (∃ want, wanted layout (.text name) sizeA sizeB = .ok want) ∧
                          d.registry.closed = false := by
  refine ⟨fun name key h => Registrant.ofArgument_key (Registrant.isKey_of_ofArgument h),
    fun lineNo key values x => Ledger.registrant_of_accepts, ?_⟩
  intro layout passes disk bytes hread
  have hfresh : (fresh layout passes disk).registry.Lawful := Registry.lawful_fresh layout passes
  obtain ⟨⟨⟩, e, hact, -, hregistry⟩ :=
    (@ends_openLedger_of_found (fresh layout passes disk) rfl rfl bytes hread).exists_ok
  obtain ⟨fates, haccounts⟩ := accounts_loaded (fresh layout passes disk) bytes
  rw [← hregistry] at haccounts
  have hturn := ((follows_openLedger hfresh).of_ok hact).1
  have hlawful : e.registry.Lawful := hturn.registry.lawful
  refine ⟨e, fates, hact, haccounts, ?_⟩
  intro l x hfate key values hline hmark
  obtain ⟨hrow, hkey⟩ := haccounts.mem_of_accepted hfate hline hmark
  obtain ⟨number, hget, hholding⟩ := hlawful.exists_number hrow
  refine ⟨number, hholding, ?_⟩
  intro requests name d
  -- the registrant of the line keeps the number, and nobody else has it
  have honward := (onward_run hlawful requests).registry
  have hlater := (honward.holdings x.registrant number hget).1
  have hlayout : d.registry.layout = layout := honward.layout.trans hturn.registry.layout
  rw [Registrant.sameKey_iff hkey]
  constructor
  · constructor
    · intro hlookup
      obtain ⟨registrant, hname, hfound⟩ := hlookup
      rwa [honward.lawful.eq_of_number hfound hlater] at hname
    · intro hname
      exact ⟨x.registrant, hname, hlater⟩
  · intro sizeA sizeB
    rw [← hlayout]
    exact getOrCreate_eq_number_iff honward.lawful hlater (.text name) sizeA sizeB

/-- A ledger that names a registrant in capitals, with a blank before the mark. The last letter has a
lower case of its own at the end of a word. -/
def capitals : List UInt8 :=
  Text.encodeUtf8 (Text.unlines ["ΑΣ =2024,64,4096,256,0,0".toList])

/-- A new registry that finds it. -/
def addressed : Desk :=
  fresh {} 2 { nodes := [(["tmp", "work", "config"], .dir), (["tmp", "work", "config", "id"], .dir),
    (["tmp", "work", "config", "id", "!reservations.cfg"], .file capitals)] }

/-- The registrant is met with this holding under a spelling with the same key, and not under one that
ends in the other lower case of the letter. -/
theorem found_by_spelling_sigma :
    ∃ e number, openLedger addressed = .ok ⟨⟩ e ∧ e.registry.registrants = ["ας"] ∧
      (∃ f, getOrCreate (.text " Ας") (.int 8) (.int 8) e = .ok number f) ∧
      ¬∃ f, getOrCreate (.text "ασ") (.int 8) (.int 8) e = .ok number f := by
  have hread : addressed.disk.read ({} : Layout).ledgerPath = .ok (some capitals) := by
    decide +kernel
  have hlines : Text.significant (Text.fileLines capitals) =
      [⟨1, "ΑΣ ".toList ++ '=' :: "2024,64,4096,256,0,0".toList⟩] := by
    decide +kernel
  have hreturns : addressed.returns openLedger (fun _ e =>
      decide (e.registry.registrants = ["ας"]) && decide (e.registry.closed = false)) = true := by
    decide +kernel
  have hkeys : Registrant.ofArgument (.text "ΑΣ ") = .ok "ας" ∧
      Registrant.ofArgument (.text " Ας") = .ok "ας" ∧
        Registrant.ofArgument (.text "ασ") ≠ .ok "ας" := by
    decide +kernel
  have hfresh : addressed = fresh {} 2 addressed.disk := rfl
  generalize addressed.disk = disk at hread hfresh
  generalize addressed = d at hreturns hfresh ⊢
  generalize capitals = bytes at hread hlines
  subst hfresh
  obtain ⟨e, fates, hact, haccounts, hfound⟩ := found_by_spelling.2.2 {} 2 disk bytes hread
  rw [returns, hact, Bool.and_eq_true, decide_eq_true_eq, decide_eq_true_eq] at hreturns
  obtain ⟨hregistrants, hclosed⟩ := hreturns
  -- the one row of the table comes from the one line of the file
  have hrow : "ας" ∈ Assoc.keys e.registry.entries := by
    rw [Registry.keys_entries]
    show "ας" ∈ e.registry.registrants
    rw [hregistrants]
    exact List.mem_cons_self
  obtain ⟨row, hrow, -⟩ := List.mem_map.1 hrow
  obtain ⟨l, x, hfate, hline, -⟩ := haccounts.exists_accepted hrow
  rw [hlines, List.mem_singleton] at hline
  obtain ⟨number, -, hspell⟩ := hfound l x hfate "ΑΣ ".toList "2024,64,4096,256,0,0".toList
    (by rw [hline]) (by decide)
  rw [String.ofList_toList] at hspell
  refine ⟨e, number, hact, hregistrants, ?_, ?_⟩
  · obtain ⟨sizes, hwanted⟩ := wanted_usual ({} : Layout).dir hkeys.2.1 8 8
    exact ((hspell [] " Ας").2 (.int 8) (.int 8)).2
      ⟨⟨"ας", hkeys.2.1, hkeys.1⟩, ⟨_, hwanted⟩, hclosed⟩
  · intro hother
    obtain ⟨⟨key, hname, hkey⟩, -⟩ := ((hspell [] "ασ").2 (.int 8) (.int 8)).1 hother
    rw [hkeys.1] at hkey
    exact hkeys.2.2 (hname.trans hkey.symm)

end Desk

end Allotment
