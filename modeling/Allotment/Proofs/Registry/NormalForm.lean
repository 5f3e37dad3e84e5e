import Allotment.Proofs.Registry.SettingUp

/-!
# Files in normal form

The files of a registry are edited by hand, so they may say the same in many ways, and some of what
they say is mended or dropped. A registry that is set up on them and saved brings them into a normal
form: the next registry finds nothing to mend.

* `Desk.UpToDate` — a registry in which everybody has an allocator, and whose files are what it prints;
* `upToDate_of_printed` — **PROVED**: such is a registry after all of it was saved;
* `Desk.Resumes` — what a registry is that goes on with the files of another one: it has the same
  table and the same ids, and nothing was wrong with the files;
* `ends_openLedger_resumes`, `Resumes.allocatorFor` — **PROVED**: a new registry on files that are up
  to date goes on with them, and so it stays with each allocator that is made;
* `sameFiles_of_resumed` — **PROVED**: when it is saved, the files stay the same, byte by byte;
* `normal_form` — **PROVED**: whatever the files said, a registry that is set up on them and saved
  leaves them so that the next one agrees with it.
-/

namespace Allotment

namespace Roster

/-- The order of ids does not matter to what a name stands for. -/
theorem get?_inOrder {ids : NamedIds} (hnodup : (Assoc.keys ids).Nodup) (name : String) :
    Assoc.get? name (inOrder ids) = Assoc.get? name ids :=
  Assoc.get?_of_perm hnodup (perm_sortBy _ _) name

end Roster

namespace Registry

/-- Registries with the same table by value have the same holding for each registrant. -/
theorem holding_eq_of_entries {r r' : Registry} (h : r'.entries = r.entries) {k : String}
    {number number' : Nat} (hget : Assoc.get? k r.table = some number)
    (hget' : Assoc.get? k r'.table = some number') : r'.holding number' = r.holding number := by
  have hfound : Assoc.get? k r'.entries = Assoc.get? k r.entries := by rw [h]
  rw [get?_entries, get?_entries, hget, hget'] at hfound
  exact Option.some.inj hfound

theorem registrants_eq_of_entries {r r' : Registry} (h : r'.entries = r.entries) :
    r'.registrants = r.registrants := by
  rw [registrants, registrants, ← keys_entries, ← keys_entries, h]

end Registry

namespace Desk

/-! ### Files that are up to date -/

/-- Everybody in the table has an allocator, and the files are what the registry prints. -/
structure UpToDate (d : Desk) : Prop where
  workable : d.Workable
  staffed : d.Staffed
  ledger : d.disk.read d.registry.layout.ledgerPath =
    .ok (some (Text.encodeUtf8 (Ledger.write (Ledger.describe d.registry.entries))))
  rosters : ∀ k al, d.registry.allocator? k = some al →
    d.disk.read al.path = .ok (some (Text.encodeUtf8 (al.roster d.registry)))

/-- **After all is saved,** the files are up to date. -/
theorem upToDate_of_printed {d e : Desk} (h : d.Workable) (hstaffed : d.Staffed)
    (hprinted : d.Printed d.registry.registrants e) : e.UpToDate := by
  obtain ⟨r, disk, notices⟩ := e
  obtain rfl : r = d.registry := hprinted.registry
  refine ⟨⟨h.lawful, h.plain, h.opened, h.closed, ⟨_, hprinted.ledger⟩⟩, hstaffed, hprinted.ledger, ?_⟩
  intro k al hal
  refine hprinted.rosters k ?_ al hal
  exact mem_registrants_iff.2 ⟨_, (h.lawful.allocators k al hal).holding⟩

/-! ### Going on with the files of another registry -/

/-- A registry `e` that goes on with the files of a registry `d`. -/
structure Resumes (d e : Desk) : Prop where
  layout : e.registry.layout = d.registry.layout
  disk : e.disk = d.disk
  entries : e.registry.entries = d.registry.entries
  clean : e.registry.report.issues = []
  allocators : ∀ k al', e.registry.allocator? k = some al' → ∃ al,
    d.registry.allocator? k = some al ∧ al'.report.issues = [] ∧
      ∀ s, al'.ids.get s = Roster.inOrder (al.ids.get s)

/-- **A new registry on files that are up to date** takes over the table, and nothing is wrong with the
ledger. -/
theorem ends_openLedger_resumes {d : Desk} (h : d.UpToDate) (passes : Int) :
    Ends (fresh d.registry.layout passes d.disk) openLedger (fun _ e => Resumes d e)
      (fun _ _ => False) := by
  have hconsistent := h.workable.lawful.consistent
  have hsettle := Ledger.settle_read_write hconsistent
  refine ends_openLedger_of_unopened rfl rfl ?_ ?_ ?_
  · intro bytes notices hread
    have hbytes := h.ledger.symm.trans hread
    simp only [Except.ok.injEq, Option.some.injEq] at hbytes
    subst hbytes
    refine ⟨loaded_layout _ _, rfl, ?_, ?_, ?_⟩
    · simp only [loaded_entries, linesOf, hsettle]
    · simp only [loaded_issues, linesOf, hsettle]
      rw [Ledger.issues_read_write hconsistent.storable]
      rfl
    · intro k al' hal
      simp only [Registry.allocator?, loaded_allocators] at hal
      cases hal
  · intro notices hread
    cases h.ledger.symm.trans hread
  · intro f hread
    cases h.ledger.symm.trans hread

/-- **A printed roster is admitted as it is:** all ids come back in order, and nothing else happens. -/
theorem admission_of_printed {d e : Desk} (h : d.registry.Lawful) {k : String} {al : Allocator}
    (hal : d.registry.allocator? k = some al) {number : Nat}
    (hholding : e.registry.holding number = d.registry.holding al.holding) :
    let admission := e.admission number (some (Text.encodeUtf8 (al.roster d.registry)))
    admission.holding = e.registry.holding number ∧ admission.findings = [] ∧
      ∀ s, admission.ids.get s = Roster.inOrder (al.ids.get s) := by
  intro admission
  have hlawful := h.allocators k al hal
  have hlisted := Registry.listedIn_roster h hlawful
  have hadmission : admission = Roster.receive (e.registry.holding number) (Roster.entries (Roster.read
      (Text.fileLines (Text.encodeUtf8 (al.roster d.registry))))) := rfl
  rw [hadmission, hholding]
  generalize Roster.entries (Roster.read
    (Text.fileLines (Text.encodeUtf8 (al.roster d.registry)))) = entries at hlisted ⊢
  have hbound : ∀ s, Roster.Bound ((d.registry.holding al.holding).get s).window
      (Roster.listedIn entries s) := by
    intro s
    rw [hlisted s]
    exact (hlawful.bound s).inOrder
  have hcovers : ∀ s, ∀ x ∈ Roster.listedIn entries s,
      ((d.registry.holding al.holding).get s).Covers x.2 := by
    intro s x hx
    rw [hlisted s] at hx
    exact hlawful.covers s x (mem_sortBy.1 hx)
  obtain ⟨hsame, hnone⟩ := Roster.receive_of_covered hbound hcovers
  exact ⟨hsame, hnone, fun s => (Roster.receive_of_listed (hbound s)).trans (hlisted s)⟩

/-- Another allocator is taken in. -/
theorem Resumes.enlist {d e : Desk} (he : Resumes d e) {al al' : Allocator}
    (hal : d.registry.allocator? al'.registrant = some al) (hclean : al'.report.issues = [])
    (hids : ∀ s, al'.ids.get s = Roster.inOrder (al.ids.get s)) (notices : List Notice) :
    Resumes d ⟨e.registry.setAllocator al', e.disk, notices⟩ := by
  refine ⟨he.layout, he.disk, he.entries, he.clean, ?_⟩
  intro k other hother
  have hput : Assoc.get? k (Assoc.put al'.registrant al' e.registry.allocators) = some other := hother
  by_cases hk : k = al'.registrant
  · subst hk
    rw [Assoc.get?_put_self] at hput
    obtain rfl := Option.some.inj hput
    exact ⟨al, hal, hclean, hids⟩
  · rw [Assoc.get?_put_of_ne hk] at hput
    exact he.allocators k other hput

/-- **So it stays with each allocator that is made,** and nothing is written. -/
theorem Resumes.allocatorFor {d e : Desk} (h : d.UpToDate) (he : Resumes d e) (hlawful : e.registry.Lawful)
    (hclosed : e.registry.closed = false) {k : String} (hk : k ∈ d.registry.registrants) :
    Ends e (allocatorFor (.text k) .null .null) (fun _ f => Resumes d f) (fun _ _ => False) := by
  obtain ⟨al, hal⟩ := Option.isSome_iff_exists.1 (h.staffed k hk)
  rw [← Registry.registrants_eq_of_entries he.entries] at hk
  obtain ⟨number, hget⟩ := mem_registrants_iff.1 hk
  have hal' := h.workable.lawful.allocators k al hal
  have hholding := Registry.holding_eq_of_entries he.entries hal'.holding hget
  have hpath : e.registry.layout.rosterPath k = .ok al.path := he.layout ▸ hal'.path
  have hprinted : e.disk.read al.path = .ok (some (Text.encodeUtf8 (al.roster d.registry))) :=
    he.disk ▸ h.rosters k al hal
  have hfiles : ∀ path bytes, e.registry.layout.rosterPath k = .ok path →
      e.disk.read path = .ok bytes → bytes = some (Text.encodeUtf8 (al.roster d.registry)) := by
    intro path bytes hp hbytes
    obtain rfl := Except.ok.inj (hpath.symm.trans hp)
    exact Except.ok.inj (hbytes.symm.trans hprinted)
  obtain ⟨hsame, hnone, hids⟩ := admission_of_printed (e := e) h.workable.lawful hal hholding
  refine ends_allocatorFor_of_mem hlawful hclosed hget ?_ ?_ ?_ ?_
  · exact fun _ => he
  · exact fun hnot _ _ => hnot ⟨_, _, hpath, hprinted⟩
  · intro path bytes hp hbytes _ notices
    obtain rfl := hfiles path bytes hp hbytes
    have hregistrant : d.registry.allocator? (e.made k number path
        (some (Text.encodeUtf8 (al.roster d.registry)))).registrant = some al := by
      rw [made_registrant]
      exact hal
    refine he.enlist hregistrant ?_ ?_ notices
    · rw [made_issues, hnone, List.map_nil, List.append_nil]
      exact Registry.issues_roster h.workable.lawful hal' path.text (some k)
    · rw [made_ids]
      exact hids
  · -- The counts that were printed are past the ids that were printed, so none of them moves.
    intro path bytes hp hbytes hmoved
    obtain rfl := hfiles path bytes hp hbytes
    exact absurd hsame hmoved

/-- **A registry that is set up on files that are up to date** goes on with them, and cannot fail. -/
theorem ends_setUp_resumes {d : Desk} (h : d.UpToDate) (passes : Int) :
    Ends (fresh d.registry.layout passes d.disk) setUp
      (fun _ e => Resumes d e ∧ e.Workable ∧ e.Staffed) (fun _ _ => False) := by
  -- That everybody gets an allocator is known from `ends_setUp`. What is left is which one.
  have hwhole := ends_setUp h.workable.plain passes d.disk
  have hopens := Ends.and (ends_openLedger_resumes h passes)
    (ends_openLedger_fresh h.workable.plain passes d.disk)
  have hresumes : Ends (fresh d.registry.layout passes d.disk) setUp (fun _ e => Resumes d e)
      (fun _ _ => False) := by
    unfold setUp
    refine hopens.bind (fun _ _ hf => hf.1) ?_
    rintro _ e ⟨he, hworkable, -⟩
    rw [ends_bind, ends_current]
    refine (ends_forM (I := fun _ f => Resumes d f ∧ f.Workable) ?_ ⟨he, hworkable⟩).imp ?_
      fun _ _ hf => hf
    · rintro done k rest f hnames ⟨hf, hfworkable⟩
      have hk : k ∈ d.registry.registrants := by
        rw [← Registry.registrants_eq_of_entries he.entries, hnames]
        simp
      rw [ends_bind]
      have hk' : k ∈ f.registry.registrants := by
        rwa [Registry.registrants_eq_of_entries hf.entries]
      refine (Ends.and (hf.allocatorFor h hfworkable.lawful hfworkable.closed hk)
        (hfworkable.allocatorFor hk')).imp ?_ fun _ _ hg => hg.1
      exact fun _ g hg => ⟨hg.1, hg.2.1.workable⟩
    · exact fun _ f hf => hf.1
  exact (Ends.and hresumes hwhole).imp (fun _ _ he => ⟨he.1, he.2.1, he.2.2.2⟩) fun _ _ hf => hf.1

/-! ### Saving again -/

/-- A roster is printed as before by the registry that goes on. -/
theorem Resumes.roster_eq {d e : Desk} (he : Resumes d e) (h : d.registry.Lawful)
    (hlawful : e.registry.Lawful) {k : String} {al al' : Allocator}
    (hal : d.registry.allocator? k = some al) (hal' : e.registry.allocator? k = some al')
    (hids : ∀ s, al'.ids.get s = Roster.inOrder (al.ids.get s)) :
    al'.path = al.path ∧ al'.roster e.registry = al.roster d.registry := by
  have hold := h.allocators k al hal
  have hnew := hlawful.allocators k al' hal'
  have hholding := Registry.holding_eq_of_entries he.entries hold.holding hnew.holding
  have hbounds : al'.bounds e.registry = al.bounds d.registry := by
    unfold Allocator.bounds
    rw [hholding]
  refine ⟨?_, ?_⟩
  · have hpath := hnew.path
    rw [he.layout, hold.path] at hpath
    exact (Except.ok.inj hpath).symm
  · rw [Allocator.roster, Allocator.roster, hbounds, hnew.registrant_eq, hold.registrant_eq]
    exact Roster.write_inOrder k _ hids

/-- **When all is saved again,** the files stay the same. -/
theorem sameFiles_of_resumed {d e f : Desk} (h : d.UpToDate) (he : Resumes d e) (hworkable : e.Workable)
    (hstaffed : e.Staffed) (hprinted : e.Printed e.registry.registrants f) :
    SameFiles d.registry.layout d.disk f.disk := by
  refine ⟨?_, ?_⟩
  · have hledger : e.registry.ledger = Ledger.describe d.registry.entries :=
      congrArg Ledger.describe he.entries
    rw [h.ledger, ← he.layout, hprinted.ledger, hledger]
  · intro k p hk hp
    by_cases hmem : k ∈ e.registry.registrants
    · obtain ⟨al', hal'⟩ := Option.isSome_iff_exists.1 (hstaffed k hmem)
      obtain ⟨al, hal, -, hids⟩ := he.allocators k al' hal'
      obtain ⟨hpath, hroster⟩ :=
        he.roster_eq h.workable.lawful hworkable.lawful hal hal' hids
      have hp' := (h.workable.lawful.allocators k al hal).path
      obtain rfl := Except.ok.inj (hp'.symm.trans hp)
      rw [h.rosters k al hal, ← hpath, hprinted.rosters k hmem al' hal', hroster]
    · rw [hprinted.others k p hk hmem (he.layout.symm ▸ hp), he.disk]

/-! ### The normal form -/

/-- A registry that was set up later agrees with an earlier one: it has written nothing, it has the same
table, and for everybody in it an allocator with the same names for the same ids. Nothing was wrong
with the files. -/
structure Agrees (d e : Desk) : Prop where
  disk : e.disk = d.disk
  entries : e.registry.entries = d.registry.entries
  clean : e.registry.report.isClean = true
  allocators : ∀ k ∈ d.registry.registrants, ∃ al al',
    d.registry.allocator? k = some al ∧ e.registry.allocator? k = some al' ∧
      al'.report.isClean = true ∧
      ∀ s name, Assoc.get? name (al'.ids.get s) = Assoc.get? name (al.ids.get s)

theorem Resumes.agrees {d e : Desk} (he : Resumes d e) (h : d.registry.Lawful) (hstaffed : e.Staffed) :
    Agrees d e := by
  refine ⟨he.disk, he.entries, ?_, ?_⟩
  · rw [Report.isClean, he.clean]
    rfl
  · intro k hk
    rw [← Registry.registrants_eq_of_entries he.entries] at hk
    obtain ⟨al', hal'⟩ := Option.isSome_iff_exists.1 (hstaffed k hk)
    obtain ⟨al, hal, hclean, hids⟩ := he.allocators k al' hal'
    refine ⟨al, al', hal, hal', ?_, ?_⟩
    · rw [Report.isClean, hclean]
      rfl
    · intro s name
      rw [hids s]
      exact Roster.get?_inOrder ((h.allocators k al hal).bound s).names name

/-- Set up a registry and save all of it. -/
def tidy : Act Unit := do
  setUp
  saveAll

/-- **Files that were loaded and saved are in normal form.** Whatever the files said, once a registry is
set up on them and all of it is saved, the next registry can be set up without a failure. It agrees
with the first one, and if it is saved in turn, all files stay the same. Where the files are legible,
only a write may fail. -/
theorem normal_form {layout : Layout} (hl : layout.Plain) (passes later : Int) (disk : Disk) :
    Ends (fresh layout passes disk) tidy
      (fun _ d => Ends (fresh layout later d.disk) setUp
        (fun _ e => Agrees d e ∧ Ends e saveAll (fun _ f => SameFiles layout d.disk f.disk)
          (fun f _ => f.ofWriting = true))
        (fun _ _ => False))
      (fun f _ => layout.Legible disk → f.ofWriting = true) := by
  unfold tidy
  rw [ends_bind]
  refine (ends_setUp hl passes disk).imp ?_ fun _ _ hf => hf
  rintro _ first ⟨hfirst, hlayout, hstaffed⟩
  refine (ends_saveAll hfirst hstaffed).imp ?_ fun _ _ hf _ => hf
  intro _ d hprinted
  have h : d.UpToDate := upToDate_of_printed hfirst hstaffed hprinted
  obtain rfl : d.registry.layout = layout := by rw [hprinted.registry, hlayout]
  refine (ends_setUp_resumes h later).imp ?_ fun _ _ hf => hf
  rintro _ e ⟨he, hworkable, hstaffed'⟩
  refine ⟨he.agrees h.workable.lawful hstaffed', ?_⟩
  refine (ends_saveAll hworkable hstaffed').imp ?_ fun _ _ hf => hf
  exact fun _ f hagain => sameFiles_of_resumed h he hworkable hstaffed' hagain

/-- A disk on which both files were edited by hand: a count is too high, two reservations overlap, an id
is listed twice, and names and numbers are not as they are printed. -/
def edited : Disk where
  nodes :=
    [(["tmp", "work", "config"], .dir), (["tmp", "work", "config", "id"], .dir),
      (["tmp", "work", "config", "id", "!reservations.cfg"],
        .file (Text.encodeUtf8 " ALPHA = 2_048,64,4096,256,99,0\r\nbeta=2050,64,8192,256,0,0".toList)),
      (["tmp", "work", "config", "id", "alpha.cfg"],
        .file (Text.encodeUtf8 "[Space_A]\nlast = 2060\nfirst=2048\nagain=2060".toList))]

/-- They are mended by the first registry, and the second one agrees with it. -/
theorem normal_form_edited :
    ({} : Layout).Plain ∧ ∃ d, tidy (fresh {} 2 edited) = .ok () d ∧
      d.registry.report.isClean = false ∧
      ∃ e, setUp (fresh {} 2 d.disk) = .ok () e ∧ Agrees d e := by
  have hplain : ({} : Layout).Plain := Layout.plain_usual _
  have hreturns : (fresh {} 2 edited).returns tidy (fun _ d => !d.registry.report.isClean) = true := by
    decide +kernel
  -- The disk is a name from here on, so that nothing is run while the terms are checked.
  generalize edited = disk at hreturns ⊢
  obtain ⟨_, d, hact, hmended, hlater⟩ := (normal_form hplain 2 2 disk).of_returns hreturns
  refine ⟨hplain, d, hact, by simpa using hmended, ?_⟩
  cases hsetUp : setUp (fresh {} 2 d.disk) with
  | ok _ e => exact ⟨e, rfl, (hlater.of_ok hsetUp).1⟩
  | error f e => exact (hlater.of_error hsetUp).elim

end Desk

end Allotment
