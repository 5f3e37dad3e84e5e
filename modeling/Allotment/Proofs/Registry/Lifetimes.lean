import Allotment.Proofs.Registry.Serve

/-!
# Lifetimes

A registry lives until it is given up or until the program stops, and the next one finds the disk as
it was left. As long as no write fails and nobody edits the files, the files say at every moment what
the registry has in mind, and nothing that they ever said is lost, wherever a program may stop.

* `Deed`, `Desk.lives` — what happens to a registry and to its successors;
* `Desk.crashed` — the disk that a program leaves which stops in the middle of a request;
* `Desk.SmoothRun` — a history in which no write fails, except that a program may stop at it;
* `Desk.Steady` — a lawful registry in step with its files;
* `steady_undergo`, `steady_lives` — **PROVED**: through a smooth deed, and so through a smooth
  history, a desk stays steady and keeps what the files say.
-/

namespace Allotment

/-- What happens to a registry and its files, if nobody else touches the files. -/
inductive Deed where
  | call (request : Request)
  /-- An id is looked up in the allocator of a registrant. -/
  | look (registrant : String) (name space : Argument)
  /-- The registry is given up, and a new one takes its place. -/
  | restart (passes : Int)
  /-- The program stops in the middle of a request: the writes fare as the outages say, and where
  one breaks off, nothing comes after it. Bytes that were being written aside may stay behind in
  a file with a name of their own. Then a new registry takes the place. -/
  | crash (request : Request) (outages : List (Option Outage))
    (stray : Option (String × List UInt8)) (passes : Int)

instance (request : Request) (d : Desk) : Decidable (request.Orderly d) := by
  unfold Request.Orderly
  cases request with
  | persist => exact decidable_of_iff (d.registry.opened = true) (by simp)
  | _ => exact isTrue (by simp)

namespace Layout

/-- Bytes left behind that were written aside. The name under which this is done has an ending of its
own. -/
def strew (l : Layout) (disk : Disk) : Option (String × List UInt8) → Disk
  | none => disk
  | some (stem, bytes) => (disk.install (l.dir.child (stem ++ ".tmp")) (.ok bytes) 0).2

end Layout

namespace Desk

/-- The disk that a program leaves which stops in the middle of a request. -/
def crashed (d : Desk) (request : Request) (outages : List (Option Outage))
    (stray : Option (String × List UInt8)) : Disk :=
  let broken := after { d with disk := { d.disk with outages } } request
  { d.registry.layout.strew broken.disk stray with outages := [] }

/-- The desk behind a deed. -/
def undergo (d : Desk) : Deed → Desk
  | .call request => d.after request
  | .look _ _ _ => d
  | .restart passes => fresh d.registry.layout passes d.disk
  | .crash request outages stray passes =>
    fresh d.registry.layout passes (d.crashed request outages stray)

/-- The desk behind a history. -/
def lives (d : Desk) (deeds : List Deed) : Desk := deeds.foldl undergo d

/-- Whether a write fails while a request is met. -/
def failsWriting (d : Desk) (request : Request) : Bool :=
  match serve request d with
  | .ok _ _ => false
  | .error f _ => f.ofWriting

/-- A deed as it should be: only an open registry is saved, and no write fails. -/
def Smooth (d : Desk) : Deed → Prop
  | .call request => request.Orderly d ∧ d.failsWriting request = false
  | .crash request _ _ _ => request.Orderly d
  | _ => True

instance (d : Desk) (deed : Deed) : Decidable (d.Smooth deed) := by
  cases deed <;> unfold Smooth <;> infer_instance

/-- A history of such deeds. -/
def SmoothRun (d : Desk) : List Deed → Prop
  | [] => True
  | deed :: rest => d.Smooth deed ∧ (d.undergo deed).SmoothRun rest

instance decidableSmoothRun (d : Desk) : (deeds : List Deed) → Decidable (d.SmoothRun deeds)
  | [] => isTrue trivial
  | deed :: rest =>
    have := decidableSmoothRun (d.undergo deed) rest
    inferInstanceAs (Decidable (_ ∧ _))

/-! ### One deed -/

/-- A lawful registry in step with its files. -/
structure Steady (d : Desk) : Prop where
  lawful : d.registry.Lawful
  inStep : d.InStep

/-- A registry that was just made is steady, whatever is on the disk. -/
theorem steady_fresh {layout : Layout} (hl : layout.Plain) (passes : Int) (disk : Disk) :
    (fresh layout passes disk).Steady where
  lawful := Registry.lawful_fresh layout passes
  inStep := by
    refine ⟨hl, ?_, ?_⟩
    · intro hopen
      cases hopen
    · intro registrant al hal
      cases hal

/-- Outages to come do not change what the files say. -/
theorem sameFiles_outages (l : Layout) (disk : Disk) (outages : List (Option Outage)) :
    SameFiles l disk { disk with outages } :=
  ⟨disk.read_outages outages _, fun _ p _ _ => disk.read_outages outages p⟩

theorem Steady.outages {d : Desk} (h : d.Steady) (outages : List (Option Outage)) :
    ({ d with disk := { d.disk with outages } } : Desk).Steady where
  lawful := h.lawful
  inStep := by
    have hsame := sameFiles_outages d.registry.layout d.disk outages
    refine ⟨h.inStep.plain, ?_, ?_⟩
    · intro hopen
      obtain ⟨hread, htable⟩ := h.inStep.ledger hopen
      refine ⟨?_, ?_⟩
      · show ∃ bytes, ({ d.disk with outages } : Disk).read _ = _
        rwa [hsame.ledger]
      · show d.registry.layout.tableAt { d.disk with outages } = _
        rwa [hsame.tableAt]
    · intro registrant al hal space x
      have hkey := h.lawful.isKey (h.lawful.allocators registrant al hal).holding
      rw [hsame.listedAt hkey]
      exact h.inStep.rosters registrant al hal space x

/-- A name that ends like a file of the registry is not one of what is written aside. -/
theorem ne_stray (start stem : String) : start ++ ".cfg" ≠ stem ++ ".tmp" := by
  have hcfg : ".cfg".toList = ['.', 'c', 'f', 'g'] := by decide
  have htmp : ".tmp".toList = ['.', 't', 'm', 'p'] := by decide
  intro heq
  have hlast := congrArg (fun name => name.toList.getLast?) heq
  simp [hcfg, htmp] at hlast

theorem stray_ne_dots (stem : String) : stem ++ ".tmp" ≠ ".." := by
  have htmp : ".tmp".toList = ['.', 't', 'm', 'p'] := by decide
  have hdots : "..".toList = ['.', '.'] := by decide
  intro heq
  have hlast := congrArg (fun name => name.toList.getLast?) heq
  simp [htmp, hdots] at hlast

/-- What was being written aside is no file of the registry. -/
theorem sameFiles_strew {dir : Path} {disk : Disk} (hplaced : ({ dir } : Layout).Placed disk)
    (stray : Option (String × List UInt8)) :
    SameFiles { dir } disk (({ dir } : Layout).strew disk stray) := by
  have hplain := Layout.plain_usual dir
  cases stray with
  | none => exact .refl _ _
  | some written =>
    obtain ⟨stem, bytes⟩ := written
    obtain ⟨loc, hleads⟩ := hplaced
    have hwrites := Disk.install_child hleads (stem ++ ".tmp") (.ok bytes) 0
    refine ⟨?_, ?_⟩
    · rw [hplain.ledgerPath]
      exact hwrites.others _ (Disk.step_ne_step hplain.ledger_ne.2.2 (stray_ne_dots stem)
        (ne_stray "!reservations" stem) loc)
    · intro k p hk hp
      have hne : ({ dir } : Layout).rosterName k ≠ stem ++ ".tmp" := ne_stray k stem
      rw [(hplain.rosterPath hk hp).1]
      exact hwrites.others _ (Disk.step_ne_step (Layout.rosterName_ne hk).2.2 (stray_ne_dots stem)
        hne loc)

/-- So nothing is lost by it. -/
theorem keeps_strew (dir : Path) (disk : Disk) (stray : Option (String × List UInt8)) :
    ({ dir } : Layout).Keeps disk (({ dir } : Layout).strew disk stray) := by
  by_cases hplaced : ({ dir } : Layout).Placed disk
  · exact Layout.keeps_of_sameFiles (sameFiles_strew hplaced stray)
  · exact Layout.keeps_of_empty ((Layout.plain_usual dir).tableAt_of_not_placed hplaced) _

/-- **A request in which no write fails** leaves a steady desk, and keeps what the files say. -/
theorem steady_after {d : Desk} (h : d.Steady) {request : Request} (horderly : request.Orderly d)
    (hwriting : d.failsWriting request = false) :
    (d.after request).Steady ∧
      d.registry.layout.Keeps d.disk (d.after request).disk := by
  unfold failsWriting at hwriting
  cases hserve : serve request d with
  | ok reply e =>
    have hturn := turn_of_ok h.lawful horderly hserve
    rw [after_of_ok hserve]
    exact ⟨⟨hturn.registry.lawful, hturn.inStep trivial h.inStep⟩, hturn.keeps h.inStep⟩
  | error f e =>
    rw [hserve] at hwriting
    have hturn := turn_of_error h.lawful horderly hserve
    rw [after_of_error hserve]
    exact ⟨⟨hturn.registry.lawful, hturn.inStep hwriting h.inStep⟩, hturn.keeps h.inStep⟩

/-- A desk stays steady as long as no write fails. -/
theorem steady_run {d : Desk} (h : d.Steady) {requests : List Request}
    (hsmooth : d.SmoothRun (requests.map .call)) : (d.run requests).Steady := by
  induction requests generalizing d with
  | nil => exact h
  | cons request rest ih =>
    obtain ⟨⟨horderly, hwriting⟩, hrest⟩ := hsmooth
    exact ih (steady_after h horderly hwriting).1 hrest

/-- **Wherever a program stops,** what the files say is kept. -/
theorem keeps_crashed {d : Desk} (h : d.Steady) {dir : Path} (hlayout : d.registry.layout = { dir })
    {request : Request} (horderly : request.Orderly d) (outages : List (Option Outage))
    (stray : Option (String × List UInt8)) :
    ({ dir } : Layout).Keeps d.disk (d.crashed request outages stray) := by
  have hbefore := sameFiles_outages { dir } d.disk outages
  have hkeeps : ({ dir } : Layout).Keeps { d.disk with outages }
      (after { d with disk := { d.disk with outages } } request).disk := by
    have hsteady := h.outages outages
    have hends : Follows _ (serve request) _ := turn_serve hsteady.lawful horderly
    have hleft := Ends.left (P := fun e => d.registry.layout.Keeps { d.disk with outages } e.disk)
      (Ends.imp hends (fun _ _ hx => hx.1.keeps hsteady.inStep)
        fun _ _ hf => hf.keeps hsteady.inStep)
    rwa [hlayout] at hleft
  have hstray := keeps_strew dir (after { d with disk := { d.disk with outages } } request).disk stray
  have hafter := sameFiles_outages { dir } (({ dir } : Layout).strew
    (after { d with disk := { d.disk with outages } } request).disk stray) []
  unfold crashed
  rw [hlayout]
  exact (((Layout.keeps_of_sameFiles hbefore).trans hkeeps).trans hstray).trans
    (Layout.keeps_of_sameFiles hafter)

/-- **A smooth deed** leaves a steady desk, and keeps what the files say. -/
theorem steady_undergo {d : Desk} (h : d.Steady) {dir : Path} (hlayout : d.registry.layout = { dir })
    {deed : Deed} (hsmooth : d.Smooth deed) :
    (d.undergo deed).Steady ∧ (d.undergo deed).registry.layout = { dir } ∧
      ({ dir } : Layout).Keeps d.disk (d.undergo deed).disk := by
  have hplain := Layout.plain_usual dir
  cases deed with
  | call request =>
    obtain ⟨horderly, hwriting⟩ := hsmooth
    obtain ⟨hsteady, hkeeps⟩ := steady_after h horderly hwriting
    exact ⟨hsteady, (onward_after h.lawful request).registry.layout.trans hlayout, hlayout ▸ hkeeps⟩
  | look registrant name space => exact ⟨h, hlayout, .refl _⟩
  | restart passes =>
    simp only [undergo, hlayout]
    exact ⟨steady_fresh hplain passes d.disk, rfl, .refl _⟩
  | crash request outages stray passes =>
    simp only [undergo, hlayout]
    exact ⟨steady_fresh hplain passes _, rfl, keeps_crashed h hlayout hsmooth outages stray⟩

/-! ### A whole history -/

theorem lives_cons (d : Desk) (deed : Deed) (rest : List Deed) :
    d.lives (deed :: rest) = (d.undergo deed).lives rest := rfl

/-- **Through a smooth history** a desk stays steady, and keeps what the files say. -/
theorem steady_lives {d : Desk} (h : d.Steady) {dir : Path} (hlayout : d.registry.layout = { dir })
    {deeds : List Deed} (hsmooth : d.SmoothRun deeds) :
    (d.lives deeds).Steady ∧ (d.lives deeds).registry.layout = { dir } ∧
      ({ dir } : Layout).Keeps d.disk (d.lives deeds).disk := by
  induction deeds generalizing d with
  | nil => exact ⟨h, hlayout, .refl _⟩
  | cons deed rest ih =>
    obtain ⟨hsteady, hlayout', hkeeps⟩ := steady_undergo h hlayout hsmooth.1
    obtain ⟨hlast, hlayout'', hkeeps'⟩ := ih hsteady hlayout' hsmooth.2
    rw [lives_cons]
    exact ⟨hlast, hlayout'', hkeeps.trans hkeeps'⟩

end Desk

end Allotment
