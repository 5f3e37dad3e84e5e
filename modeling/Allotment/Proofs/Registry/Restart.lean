import Allotment.Proofs.Registry.Lifetimes

/-!
# What callers are told stays true

A registrant's windows and ids are told to callers by one registry after the other, over restarts and
over programs that stop in the middle of their work. Whatever was told once is told again.

* `Saying`, `Desk.transcript` — what callers are told in the course of a history;
* `Saying.Agrees` — a later saying agrees with an earlier one: a window stays where it was and its
  count does not go back, and an id is the same if and only if it is of the same registrant, in the
  same space, under the same name;
* `Saying.Current`, `Saying.Stands` — a saying is what the files say, or what they said before;
* `agrees_of_stands` — **PROVED**: what the files say agrees with all that stands;
* `told_again` — **PROVED**: over every smooth history all sayings agree, and whoever asks again is
  told again.
-/

namespace Allotment

/-- What a caller is told. -/
inductive Saying where
  | window (reservation : Reservation)
  | id (registrant : String) (space : Space) (name : String) (value : Int)
  deriving DecidableEq, Repr

/-! ### Sayings and files -/

/-- The ids that the next registry would admit are bound in the registrant's window. -/
theorem Layout.bound_idsAt {l : Layout} {disk : Disk} {registrant : String} {space : Space}
    {x : String × Int} (hx : x ∈ l.idsAt disk registrant space) :
    ∃ h, Assoc.get? registrant (l.tableAt disk) = some h ∧
      Roster.Bound (h.get space).window (l.idsAt disk registrant space) := by
  unfold Layout.idsAt at hx ⊢
  cases hget : Assoc.get? registrant (l.tableAt disk) with
  | none =>
    rw [hget] at hx
    cases hx
  | some h => exact ⟨h, rfl, Roster.bound_receive h _ space⟩

/-- They come from a roster that can be read. -/
theorem Layout.read_of_mem_idsAt {l : Layout} {disk : Disk} {registrant : String} {space : Space}
    {x : String × Int} (hx : x ∈ l.idsAt disk registrant space) :
    ∃ path bytes, l.rosterPath registrant = .ok path ∧ disk.read path = .ok bytes := by
  unfold Layout.idsAt at hx
  cases hget : Assoc.get? registrant (l.tableAt disk) with
  | none =>
    rw [hget] at hx
    cases hx
  | some h =>
    simp only [hget] at hx
    obtain ⟨e, he, -⟩ := Roster.mem_receive hx
    unfold Layout.listedAt at he
    cases hpath : l.rosterPath registrant with
    | error f =>
      rw [hpath] at he
      cases he
    | ok path =>
      cases hread : disk.read path with
      | error f =>
        simp only [hpath, hread] at he
        cases he
      | ok bytes => exact ⟨path, bytes, rfl, hread⟩

/-- **An id on a disk tells whose it is,** in which space and under which name, and the other way
round. -/
theorem Layout.idsAt_eq_iff {l : Layout} {disk : Disk} {k j : String} {s t : Space}
    {x y : String × Int} (hx : x ∈ l.idsAt disk k s) (hy : y ∈ l.idsAt disk j t) :
    x.2 = y.2 ↔ (k, s, x.1) = (j, t, y.1) := by
  obtain ⟨h, hget, hbound⟩ := Layout.bound_idsAt hx
  obtain ⟨h', hget', hbound'⟩ := Layout.bound_idsAt hy
  constructor
  · intro hid
    have hhas := hbound.within x hx
    have hhas' := hbound'.within y hy
    rw [← hid] at hhas'
    obtain ⟨hsame, rfl⟩ := (l.consistent_tableAt disk).eq_of_has (Assoc.mem_of_get? hget)
      (Assoc.mem_of_get? hget') hhas hhas'
    obtain rfl : k = j := hsame
    rw [List.inj_on_of_nodup_map hbound.numbers hx hy hid]
  · intro heq
    rw [Prod.mk.injEq, Prod.mk.injEq] at heq
    obtain ⟨rfl, rfl, hname⟩ := heq
    rw [List.inj_on_of_nodup_map hbound.names hx hy hname]

namespace Saying

/-- A later saying agrees with an earlier one. -/
def Agrees : Saying → Saying → Prop
  | .window r, .window later => r.owner = later.owner → r.space = later.space →
    later.start = r.start ∧ later.size = r.size ∧ r.used ≤ later.used
  | .id k s name value, .id j t other value' => value = value' ↔ (k, s, name) = (j, t, other)
  | _, _ => True

/-- A saying is what the files say. -/
def Current (l : Layout) (disk : Disk) : Saying → Prop
  | .window r => ∃ h, Assoc.get? r.owner (l.tableAt disk) = some h ∧ h.get r.space = r
  | .id registrant space name value => (name, value) ∈ l.idsAt disk registrant space

/-- A saying is what the files say or said before. -/
def Stands (l : Layout) (disk : Disk) : Saying → Prop
  | .window r => ∃ h, Assoc.get? r.owner (l.tableAt disk) = some h ∧ r.Advances (h.get r.space)
  | .id registrant space name value => (name, value) ∈ l.idsAt disk registrant space

variable {l : Layout} {disk : Disk} {x y : Saying}

theorem Current.stands (h : x.Current l disk) : x.Stands l disk := by
  cases x with
  | window r =>
    obtain ⟨holding, hget, hr⟩ := h
    refine ⟨holding, hget, ?_⟩
    rw [hr]
    exact .refl r
  | id registrant space name value => exact h

/-- What stands goes on to stand on every later disk. -/
theorem Stands.keeps {later : Disk} (h : x.Stands l disk) (hkeeps : l.Keeps disk later) :
    x.Stands l later := by
  cases x with
  | window r =>
    obtain ⟨holding, hget, hadv⟩ := h
    obtain ⟨holding', hget', hadv'⟩ := hkeeps.table r.owner holding hget
    exact ⟨holding', hget', hadv.trans (hadv' r.space)⟩
  | id registrant space name value => exact hkeeps.ids registrant space (name, value) h

/-- **What the files say agrees with all that stands.** -/
theorem agrees_of_stands (hx : x.Stands l disk) (hy : y.Current l disk) : x.Agrees y := by
  cases x with
  | window r =>
    cases y with
    | window later =>
      intro howner hspace
      obtain ⟨h, hget, hadv⟩ := hx
      obtain ⟨h', hget', hlater⟩ := hy
      rw [howner, hget'] at hget
      obtain rfl : h' = h := Option.some.inj hget
      rw [hspace, hlater] at hadv
      exact ⟨hadv.start, hadv.size, hadv.used_le⟩
    | id registrant space name value => exact trivial
  | id registrant space name value =>
    cases y with
    | window r => exact trivial
    | id other space' name' value' => exact Layout.idsAt_eq_iff hx hy

end Saying

/-! ### What is said -/

/-- The saying that an id is under a name in a space. -/
def idSaid (registrant : String) (name space : Argument) (value : Int) : List Saying :=
  match name, space.toSpace with
  | .text key, .ok s => [.id registrant s key value]
  | _, _ => []

/-- What a reply says, at the desk that it leaves. -/
def Request.told (e : Desk) : Request → Reply → List Saying
  | .getOrCreate _ _ _, .holding number => (e.registry.holding number).toList.map .window
  | .allocate registrant name space, .id value => idSaid registrant name space value
  | _, _ => []

namespace Desk

/-- What can be seen at a desk: the reservations of everybody. -/
def seen (d : Desk) : List Saying := d.registry.reservations.map .window

/-- What is said in the course of a deed. After a call, what can be seen is said, too. -/
def said (d : Desk) : Deed → List Saying
  | .call request =>
    match serve request d with
    | .ok reply e => request.told e reply ++ e.seen
    | .error _ e => e.seen
  | .look registrant name space =>
    match d.registry.allocator? registrant with
    | none => []
    | some al =>
      match al.lookup name space with
      | .ok (some value) => idSaid registrant name space value
      | _ => []
  | _ => []

/-- What is said in the course of a history. -/
def transcript (d : Desk) : List Deed → List Saying
  | [] => []
  | deed :: rest => d.said deed ++ (d.undergo deed).transcript rest

theorem eq_id_of_mem_idSaid {registrant : String} {name space : Argument} {value : Int} {x : Saying}
    (h : x ∈ idSaid registrant name space value) :
    ∃ s key, space.toSpace = .ok s ∧ name = .text key ∧ x = .id registrant s key value := by
  unfold idSaid at h
  split at h
  · rename_i key s hspace
    exact ⟨s, key, hspace, rfl, List.mem_singleton.1 h⟩
  · cases h

/-- A steady registry says of a holding in its table what the files say. -/
theorem Steady.current_window {d : Desk} (h : d.Steady) {registrant : String} {number : Nat}
    (hget : Assoc.get? registrant d.registry.table = some number) {r : Reservation}
    (hr : r ∈ (d.registry.holding number).toList) :
    (Saying.window r).Current d.registry.layout d.disk := by
  have hfits := h.lawful.fits hget
  have hopen := h.lawful.opened_of_get? hget
  obtain ⟨s, rfl⟩ : ∃ s, r = (d.registry.holding number).get s := by
    rcases List.mem_cons.1 hr with rfl | hr
    · exact ⟨.a, rfl⟩
    · exact ⟨.b, List.mem_singleton.1 hr⟩
  refine ⟨d.registry.holding number, ?_, ?_⟩
  · rw [(hfits s).owner_eq, (h.inStep.ledger hopen).2, Registry.get?_entries, hget]
    rfl
  · rw [(hfits s).space_eq]

/-- What can be seen at a steady desk is what the files say. -/
theorem Steady.current_seen {d : Desk} (h : d.Steady) :
    ∀ x ∈ d.seen, x.Current d.registry.layout d.disk := by
  intro x hx
  obtain ⟨r, hr, rfl⟩ := List.mem_map.1 hx
  obtain ⟨entry, hentry, hr⟩ := List.mem_flatMap.1 hr
  obtain ⟨⟨registrant, number⟩, hmem, rfl⟩ := List.mem_map.1 hentry
  exact h.current_window (Assoc.get?_of_mem h.lawful.nodup hmem) hr

/-- So is every bound id. -/
theorem Steady.current_id {d : Desk} (h : d.Steady) {registrant : String} {space : Space}
    {name : String} {value : Int} (hb : d.registry.Binds registrant space name value) :
    (Saying.id registrant space name value).Current d.registry.layout d.disk := by
  obtain ⟨al, hal, hget⟩ := hb
  exact (h.inStep.mem_idsAt h.lawful hal space (name, value)).2 (Registry.mem_of_binds hget)

/-- And the other way round, if there is an allocator. -/
theorem Steady.binds_of_idsAt {d : Desk} (h : d.Steady) {registrant : String} {al : Allocator}
    (hal : d.registry.allocator? registrant = some al) {space : Space} {name : String} {value : Int}
    (hx : (name, value) ∈ d.registry.layout.idsAt d.disk registrant space) :
    d.registry.Binds registrant space name value := by
  have hmem := (h.inStep.mem_idsAt h.lawful hal space (name, value)).1 hx
  exact ⟨al, hal, Assoc.get?_of_mem ((h.lawful.allocators registrant al hal).bound space).names hmem⟩

/-- What a reply says is what the files say. -/
theorem current_told {d e : Desk} (h : d.registry.Lawful) (he : e.Steady) {request : Request}
    {reply : Reply} (hserve : serve request d = .ok reply e) :
    ∀ x ∈ request.told e reply, x.Current e.registry.layout e.disk := by
  intro x hx
  cases request with
  | getOrCreate name sizeA sizeB =>
    have hends : Ends d (serve (.getOrCreate name sizeA sizeB))
        (fun reply e => ∃ number registrant, reply = .holding number ∧
          Assoc.get? registrant e.registry.table = some number) (fun _ _ => True) := by
      unfold serve
      rw [ends_bind]
      refine Ends.imp (follows_getOrCreate h name sizeA sizeB) ?_ fun _ _ _ => trivial
      rintro number f ⟨-, registrant, -, hget, -⟩
      exact ⟨number, registrant, rfl, hget⟩
    obtain ⟨number, registrant, rfl, hget⟩ := hends.of_ok hserve
    obtain ⟨r, hr, rfl⟩ := List.mem_map.1 hx
    exact he.current_window hget hr
  | allocate registrant name space =>
    have hends : Ends d (serve (.allocate registrant name space))
        (fun reply e => ∃ value, reply = .id value ∧ ∀ s key, space.toSpace = .ok s →
          name = .text key → e.registry.Binds registrant s key value) (fun _ _ => True) := by
      unfold serve
      rw [ends_bind]
      refine Ends.imp (ends_allocate h registrant name space) ?_ fun _ _ _ => trivial
      rintro value f ⟨-, al, s, key, hasks, hall⟩
      refine ⟨value, rfl, ?_⟩
      intro t other hspace hname
      obtain rfl : s = t := Except.ok.inj (hasks.space_eq.symm.trans hspace)
      obtain rfl : key = other := Argument.text.inj (hasks.name_eq.symm.trans hname)
      exact hall.binds h hasks
    obtain ⟨value, rfl, hbinds⟩ := hends.of_ok hserve
    obtain ⟨s, key, hspace, hname, rfl⟩ := eq_id_of_mem_idSaid hx
    exact he.current_id (hbinds s key hspace hname)
  | openLedger => cases hx
  | allocatorFor name sizeA sizeB => cases hx
  | saveRoster registrant => cases hx
  | persist => cases hx
  | close => cases hx

/-- **Whatever is said** in the course of a smooth deed is what the files say then. -/
theorem current_said {d : Desk} (h : d.Steady) {dir : Path} (hlayout : d.registry.layout = { dir })
    {deed : Deed} (hsmooth : d.Smooth deed) :
    ∀ x ∈ d.said deed, x.Current { dir } (d.undergo deed).disk := by
  obtain ⟨hsteady, hlayout', -⟩ := steady_undergo h hlayout hsmooth
  intro x hx
  cases deed with
  | call request =>
    have hseen := hsteady.current_seen
    rw [hlayout'] at hseen
    simp only [undergo] at hsteady hlayout' hseen ⊢
    cases hserve : serve request d with
    | ok reply e =>
      simp only [said, hserve] at hx
      rw [after_of_ok hserve] at hsteady hlayout' hseen ⊢
      rcases List.mem_append.1 hx with hx | hx
      · rw [← hlayout']
        exact current_told h.lawful hsteady hserve x hx
      · exact hseen x hx
    | error f e =>
      simp only [said, hserve] at hx
      rw [after_of_error hserve] at hseen ⊢
      exact hseen x hx
  | look registrant name space =>
    cases hal : d.registry.allocator? registrant with
    | none =>
      simp only [said, hal] at hx
      cases hx
    | some al =>
      simp only [said, hal] at hx
      split at hx
      · rename_i value hlookup
        obtain ⟨s, key, hspace, rfl, rfl⟩ := eq_id_of_mem_idSaid hx
        obtain ⟨t, looked, hspace', hkey, hvalue⟩ := lookup_eq_ok hlookup
        obtain rfl : s = t := Except.ok.inj (hspace.symm.trans hspace')
        obtain rfl : some key = looked := Except.ok.inj hkey
        rw [← hlayout]
        exact h.current_id ⟨al, hal, hvalue.symm⟩
      · cases hx
  | restart passes => cases hx
  | crash request outages stray passes => cases hx

/-- **Over a smooth history all sayings agree,** and they stand at its end. -/
theorem agrees_transcript {d : Desk} (h : d.Steady) {dir : Path}
    (hlayout : d.registry.layout = { dir }) {deeds : List Deed} (hsmooth : d.SmoothRun deeds) :
    (d.transcript deeds).Pairwise Saying.Agrees ∧
      (∀ x ∈ d.transcript deeds, x.Stands { dir } (d.lives deeds).disk) ∧
      ∀ x : Saying, x.Stands { dir } d.disk → ∀ y ∈ d.transcript deeds, x.Agrees y := by
  induction deeds generalizing d with
  | nil =>
    refine ⟨List.Pairwise.nil, ?_, ?_⟩
    · intro x hx
      cases hx
    · intro x _ y hy
      cases hy
  | cons deed rest ih =>
    obtain ⟨hsteady, hlayout', hkeeps⟩ := steady_undergo h hlayout hsmooth.1
    have hcurrent := current_said h hlayout hsmooth.1
    obtain ⟨hpairs, hstands, hlater⟩ := ih hsteady hlayout' hsmooth.2
    have hlast := (steady_lives hsteady hlayout' hsmooth.2).2.2
    unfold transcript
    refine ⟨?_, ?_, ?_⟩
    · refine List.pairwise_append.2 ⟨?_, hpairs, ?_⟩
      · refine List.pairwise_of_forall_mem_list ?_
        exact fun x hx y hy => Saying.agrees_of_stands (hcurrent x hx).stands (hcurrent y hy)
      · exact fun x hx y hy => hlater x (hcurrent x hx).stands y hy
    · intro x hx
      rcases List.mem_append.1 hx with hx | hx
      · exact (hcurrent x hx).stands.keeps hlast
      · exact hstands x hx
    · intro x hx y hy
      have hx' := hx.keeps hkeeps
      rcases List.mem_append.1 hy with hy | hy
      · exact Saying.agrees_of_stands hx' (hcurrent y hy)
      · exact hlater x hx' y hy

/-! ### Asking again -/

section Again

variable {d : Desk} (h : d.Steady) (hclosed : d.registry.closed = false)
  {name sizeA sizeB : Argument} {registrant : String} {sizes : Both Int}
  (hwanted : wanted d.registry.layout name sizeA sizeB = .ok (registrant, sizes))
include h hclosed hwanted

/-- **A registrant in the ledger is found again,** and nothing is written. -/
theorem getOrCreate_again {holding : Holding}
    (hget : Assoc.get? registrant (d.registry.layout.tableAt d.disk) = some holding) :
    Ends d (getOrCreate name sizeA sizeB)
      (fun number e => Turn True d e ∧ e.disk = d.disk ∧ e.registry.closed = false ∧
        Assoc.get? registrant e.registry.table = some number ∧ e.registry.holding number = holding)
      (fun _ _ => False) := by
  obtain ⟨bytes, hread⟩ := Layout.read_of_get?_tableAt hget
  rw [ends_getOrCreate, hwanted]
  refine ends_openLedger_of_read h.lawful hclosed hread ?_
  intro e hturn hdisk hopen hclosed'
  have htable := ((hturn.inStep trivial h.inStep).ledger hopen).2
  rw [hturn.registry.layout, hdisk] at htable
  rw [htable, Registry.get?_entries, Option.map_eq_some_iff] at hget
  obtain ⟨number, hnumber, hholding⟩ := hget
  have he := hturn.registry.lawful
  rw [ends_findHolding he hnumber]
  exact ⟨hturn.trans (turn_of_notices he _ _), hdisk, hclosed', hnumber, hholding⟩

/-- **An allocator is made again** for a registrant whose ids are on the disk, unless a write fails. -/
theorem allocatorFor_again {space : Space} {x : String × Int}
    (hx : x ∈ d.registry.layout.idsAt d.disk registrant space) :
    Ends d (allocatorFor name sizeA sizeB)
      (fun found e => found = registrant ∧ e.registry.Binds registrant space x.1 x.2)
      (fun f _ => f.ofWriting = true) := by
  have hname := (wanted_eq_ok hwanted).1
  have hfails : Ends d (allocatorFor name sizeA sizeB) (fun _ _ => True)
      (fun f _ => f.ofWriting = true) := by
    obtain ⟨holding, hget, -⟩ := Layout.bound_idsAt hx
    obtain ⟨path, bytes, hpath, hread⟩ := Layout.read_of_mem_idsAt hx
    unfold allocatorFor
    rw [ends_bind, ends_check, hname]
    simp only
    rw [ends_bind, ends_current]
    cases d.registry.allocator? registrant with
    | some al => exact trivial
    | none =>
      simp only
      refine Ends.bind (getOrCreate_again h hclosed ((wanted_of_ofArgument hname _ _ _).trans hwanted) hget)
        (fun _ _ hf => hf.elim) ?_
      rintro number e ⟨hturn, hdisk, hclosed', -, -⟩
      rw [← hturn.registry.layout] at hpath
      rw [← hdisk] at hread
      refine Ends.bind (ends_loadAllocator_of_read hclosed' hpath hread) (fun _ _ hf => hf) ?_
      intro al f _
      rw [ends_bind, ends_update]
      exact trivial
  refine ends_of_forall ?_ fun f e hact => hfails.of_error hact
  intro found e hact
  obtain ⟨hturn, hfound, hsome⟩ := Ends.of_ok (follows_allocatorFor h.lawful name sizeA sizeB) hact
  obtain rfl : registrant = found := Except.ok.inj (hname.symm.trans hfound)
  obtain ⟨al, hal⟩ := Option.isSome_iff_exists.1 hsome
  have he : e.Steady := ⟨hturn.registry.lawful, hturn.inStep trivial h.inStep⟩
  have hx' := (hturn.keeps h.inStep).ids registrant space x hx
  rw [← hturn.registry.layout] at hx'
  exact ⟨rfl, he.binds_of_idsAt hal hx'⟩

end Again

/-- Whoever asks for a window that stands gets it, whatever the sizes. -/
theorem window_again {d : Desk} (h : d.Steady) (hclosed : d.registry.closed = false)
    {r : Reservation} (hr : (Saying.window r).Stands d.registry.layout d.disk)
    {name sizeA sizeB : Argument} {sizes : Both Int}
    (hwanted : wanted d.registry.layout name sizeA sizeB = .ok (r.owner, sizes)) :
    ∃ number e, getOrCreate name sizeA sizeB d = .ok number e ∧
      r.Advances ((e.registry.holding number).get r.space) := by
  obtain ⟨holding, hget, hadv⟩ := hr
  have hends := getOrCreate_again h hclosed hwanted hget
  cases hact : getOrCreate name sizeA sizeB d with
  | ok number e =>
    obtain ⟨-, -, -, -, hholding⟩ := hends.of_ok hact
    exact ⟨number, e, rfl, hholding ▸ hadv⟩
  | error f e => exact (hends.of_error hact).elim

/-- An id that stands is given by the allocator. -/
theorem id_again {d : Desk} (h : d.Steady) {registrant : String} {s : Space} {key : String}
    {id : Int} (hx : (Saying.id registrant s key id).Stands d.registry.layout d.disk)
    {al : Allocator} (hal : d.registry.allocator? registrant = some al) {space : Argument}
    (hspace : space.toSpace = .ok s) :
    al.lookup (.text key) space = .ok (some id) ∧
      allocate registrant (.text key) space d = .ok id d := by
  obtain ⟨al', hal', hget⟩ := h.binds_of_idsAt hal hx
  obtain rfl : al = al' := Option.some.inj (hal.symm.trans hal')
  exact allocate_of_bound hal hget hspace

/-- **Whatever was told once is told again,** over every smooth history of registries and their
successors, wherever programs may have stopped. All sayings agree. Whoever asks for a window that
was told gets it again, whatever the sizes. Whoever asks for an id that was told gets it again from
the allocator, and the allocator can be had again. -/
theorem told_again (dir : Path) (passes : Int) (disk : Disk) (deeds : List Deed)
    (hsmooth : (fresh { dir } passes disk).SmoothRun deeds) :
    let d := (fresh { dir } passes disk).lives deeds
    let told := (fresh { dir } passes disk).transcript deeds
    told.Pairwise Saying.Agrees ∧
      (∀ r, Saying.window r ∈ told → d.registry.closed = false →
        ∀ name sizeA sizeB sizes, wanted { dir } name sizeA sizeB = .ok (r.owner, sizes) →
          ∃ number e, getOrCreate name sizeA sizeB d = .ok number e ∧
            r.Advances ((e.registry.holding number).get r.space)) ∧
      ∀ registrant s key id, Saying.id registrant s key id ∈ told →
        (∀ al space, d.registry.allocator? registrant = some al → space.toSpace = .ok s →
          al.lookup (.text key) space = .ok (some id) ∧
            allocate registrant (.text key) space d = .ok id d) ∧
        (d.registry.closed = false →
          ∀ name sizeA sizeB sizes, wanted { dir } name sizeA sizeB = .ok (registrant, sizes) →
            Ends d (allocatorFor name sizeA sizeB)
              (fun found e => found = registrant ∧ e.registry.Binds registrant s key id)
              (fun f _ => f.ofWriting = true)) := by
  have hfresh := steady_fresh (Layout.plain_usual dir) passes disk
  obtain ⟨hpairs, hstands, -⟩ := agrees_transcript hfresh rfl hsmooth
  obtain ⟨hsteady, hlayout, -⟩ := steady_lives hfresh rfl hsmooth
  generalize (fresh { dir } passes disk).lives deeds = d at hstands hsteady hlayout
  refine ⟨hpairs, ?_, ?_⟩
  · intro r hr hclosed name sizeA sizeB sizes hwanted
    have hx := hstands _ hr
    rw [← hlayout] at hx hwanted
    exact window_again hsteady hclosed hx hwanted
  · intro registrant s key id hid
    have hx := hstands _ hid
    rw [← hlayout] at hx
    refine ⟨?_, ?_⟩
    · intro al space hal hspace
      exact id_again hsteady hx hal hspace
    · intro hclosed name sizeA sizeB sizes hwanted
      rw [← hlayout] at hwanted
      exact allocatorFor_again hsteady hclosed hwanted hx

/-- A history in which the program stops between the two writes of `allocate`, with a half-written
file left behind. The next registry tells the id again that was told before. -/
def stopped : List Deed :=
  [.call (.allocatorFor (.text "alpha") .null .null),
    .call (.allocate "alpha" (.text "x") (.text "A")),
    .crash (.allocate "alpha" (.text "y") (.text "A")) [none, some ⟨.writing, true⟩]
      (some (".alpha.cfg.qwertyui", [91])) 2,
    .call (.allocatorFor (.text "Alpha ") (.int 7) .null),
    .look "alpha" (.text "x") (.space .a),
    .call (.allocate "alpha" (.text "y") (.text "A"))]

theorem told_again_stopped :
    (fresh {} 2 {}).SmoothRun stopped ∧
      Saying.id "alpha" .a "x" 2856 ∈ (fresh {} 2 {}).transcript stopped ∧
      ((fresh {} 2 {}).transcript stopped).Pairwise Saying.Agrees := by
  have hsmooth : (fresh {} 2 {}).SmoothRun stopped := by decide +kernel
  exact ⟨hsmooth, by decide +kernel, (told_again _ 2 {} stopped hsmooth).1⟩

end Desk

end Allotment
