import Allotment.Proofs.Disk.Frame
import Allotment.Proofs.Placement.Crowding
import Allotment.Proofs.Registry.Availability

/-!
# Newcomers who do not meet

Where a newcomer's windows go depends on the windows that the others have, so it may matter who comes
first. It does not matter to two newcomers whose windows would not meet if each came alone: each is
given these windows in whatever order they come.

* `Desk.Joins` — what a call for a newcomer leaves when it returns: the windows are where the search
  puts them, and the ledger is written;
* `ends_getOrCreate_joins` — **PROVED**: a call for a newcomer ends so, unless the search finds no place
  or the ledger cannot be written;
* `search_issue` — **PROVED**: the search finds the same place after another newcomer has come whose
  window lies elsewhere;
* `Joins.after` — **PROVED**: so the call for the second newcomer ends as it would have without the first;
* `commute_history` — **PROVED**: at every moment, two newcomers whose windows do not meet may come in
  either order. The tables agree, and in the ledger the last two lines are exchanged.
-/

namespace Allotment

namespace Registry

/-! ### The table behind a newcomer -/

section Newcomer

variable {r : Registry} {x : String} {holding : Holding}
  (hissued : ∀ entry ∈ r.table, entry.2 < r.holdings.length)
  (hnew : Assoc.get? x r.table = none)
include hissued hnew

/-- To everybody else, a newcomer's window is one more. -/
theorem windowsBut_issue {y : String} (hne : x ≠ y) (s : Space) :
    (r.issue x holding).windowsBut y s = r.windowsBut y s ++ [(holding.get s).window] := by
  have hlast : [(x, holding)].filter (fun entry => decide (entry.1 ≠ y)) = [(x, holding)] := by
    rw [List.filter_singleton, decide_eq_true hne]
    rfl
  show ((r.issue x holding).entries.filter fun entry => decide (entry.1 ≠ y)).map _ = _
  rw [entries_issue hissued hnew, List.filter_append, hlast, List.map_append]
  rfl

/-- **The search finds the same place** after a newcomer has come whose window lies elsewhere. -/
theorem search_issue {y : String} (hne : x ≠ y) {sizes : Both Int} {s : Space}
    {place : Placement.Place} (hsearch : r.search y sizes s = .ok place)
    (hapart : (Window.mk place.start (sizes.get s)).overlaps (holding.get s).window = false) :
    (r.issue x holding).search y sizes s = .ok place := by
  have hfree := (hasRoom_of_search hsearch).2
  rw [← hsearch, search, search, windowsBut_issue hissued hnew hne]
  apply Placement.place_of_more
  · intro start hroom
    have hboth := hroom.2
    rw [Window.isFree_append, Bool.and_eq_true] at hboth
    exact hboth.1
  · intro p hp
    obtain rfl : place = p := Except.ok.inj (hsearch.symm.trans hp)
    rw [Window.isFree_append, hfree, Bool.true_and, Window.isFree_iff]
    intro t ht
    rw [List.mem_singleton.1 ht]
    exact hapart

/-- The table behind two newcomers. -/
theorem entries_issue_issue {y : String} (hne : x ≠ y) (hnew' : Assoc.get? y r.table = none)
    (other : Holding) : ((r.issue x holding).issue y other).entries =
      r.entries ++ [(x, holding), (y, other)] := by
  have hentries := entries_issue hissued hnew holding
  have hissued' : ∀ entry ∈ (r.issue x holding).table,
      entry.2 < (r.issue x holding).holdings.length := by
    intro entry hentry
    have hlength : (r.issue x holding).holdings.length = r.holdings.length + 1 := by
      simp [issue]
    have hentry : entry ∈ Assoc.put x r.holdings.length r.table := hentry
    rw [Assoc.put_of_not_mem (Assoc.get?_eq_none_iff.1 hnew)] at hentry
    rcases List.mem_append.1 hentry with hold | hlast
    · have := hissued entry hold
      omega
    · rw [List.mem_singleton.1 hlast]
      omega
  have hnew'' : Assoc.get? y (r.issue x holding).table = none := by
    rw [issue, Assoc.get?_put_of_ne hne.symm]
    exact hnew'
  rw [entries_issue hissued' hnew'', hentries, List.append_assoc]
  rfl

end Newcomer

/-- A registrant's holding by the table by value. -/
theorem holdingOf?_eq (r : Registry) (registrant : String) :
    r.holdingOf? registrant = Assoc.get? registrant r.entries :=
  (r.get?_entries registrant).symm

/-- Tables with the same entries in another order have the same holdings. -/
theorem holdingOf?_of_perm {r r' : Registry} (h : r.Lawful) (hperm : r'.entries.Perm r.entries)
    (registrant : String) : r'.holdingOf? registrant = r.holdingOf? registrant := by
  rw [holdingOf?_eq, holdingOf?_eq]
  exact Assoc.get?_of_perm h.consistent.nodup hperm registrant

theorem holdingOf?_of_mem {r : Registry} (h : r.Lawful) {registrant : String} {holding : Holding}
    (hmem : (registrant, holding) ∈ r.entries) : r.holdingOf? registrant = some holding := by
  rw [holdingOf?_eq]
  exact Assoc.get?_of_mem h.consistent.nodup hmem

end Registry

namespace Desk

/-! ### A newcomer's call -/

/-- What a call for a newcomer leaves when it returns. -/
structure Joins (d : Desk) (registrant : String) (sizes : Both Int) (number : Nat) (e : Desk) :
    Prop where
  number_eq : number = d.registry.holdings.length
  placed : ∀ s, ∃ place, d.registry.search registrant sizes s = .ok place ∧
    (e.registry.holding number).get s = ⟨registrant, s, place.start, sizes.get s, 0⟩
  registry : e.registry = d.registry.issue registrant (e.registry.holding number)
  written : e.disk.read d.registry.layout.ledgerPath =
    .ok (some (Text.encodeUtf8 (Ledger.write e.registry.ledger)))

/-- A registrant of whom nobody has heard in an open registry. -/
structure Newcomer (d : Desk) (name : Argument) (sizeA sizeB : Argument) (registrant : String)
    (sizes : Both Int) : Prop where
  opened : d.registry.opened = true
  closed : d.registry.closed = false
  wanted : wanted d.registry.layout name sizeA sizeB = .ok (registrant, sizes)
  new : Assoc.get? registrant d.registry.table = none

variable {d : Desk} {name sizeA sizeB : Argument} {registrant : String} {sizes : Both Int}

/-- **A call for a newcomer ends so,** unless the search finds no place or the ledger cannot be
written. -/
theorem ends_getOrCreate_joins (hlawful : d.registry.Lawful)
    (h : d.Newcomer name sizeA sizeB registrant sizes) :
    Ends d (getOrCreate name sizeA sizeB) (fun number e => d.Joins registrant sizes number e)
      (fun _ _ => (∃ s refusal, d.registry.search registrant sizes s = .error refusal) ∨
        (d.disk.replace d.registry.layout.ledgerPath []).1 ≠ .ok ()) := by
  refine ends_getOrCreate_of_open h.opened h.closed ?_ ?_
  · intro f hf
    rw [h.wanted] at hf
    cases hf
  intro other sizes' hwanted
  rw [h.wanted] at hwanted
  obtain ⟨rfl, rfl⟩ := Prod.mk.inj (Except.ok.inj hwanted)
  rw [ends_findHolding_of_new h.new]
  refine ends_placeHolding_of_search h.closed ?_ ?_ ?_
  · intro places notices hsearch
    have hkey := Registrant.isKey_of_ofArgument (wanted_eq_ok h.wanted).1
    have hroom : ∀ s : Space, Placement.HasRoom s.zone (sizes.get s)
        (d.registry.windowsBut registrant s) ((places.map Placement.Place.start).get s) := by
      intro s
      rw [Both.get_map]
      exact Registry.hasRoom_of_search (hsearch s)
    have hissued := (Registry.onward_issue hlawful h.opened hkey h.new hroom).lawful
    refine ends_saveLedger_of_text ?_ ?_ ?_
    · exact Registry.ledgerText_of_lawful hissued
    · intro disk hwrite
      refine ⟨rfl, ?_, ?_, Disk.read_of_replace hwrite⟩
      · intro s
        refine ⟨places.get s, hsearch s, ?_⟩
        show ((d.registry.issue _ _).holding d.registry.holdings.length).get s = _
        rw [Registry.holding_issue_self, Registry.get_newHolding, Both.get_map]
      · show d.registry.issue _ _ = d.registry.issue _ ((d.registry.issue _ _).holding _)
        rw [Registry.holding_issue_self]
    · intro fault disk f more hfailed _
      refine .inr ?_
      rw [Disk.result_replace _ _ [] (Text.encodeUtf8 (Ledger.write _))]
      intro hok
      have hresult := congrArg Prod.fst hfailed
      exact absurd (hok.symm.trans hresult) (fun hsame => by cases hsame)
  · exact fun refusal hrefusal => .inl ⟨.a, refusal, hrefusal⟩
  · exact fun place refusal notices _ hrefusal => .inl ⟨.b, refusal, hrefusal⟩

/-- Whoever is given a holding for a newcomer has asked for something that can be had. -/
theorem newcomer_of_ok (hopen : d.registry.opened = true) (hclosed : d.registry.closed = false)
    (hname : Registrant.ofArgument name = .ok registrant)
    (hnew : Assoc.get? registrant d.registry.table = none) {number : Nat} {e : Desk}
    (hact : getOrCreate name sizeA sizeB d = .ok number e) :
    ∃ sizes, d.Newcomer name sizeA sizeB registrant sizes := by
  cases hwanted : wanted d.registry.layout name sizeA sizeB with
  | error f =>
    have hrefused : Ends d (getOrCreate name sizeA sizeB) (fun _ _ => False) fun _ _ => True := by
      rw [ends_getOrCreate, hwanted]
      trivial
    exact (hrefused.of_ok hact).elim
  | ok want =>
    obtain ⟨other, sizes⟩ := want
    have hother := (wanted_eq_ok hwanted).1
    rw [hname] at hother
    obtain rfl : registrant = other := Except.ok.inj hother
    exact ⟨sizes, hopen, hclosed, hwanted, hnew⟩

theorem joins_of_ok (hlawful : d.registry.Lawful)
    (h : d.Newcomer name sizeA sizeB registrant sizes) {number : Nat} {e : Desk}
    (hact : getOrCreate name sizeA sizeB d = .ok number e) : d.Joins registrant sizes number e :=
  (ends_getOrCreate_joins hlawful h).of_ok hact

/-- Where the search finds places and the ledger can be written, the call returns. -/
theorem exists_joins (hlawful : d.registry.Lawful)
    (h : d.Newcomer name sizeA sizeB registrant sizes)
    (hsearch : ∀ s, ∃ place, d.registry.search registrant sizes s = .ok place)
    (hwrite : (d.disk.replace d.registry.layout.ledgerPath []).1 = .ok ()) :
    ∃ number e, getOrCreate name sizeA sizeB d = .ok number e ∧
      d.Joins registrant sizes number e := by
  have hends := ends_getOrCreate_joins hlawful h
  cases hact : getOrCreate name sizeA sizeB d with
  | ok number e => exact ⟨number, e, rfl, hends.of_ok hact⟩
  | error f e =>
    rcases hends.of_error hact with ⟨s, refusal, hrefusal⟩ | hfailed
    · obtain ⟨place, hplace⟩ := hsearch s
      rw [hrefusal] at hplace
      cases hplace
    · exact absurd hwrite hfailed

/-! ### The second of two newcomers -/

section Second

variable {x y : String} {sizesX sizesY : Both Int} {nx ny : Nat} {dx dy : Desk}
  (hx : d.Joins x sizesX nx dx) (hy : d.Joins y sizesY ny dy)
include hx

/-- A newcomer stays one while others come. -/
theorem Newcomer.after {name sizeA sizeB : Argument}
    (h : d.Newcomer name sizeA sizeB y sizesY) (hne : x ≠ y) :
    dx.Newcomer name sizeA sizeB y sizesY := by
  refine ⟨?_, ?_, ?_, ?_⟩
  · rw [hx.registry]
    exact h.opened
  · rw [hx.registry]
    exact h.closed
  · rw [hx.registry]
    exact h.wanted
  · rw [hx.registry, Registry.issue, Assoc.get?_put_of_ne hne.symm]
    exact h.new

include hy

/-- The window that a newcomer would have alone. -/
theorem Joins.search_after (hissued : ∀ entry ∈ d.registry.table, entry.2 < d.registry.holdings.length)
    (hnew : Assoc.get? x d.registry.table = none) (hne : x ≠ y)
    (hapart : (dx.registry.holding nx).Apart (dy.registry.holding ny)) (s : Space) :
    ∃ place, d.registry.search y sizesY s = .ok place ∧
      dx.registry.search y sizesY s = .ok place := by
  obtain ⟨place, hsearch, hget⟩ := hy.placed s
  refine ⟨place, hsearch, ?_⟩
  rw [hx.registry]
  refine Registry.search_issue hissued hnew hne hsearch ?_
  have hwindow : Window.mk place.start (sizesY.get s) = ((dy.registry.holding ny).get s).window := by
    rw [hget]
    rfl
  rw [hwindow]
  exact hapart.symm s

/-- **The call for the second newcomer** gives the holding that it would have given without the
first. -/
theorem Joins.after (hlawful : dx.registry.Lawful)
    (hissued : ∀ entry ∈ d.registry.table, entry.2 < d.registry.holdings.length)
    (hnew : Assoc.get? x d.registry.table = none) (hne : x ≠ y)
    (hapart : (dx.registry.holding nx).Apart (dy.registry.holding ny)) {name sizeA sizeB : Argument}
    (hwanted : d.Newcomer name sizeA sizeB y sizesY)
    (hwrite : (dx.disk.replace d.registry.layout.ledgerPath []).1 = .ok ()) :
    ∃ number e, getOrCreate name sizeA sizeB dx = .ok number e ∧
      e.registry.holding number = dy.registry.holding ny ∧
      e.registry.entries = d.registry.entries ++
        [(x, dx.registry.holding nx), (y, dy.registry.holding ny)] ∧
      e.disk.read d.registry.layout.ledgerPath =
        .ok (some (Text.encodeUtf8 (Ledger.write e.registry.ledger))) := by
  have hsearch := hx.search_after hy hissued hnew hne hapart
  have hlayout : dx.registry.layout = d.registry.layout := by
    rw [hx.registry]
    rfl
  obtain ⟨number, e, hact, hjoins⟩ := exists_joins hlawful (hwanted.after hx hne)
    (fun s => (hsearch s).imp fun _ hs => hs.2) (hlayout.symm ▸ hwrite)
  have hsame : e.registry.holding number = dy.registry.holding ny := by
    have hget : ∀ s, (e.registry.holding number).get s = (dy.registry.holding ny).get s := by
      intro s
      obtain ⟨place, hplace, hlater⟩ := hsearch s
      obtain ⟨place', hplace', hget'⟩ := hjoins.placed s
      obtain ⟨place'', hplace'', hget''⟩ := hy.placed s
      obtain rfl : place = place' := Except.ok.inj (hlater.symm.trans hplace')
      obtain rfl : place = place'' := Except.ok.inj (hplace.symm.trans hplace'')
      rw [hget', hget'']
    exact Both.ext_get hget
  have hentries : ((d.registry.issue x (dx.registry.holding nx)).issue y
      (dy.registry.holding ny)).entries = _ :=
    Registry.entries_issue_issue hissued hnew hne hwanted.new _
  rw [← hx.registry, ← hsame, ← hjoins.registry] at hentries
  exact ⟨number, e, hact, hsame, hsame ▸ hentries, hlayout ▸ hjoins.written⟩

end Second

/-! ### Either order -/

/-- The line of a registrant in the ledger. -/
def ledgerLine (registrant : String) (holding : Holding) : List Char :=
  (Ledger.Entry.ofHolding registrant holding).line

/-- The ledger as it is printed, line by line. -/
def ledgerLines (d : Desk) : List (List Char) :=
  Ledger.header.map String.toList ++ d.registry.entries.map fun (name, h) => ledgerLine name h

/-- What is left when two newcomers have come one after the other, and the second was given the
holding with a number. -/
structure InTurn (d : Desk) (x : String) (hasX : Holding) (y : String) (hasY : Holding) (number : Nat)
    (e : Desk) : Prop where
  given : e.registry.holding number = hasY
  first : e.registry.holdingOf? x = some hasX
  second : e.registry.holdingOf? y = some hasY
  entries : e.registry.entries = d.registry.entries ++ [(x, hasX), (y, hasY)]
  ledger : e.disk.read d.registry.layout.ledgerPath = .ok (some (Text.encodeUtf8
    (Text.unlines (d.ledgerLines ++ [ledgerLine x hasX, ledgerLine y hasY]))))

/-- **The second newcomer** comes after the first as if there were no first. -/
theorem exists_inTurn (h : d.registry.Lawful) {x y : String} (hne : x ≠ y)
    {nameX aX bX nameY aY bY : Argument} {sizesX sizesY : Both Int}
    (hnewX : d.Newcomer nameX aX bX x sizesX) (hnewY : d.Newcomer nameY aY bY y sizesY)
    {nx ny : Nat} {dx dy : Desk} (haloneX : getOrCreate nameX aX bX d = .ok nx dx)
    (haloneY : getOrCreate nameY aY bY d = .ok ny dy)
    (hapart : (dx.registry.holding nx).Apart (dy.registry.holding ny))
    (hwrite : (dx.disk.replace d.registry.layout.ledgerPath []).1 = .ok ()) :
    ∃ m e, getOrCreate nameY aY bY dx = .ok m e ∧ e.registry.Lawful ∧
      d.InTurn x (dx.registry.holding nx) y (dy.registry.holding ny) m e := by
  have hdx := ((follows_getOrCreate h nameX aX bX).of_ok haloneX).1.registry.lawful
  obtain ⟨m, e, hact, hgiven, hentries, hread⟩ := (joins_of_ok h hnewX haloneX).after
    (joins_of_ok h hnewY haloneY) hdx h.issued hnewX.new hne hapart hnewY hwrite
  have he := ((follows_getOrCreate hdx nameY aY bY).of_ok hact).1.registry.lawful
  have hledger : Ledger.write e.registry.ledger = Text.unlines (d.ledgerLines ++
      [ledgerLine x (dx.registry.holding nx), ledgerLine y (dy.registry.holding ny)]) := by
    rw [Ledger.write_eq, Registry.ledger, hentries, List.map_map, List.map_append, ledgerLines,
      List.append_assoc]
    rfl
  refine ⟨m, e, hact, he, hgiven, ?_, ?_, hentries, hledger ▸ hread⟩
  · refine Registry.holdingOf?_of_mem he ?_
    rw [hentries]
    simp
  · refine Registry.holdingOf?_of_mem he ?_
    rw [hentries]
    simp

/-- **Two newcomers may come in either order,** at every moment at which a registry is open, whatever
sizes are asked for: if their windows, as each would have them alone, do not meet, and the ledger can
be written, both are given these windows whoever comes first. Everybody has the same holding behind
either order, and the two ledgers differ in the order of the last two lines and in nothing else. -/
theorem commute_history (layout : Layout) (passes : Int) (disk : Disk) (events : List Event)
    (hopen : (history layout passes disk events).registry.isOpen = true)
    {nameX nameY : Argument} {x y : String} (hnameX : Registrant.ofArgument nameX = .ok x)
    (hnameY : Registrant.ofArgument nameY = .ok y) (hne : x ≠ y)
    (hnewX : x ∉ (history layout passes disk events).registry.registrants)
    (hnewY : y ∉ (history layout passes disk events).registry.registrants)
    {aX bX aY bY : Argument} {nx ny : Nat} {dx dy : Desk}
    (haloneX : getOrCreate nameX aX bX (history layout passes disk events) = .ok nx dx)
    (haloneY : getOrCreate nameY aY bY (history layout passes disk events) = .ok ny dy)
    (hapart : (dx.registry.holding nx).Apart (dy.registry.holding ny))
    (hwriteX : (dx.disk.replace layout.ledgerPath []).1 = .ok ())
    (hwriteY : (dy.disk.replace layout.ledgerPath []).1 = .ok ()) :
    let d := history layout passes disk events
    let hasX := dx.registry.holding nx
    let hasY := dy.registry.holding ny
    ∃ m e n f, getOrCreate nameY aY bY dx = .ok m e ∧ getOrCreate nameX aX bX dy = .ok n f ∧
      d.InTurn x hasX y hasY m e ∧ d.InTurn y hasY x hasX n f ∧
      ∀ k, e.registry.holdingOf? k = f.registry.holdingOf? k := by
  intro d hasX hasY
  have h : d.registry.Lawful := lawful_history layout passes disk events
  have hlayout : d.registry.layout = layout := layout_history layout passes disk events
  have hopen : d.registry.opened = true ∧ d.registry.closed = false := by
    rw [Registry.isOpen, Bool.and_eq_true, Bool.not_eq_true'] at hopen
    exact hopen
  obtain ⟨sizesX, hnewX⟩ := newcomer_of_ok hopen.1 hopen.2 hnameX
    (Assoc.get?_eq_none_iff.2 hnewX) haloneX
  obtain ⟨sizesY, hnewY⟩ := newcomer_of_ok hopen.1 hopen.2 hnameY
    (Assoc.get?_eq_none_iff.2 hnewY) haloneY
  obtain ⟨m, e, hactY, he, hturnY⟩ := exists_inTurn h hne hnewX hnewY haloneX haloneY hapart
    (hlayout.symm ▸ hwriteX)
  obtain ⟨n, f, hactX, hf, hturnX⟩ := exists_inTurn h hne.symm hnewY hnewX haloneY haloneX
    hapart.symm (hlayout.symm ▸ hwriteY)
  refine ⟨m, e, n, f, hactY, hactX, hturnY, hturnX, ?_⟩
  refine Registry.holdingOf?_of_perm hf ?_
  rw [hturnY.entries, hturnX.entries]
  exact (List.Perm.swap _ _ _).append_left _

/-- Two newcomers to whom others' windows are in the way, and who are not in the way of each other:
neither has the slot that is picked first. -/
theorem commute_history_crowded :
    let d := history {} 2 {} halfFull
    let zeta : Holding := ⟨⟨"zeta", .a, 3240, 64, 0⟩, ⟨"zeta", .b, 25344, 256, 0⟩⟩
    let kappa : Holding := ⟨⟨"kappa", .a, 3688, 64, 0⟩, ⟨"kappa", .b, 5120, 256, 0⟩⟩
    d.registry.isOpen = true ∧ zeta.Apart kappa ∧ ∃ nx dx ny dy m e n f,
      getOrCreate (.text " Zeta") .null .null d = .ok nx dx ∧
      getOrCreate (.text "kappa") (.int 64) .null d = .ok ny dy ∧
      getOrCreate (.text "kappa") (.int 64) .null dx = .ok m e ∧
      getOrCreate (.text " Zeta") .null .null dy = .ok n f ∧
      d.InTurn "zeta" zeta "kappa" kappa m e ∧ d.InTurn "kappa" kappa "zeta" zeta n f := by
  intro d zeta kappa
  have hopen : (history {} 2 {} halfFull).registry.isOpen = true := by decide +kernel
  have hnew : "zeta" ∉ (history {} 2 {} halfFull).registry.registrants ∧
      "kappa" ∉ (history {} 2 {} halfFull).registry.registrants := by
    decide +kernel
  have hapart : zeta.Apart kappa := by
    intro s
    cases s <;> decide
  have hzeta : (history {} 2 {} halfFull).returns (getOrCreate (.text " Zeta") .null .null)
      (fun number e => decide (e.registry.holding number = zeta ∧
        (e.disk.replace ({} : Layout).ledgerPath []).1 = .ok ())) = true := by
    decide +kernel
  have hkappa : (history {} 2 {} halfFull).returns (getOrCreate (.text "kappa") (.int 64) .null)
      (fun number e => decide (e.registry.holding number = kappa ∧
        (e.disk.replace ({} : Layout).ledgerPath []).1 = .ok ())) = true := by
    decide +kernel
  obtain ⟨nx, dx, haloneX, hx⟩ := exists_ok_of_returns hzeta
  obtain ⟨ny, dy, haloneY, hy⟩ := exists_ok_of_returns hkappa
  obtain ⟨hgivenX, hwriteX⟩ := of_decide_eq_true hx
  obtain ⟨hgivenY, hwriteY⟩ := of_decide_eq_true hy
  obtain ⟨m, e, n, f, hactY, hactX, hturnY, hturnX, -⟩ := commute_history {} 2 {} halfFull hopen
    (x := "zeta") (y := "kappa") (by decide +kernel) (by decide +kernel) (by decide) hnew.1 hnew.2
    haloneX haloneY (by rw [hgivenX, hgivenY]; exact hapart) hwriteX hwriteY
  rw [hgivenX, hgivenY] at hturnX hturnY
  exact ⟨hopen, hapart, nx, dx, ny, dy, m, e, n, f, haloneX, haloneY, hactY, hactX, hturnY, hturnX⟩

end Desk

end Allotment
