import Allotment.Proofs.Ledger.Fate
import Allotment.Proofs.Registry.Opening
import Allotment.Registry.Request

/-!
# Opening a ledger that was edited by hand

Anything may stand in a ledger that people edit. A registry that finds one opens with it, whatever its
bytes are, and its report tells what it did not take over.

* `ends_openLedger_of_found` — **PROVED**: what a registry is that has found a ledger;
* `accounts_loaded` — **PROVED**: its table and its report account for every line;
* `opened_with_account` — **PROVED**: so no content keeps a registry from opening, no line is lost
  without an issue that carries its number, and a report without issues means that the table is what
  the lines say.
-/

namespace Allotment

namespace Desk

/-- A registry that finds a ledger takes it over, and nothing is written. -/
theorem ends_openLedger_of_found {d : Desk} (hopened : d.registry.opened = false)
    (hclosed : d.registry.closed = false) {bytes : List UInt8}
    (hread : d.disk.read d.registry.layout.ledgerPath = .ok (some bytes)) :
    Ends d openLedger (fun _ e => e.disk = d.disk ∧ e.registry = d.loaded (some bytes))
      fun _ _ => False := by
  refine ends_openLedger_of_unopened hopened hclosed ?_ ?_ ?_
  · intro found notices hfound
    cases hread.symm.trans hfound
    exact ⟨rfl, rfl⟩
  · intro notices hnone
    cases hread.symm.trans hnone
  · intro f hfailed
    cases hread.symm.trans hfailed

/-- The table and the report of a registry that has read its ledger account for every line. -/
theorem accounts_loaded (d : Desk) (bytes : List UInt8) :
    ∃ fates, Ledger.Accounts d.registry.layout.ledgerPath.text
      (Text.significant (Text.fileLines bytes)) fates (d.loaded (some bytes)).report.issues
      (d.loaded (some bytes)).entries := by
  rw [loaded_issues, loaded_entries]
  exact Ledger.accounts_settle d.registry.layout.ledgerPath.text (Text.fileLines bytes)

/-- **Every line of a ledger is accounted for.** Whatever bytes the ledger has, a registry that is not
open yet opens with it and writes nothing. Each line that is neither blank nor a comment is skipped,
dropped or accepted, its issues are those of its fate, and no issue tells of anything else. The report
is empty just if all lines are accepted with the numbers that they have, and then the table has
exactly these lines in their order. No number that a line gives to a message is longer than what can
be written. -/
theorem opened_with_account {d : Desk} (hopened : d.registry.opened = false)
    (hclosed : d.registry.closed = false) {bytes : List UInt8}
    (hread : d.disk.read d.registry.layout.ledgerPath = .ok (some bytes)) :
    let lines := Text.significant (Text.fileLines bytes)
    ∃ e fates, openLedger d = .ok ⟨⟩ e ∧ e.disk = d.disk ∧ e.registry.isOpen = true ∧
      Ledger.Accounts d.registry.layout.ledgerPath.text lines fates e.registry.report.issues
        e.registry.entries ∧
      (e.registry.report.isClean = true ↔ ∀ x ∈ fates, x.2.Unchanged) ∧
      (e.registry.report.isClean = true → ∃ es : List Ledger.Entry,
        (lines.map fun l => Ledger.readEntry (some l.number) l.chars) = es.map .ok ∧
          e.registry.entries = es.map fun x => (x.registrant, x.holding)) ∧
      ∀ l ∈ lines, ∀ x, Ledger.readEntry (some l.number) l.chars = .ok x →
        ∀ n ∈ x.numbers, 0 ≤ n ∧ Text.Readable n := by
  intro lines
  obtain ⟨⟨⟩, e, hact, hdisk, hregistry⟩ :=
    (ends_openLedger_of_found hopened hclosed hread).exists_ok
  obtain ⟨fates, haccounts⟩ := accounts_loaded d bytes
  rw [← hregistry] at haccounts
  have hopen : e.registry.isOpen = true := by
    rw [Registry.isOpen, hregistry, loaded_opened, loaded_closed, hclosed]
    rfl
  have hclean : e.registry.report.isClean = true ↔ e.registry.report.issues = [] :=
    List.isEmpty_iff
  refine ⟨e, fates, hact, hdisk, hopen, haccounts, hclean.trans haccounts.clean_iff,
    fun hnone => haccounts.table_of_clean (hclean.1 hnone), ?_⟩
  intro l _ x hx n hn
  exact ⟨(Ledger.parsed_of_readEntry hx).nonneg n hn, Ledger.readable_of_readEntry hx n hn⟩

/-- A ledger with a line of each kind: two that are accepted, one of them with a count that is too
large, and four that are lost, one of them after its counts were cut down. -/
def mixed : List UInt8 :=
  Text.encodeUtf8 (Text.unlines (["# edited by hand", "", "alpha=2024,64,4096,256,3,0",
    " Beta =2056,64,5000,256,99,300", "gamma=3000,64,5000,256,99,0", "ALPHA=3500,8,9000,8,0,0",
    "delta=1,2", "omega=9000,1,9000,1,0,0"].map String.toList))

/-- A new registry that finds it. -/
def receiving : Desk :=
  fresh {} 2 { nodes := [(["tmp", "work", "config"], .dir), (["tmp", "work", "config", "id"], .dir),
    (["tmp", "work", "config", "id", "!reservations.cfg"], .file mixed)] }

/-- The registry opens with the two lines, and the report tells of the others. -/
theorem opened_with_account_mixed :
    receiving.registry.opened = false ∧ receiving.registry.closed = false ∧
      receiving.disk.read receiving.registry.layout.ledgerPath = .ok (some mixed) ∧
      ∃ e fates, openLedger receiving = .ok ⟨⟩ e ∧
        Ledger.Accounts receiving.registry.layout.ledgerPath.text
          (Text.significant (Text.fileLines mixed)) fates e.registry.report.issues
          e.registry.entries ∧
        e.registry.registrants = ["alpha", "gamma"] ∧
        e.registry.report.issues.map Issue.lineNo =
          [some 7, some 4, some 4, some 4, some 5, some 6, some 8] := by
  have hopened : receiving.registry.opened = false := rfl
  have hclosed : receiving.registry.closed = false := rfl
  have hread : receiving.disk.read receiving.registry.layout.ledgerPath = .ok (some mixed) := by
    decide +kernel
  have hreturns : receiving.returns openLedger (fun _ e =>
      decide (e.registry.registrants = ["alpha", "gamma"]) &&
        decide (e.registry.report.issues.map Issue.lineNo =
          [some 7, some 4, some 4, some 4, some 5, some 6, some 8])) = true := by
    decide +kernel
  generalize receiving = d at hopened hclosed hread hreturns ⊢
  generalize mixed = bytes at hread ⊢
  obtain ⟨e, fates, hact, -, -, haccounts, -⟩ := opened_with_account hopened hclosed hread
  rw [returns, hact, Bool.and_eq_true, decide_eq_true_eq, decide_eq_true_eq] at hreturns
  exact ⟨hopened, hclosed, hread, e, fates, hact, haccounts, hreturns⟩

end Desk

end Allotment
