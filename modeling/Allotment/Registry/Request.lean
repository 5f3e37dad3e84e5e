import Allotment.Registry.Desk

/-!
# Requests

What can be asked of a registry, as data, so that one can speak of every history of a registry
and not only of one call.

* `Request`, `Reply` — what is asked, and what comes back;
* `Desk.serve` — meet a request;
* `Desk.after` — the desk behind a request, whether it was met or not;
* `Desk.run` — the desk behind a list of requests, with `run_cons` and `run_append`;
* `Desk.fresh` — a registry that was just made, on the disk that the last one left behind.

A registry that stops in the middle of its work is one whose disk goes to a fresh desk. A stop
between two writes is an outage of the later write: the files are as the earlier one left them,
and at most a directory was made for the later one.
-/

namespace Allotment

/-- What can be asked of a registry. -/
inductive Request where
  | openLedger
  | getOrCreate (name sizeA sizeB : Argument)
  | allocatorFor (name sizeA sizeB : Argument)
  | allocate (registrant : String) (name space : Argument)
  | saveRoster (registrant : String)
  | persist
  | close

/-- What comes back when a request is met. -/
inductive Reply where
  | done
  /-- The number of a holding. -/
  | holding (number : Nat)
  /-- The registrant whose allocator is ready. -/
  | allocator (registrant : String)
  /-- The id under the name that was asked for. -/
  | id (value : Int)
  deriving DecidableEq, Repr

namespace Desk

/-- Meet a request. -/
def serve : Request → Act Reply
  | .openLedger => do
    openLedger
    return .done
  | .getOrCreate name sizeA sizeB => return .holding (← getOrCreate name sizeA sizeB)
  | .allocatorFor name sizeA sizeB => return .allocator (← allocatorFor name sizeA sizeB)
  | .allocate registrant name space => return .id (← allocate registrant name space)
  | .saveRoster registrant => do
    saveRoster registrant
    return .done
  | .persist => do
    persist
    return .done
  | .close => do
    close
    return .done

/-- The desk that an outcome leaves behind. -/
def left {α : Type} : EStateM.Result Failure Desk α → Desk
  | .ok _ d => d
  | .error _ d => d

/-- The desk behind a request. -/
def after (d : Desk) (request : Request) : Desk := left (serve request d)

/-- The desk behind a list of requests. -/
def run (d : Desk) (requests : List Request) : Desk := requests.foldl after d

/-- A registry that was just made. -/
def fresh (layout : Layout) (passes : Int) (disk : Disk) : Desk := ⟨{ layout, passes }, disk, []⟩

theorem after_of_ok {d e : Desk} {request : Request} {reply : Reply}
    (h : serve request d = .ok reply e) : d.after request = e := by
  simp [after, h, left]

theorem after_of_error {d e : Desk} {request : Request} {failure : Failure}
    (h : serve request d = .error failure e) : d.after request = e := by
  simp [after, h, left]

@[simp] theorem run_nil (d : Desk) : d.run [] = d := rfl

@[simp] theorem run_cons (d : Desk) (request : Request) (rest : List Request) :
    d.run (request :: rest) = (d.after request).run rest := rfl

/-- **A history may be cut in two.** -/
theorem run_append (d : Desk) (first second : List Request) :
    d.run (first ++ second) = (d.run first).run second := by
  simp [run]

end Desk

end Allotment
