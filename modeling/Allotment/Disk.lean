import Allotment.Assoc
import Allotment.Failure
import Allotment.Notice
import Allotment.Order
import Allotment.Path
import Allotment.Text.CodePoint
import Allotment.Text.Quoted

/-!
# The disk

The files that a registry reads and writes: a finite tree, kept as a table from locations to
files and directories. The working directory and those above it are always there.

* `locate` — follow a path name by name through directories that exist; only the last name may
  be missing, and an `Obstacle` says why a path leads nowhere;
* `read` — the bytes of a file, none if there is no such file;
* `makeDirs` — make a directory and those on the way to it. What was made before an obstacle
  came up stays;
* `install` — write a file, after making the directories that are missing: the bytes are written
  aside first, under a longer name in the same directory;
* `replace` — put a file in place of another in one step. Either the new bytes are there
  afterwards, or a `WriteFault` says why no file has changed;
* `store` — the same for a text. A text that holds surrogates has no bytes, which is noticed when
  it is to be written aside, and there is no text at all if a number in it cannot be written;
* `outages` — the fate of the writes to come: a disk may fail at any write for reasons of its
  own, before or after directories are made for it. An empty list is a disk that never does.

That no fault changes a file is `replaceWith_error_file`.
-/

namespace Allotment

/-- What stands at a location. -/
inductive Node where
  | dir
  | file (bytes : List UInt8)
  deriving DecidableEq, Repr

/-- The names from the root of the disk to a place. -/
abbrev Location := List String

/-- Why a path leads nowhere. -/
inductive Obstacle where
  /-- A directory on the way does not exist. -/
  | missing
  /-- A file stands on the way. -/
  | file
  /-- The path or a name in it is too long. -/
  | tooLong
  deriving DecidableEq, Repr

/-- How far a write gets before something befalls it. -/
inductive Stage where
  /-- It has made the directories of so many names of its path. -/
  | making (names : Nat)
  /-- It has made all directories and is writing the bytes aside. -/
  | writing
  deriving DecidableEq, Repr

/-- What can befall a write. -/
structure Outage where
  stage : Stage
  /-- Whether the system reports that the write failed. Otherwise it is cut short in another
  way. -/
  reported : Bool
  deriving DecidableEq, Repr

/-- A disk. -/
structure Disk where
  /-- The working directory. -/
  home : Location := ["tmp", "work"]
  nodes : List (Location × Node) := []
  outages : List (Option Outage) := []
  deriving DecidableEq, Repr

/-- Why a write failed. -/
inductive WriteFault where
  /-- This path leads nowhere. -/
  | blocked (why : Obstacle) (shown : String)
  /-- A file stands where the directory of this path should be. -/
  | fileInPlace (shown : String)
  /-- The path holds a NUL character. -/
  | nulInPath
  /-- A number in the text has too many digits to be written, so there is no text. -/
  | numberTooLong
  /-- The text holds surrogates, so it has no bytes. -/
  | unencodable (what : Text.Unencodable)
  /-- The path of the file is too long, as it is given. -/
  | targetTooLong (shown : String)
  /-- A directory stands where the file should be. -/
  | targetIsDirectory (shown : String)
  /-- The disk failed. -/
  | outage (what : Outage)
  deriving DecidableEq, Repr

/-- The failure of a caller whose path leads nowhere. -/
def Obstacle.failure (shown : String) : Obstacle → Failure
  | .missing => .notFound shown
  | .file => .notDirectory shown
  | .tooLong => .nameTooLong shown

namespace WriteFault

/-- Whether the system reports the fault as its own. -/
def isSystem : WriteFault → Bool
  | .nulInPath => false
  | .numberTooLong => false
  | .unencodable _ => false
  | .outage what => what.reported
  | _ => true

/-- Whether there was already a file to write the bytes aside when the fault came. -/
def isLate : WriteFault → Bool
  | .unencodable _ => true
  | .targetTooLong _ => true
  | .targetIsDirectory _ => true
  | .outage what => decide (what.stage = .writing)
  | _ => false

/-- What is said about a fault where it comes up. -/
def notices (f : WriteFault) : List Notice := if f.isLate then [.error .files] else []

/-- The failure of a caller who does not expect faults. -/
def failure : WriteFault → Failure
  | .blocked why shown => why.failure shown
  | .fileInPlace shown => .fileExists shown
  | .nulInPath => .nulInPath
  | .numberTooLong => .tooLongToWrite
  | .unencodable what => .unencodable what
  | .targetTooLong shown => .nameTooLong shown
  | .targetIsDirectory shown => .isDirectory shown
  | .outage what => if what.reported then .writeFailed else .interrupted

end WriteFault

namespace Disk

/-- What stands at a location. -/
def node? (d : Disk) (loc : Location) : Option Node :=
  if loc.isPrefixOf d.home then some .dir else Assoc.get? loc d.nodes

/-- Put something at a location. -/
def put (d : Disk) (loc : Location) (node : Node) : Disk :=
  { d with nodes := Assoc.put loc node d.nodes }

/-- One name further. Two dots lead back, but not beyond the root. -/
def step (loc : Location) (name : String) : Location :=
  if name = ".." then loc.dropLast else loc ++ [name]

/-- Where the paths with a root start. -/
def start (d : Disk) : Root → Location
  | .here => d.home
  | .slash => []
  | .doubleSlash => []

/-- Follow names from a location through directories. -/
def follow (d : Disk) (loc : Location) : List String → Except Obstacle Location
  | [] => .ok loc
  | name :: rest =>
    match d.node? loc with
    | none => .error .missing
    | some (.file _) => .error .file
    | some .dir =>
      if Path.nameTooLong 0 name then .error .tooLong else d.follow (step loc name) rest

/-- The location of a path. -/
def locate (d : Disk) (p : Path) : Except Obstacle Location :=
  if p.isTooLong then .error .tooLong else d.follow (d.start p.root) p.names

/-- What stands at a path. A path that leads nowhere has nothing at its end, but a path that is
too long is refused. -/
def lookup (d : Disk) (p : Path) : Except Failure (Option Node) :=
  if p.hasNul then .ok none
  else match d.locate p with
    | .ok loc => .ok (d.node? loc)
    | .error .tooLong => .error (.nameTooLong (Text.quote p.text))
    | .error _ => .ok none

/-- Whether anything stands at a path. -/
def has (d : Disk) (p : Path) : Except Failure Bool := (d.lookup p).map Option.isSome

/-- The bytes of a file, if it exists. -/
def read (d : Disk) (p : Path) : Except Failure (Option (List UInt8)) :=
  match d.lookup p with
  | .error e => .error e
  | .ok none => .ok none
  | .ok (some (.file bytes)) => .ok (some bytes)
  | .ok (some .dir) => .error (.isDirectory (Text.quote p.text))

/-- Make the directories that are missing on a path, from the location that its first `done`
names lead to. As long as all directories on the way were there, a fault is one of the whole
path; once a directory was made, each further one is made by itself, and a fault is one of the
path up to it. -/
def makeDirsFrom (d : Disk) (p : Path) (made : Bool) (loc : Location) (done : List String) :
    List String → Except WriteFault Location × Disk
  | [] => (.ok loc, d)
  | name :: rest =>
    let shown := Text.quote (if made then (⟨p.root, done ++ [name]⟩ : Path) else p).text
    if Path.nameTooLong 0 name then (.error (.blocked .tooLong shown), d)
    else match d.node? (step loc name) with
      | some .dir => d.makeDirsFrom p made (step loc name) (done ++ [name]) rest
      | some (.file _) =>
        (.error (if made ∨ rest = [] then .fileInPlace shown else .blocked .file shown), d)
      | none =>
        (d.put (step loc name) .dir).makeDirsFrom p true (step loc name) (done ++ [name]) rest

/-- Make a directory and those on the way to it, and return its location. -/
def makeDirs (d : Disk) (p : Path) : Except WriteFault Location × Disk :=
  if p.hasNul then (.error .nulInPath, d)
  else if p.isTooLong then (.error (.blocked .tooLong (Text.quote p.text)), d)
  else d.makeDirsFrom p false (d.start p.root) [] p.names

/-- Whether a name is too long for a file in a directory, with some bytes added to it: by itself, or
because the path to it gets too long. A file that is written aside is made by its path from the root
of the disk. -/
def overlong (root : Root) (dir : Location) (added : Nat) (name : String) : Bool :=
  Path.nameTooLong added name || (Path.absolute root (dir ++ [name])).tooLong added

/-- The location of a file that is to be written, after making its directory. The name may need
some bytes more than it has. -/
def place (d : Disk) (p : Path) (added : Nat) : Except WriteFault Location × Disk :=
  match d.makeDirs p.parent with
  | (.error fault, d) => (.error fault, d)
  | (.ok dir, d) =>
    match p.names.getLast? with
    | none => (.ok dir, d)
    | some name =>
      if Path.nameHasNul name then (.error .nulInPath, d)
      else if overlong p.root dir added name then
        (.error (.blocked .tooLong (Text.quote p.text)), d)
      else (.ok (step dir name), d)

/-- Write a file, on a disk that does not fail by itself. -/
def install (d : Disk) (p : Path) (content : Except Text.Unencodable (List UInt8)) (added : Nat) :
    Except WriteFault Unit × Disk :=
  match d.place p added with
  | (.error fault, d) => (.error fault, d)
  | (.ok loc, d) =>
    match content with
    | .error what => (.error (.unencodable what), d)
    | .ok bytes =>
      if p.isTooLong then (.error (.targetTooLong (Text.quote p.text)), d)
      else if d.node? loc = some .dir then (.error (.targetIsDirectory (Text.quote p.text)), d)
      else (.ok (), d.put loc (.file bytes))

/-- How much longer the name is under which bytes are written aside: a dot before the name, and
behind it a dot, eight letters and an ending of four. -/
def asideLength : Nat := 14

/-- What an outage leaves of a write to a path: the directories that it has made by then. -/
def breakOff (d : Disk) (p : Path) : Stage → Disk
  | .making names => (d.makeDirs ⟨p.root, p.parent.names.take names⟩).2
  | .writing => (d.makeDirs p.parent).2

/-- Put a file in place of another in one step, if there are bytes to write. -/
def replaceWith (d : Disk) (p : Path) (content : Except Text.Unencodable (List UInt8)) :
    Except WriteFault Unit × Disk :=
  match d.outages with
  | [] => d.install p content asideLength
  | none :: rest => { d with outages := rest }.install p content asideLength
  | some what :: rest => (.error (.outage what), { d with outages := rest }.breakOff p what.stage)

/-- Put a file in place of another in one step. -/
def replace (d : Disk) (p : Path) (bytes : List UInt8) : Except WriteFault Unit × Disk :=
  d.replaceWith p (.ok bytes)

/-- Put a text in place of a file, if its numbers can be written. -/
def store {α : Type} [Text.Letter α] (d : Disk) (p : Path) :
    Option (List α) → Except WriteFault Unit × Disk
  | none => (.error .numberTooLong, d)
  | some text => d.replaceWith p (Text.encode text)

/-- Remove what stands at a path, with everything in it. -/
def remove (d : Disk) (p : Path) : Disk :=
  match d.locate p with
  | .error _ => d
  | .ok loc => { d with nodes := d.nodes.filter fun (other, _) => !loc.isPrefixOf other }

/-- Everything in the working directory, with locations written as paths, in the order of these.
A directory is written with a slash at its end. -/
def listing (d : Disk) : List (String × Option (List UInt8)) :=
  let inside := d.nodes.filter fun (loc, _) => d.home.isPrefixOf loc
  sortBy (fun x y => !decide (y.1 < x.1)) (inside.map fun (loc, node) =>
    let shown := "/".intercalate (loc.drop d.home.length)
    match node with
    | .dir => (shown ++ "/", none)
    | .file bytes => (shown, some bytes))

/-! ### What a write changes -/

theorem node?_put_of_ne {d : Disk} {loc other : Location} (h : other ≠ loc) (node : Node) :
    (d.put loc node).node? other = d.node? other := by
  simp only [node?, put, Assoc.get?_put_of_ne h]

theorem node?_put_self {d : Disk} {loc : Location} (h : loc.isPrefixOf d.home = false)
    (node : Node) : (d.put loc node).node? loc = some node := by
  simp [node?, put, h, Assoc.get?_put_self]

/-- A location where no directory stands is not one of those that are always there. -/
theorem not_isPrefixOf_home {d : Disk} {loc : Location} (h : d.node? loc ≠ some .dir) :
    loc.isPrefixOf d.home = false := by
  cases e : loc.isPrefixOf d.home with
  | false => rfl
  | true => exact absurd (by simp [node?, e]) h

/-- A new directory changes no file. -/
theorem file_put_dir {d : Disk} {loc : Location} (h : d.node? loc = none) (other : Location)
    (bytes : List UInt8) :
    (d.put loc .dir).node? other = some (.file bytes) ↔ d.node? other = some (.file bytes) := by
  by_cases e : other = loc
  · subst e
    rw [node?_put_self (not_isPrefixOf_home (by simp [h])), h]
    simp
  · rw [node?_put_of_ne e]

theorem file_makeDirsFrom (d : Disk) (p : Path) (made : Bool) (loc : Location)
    (done rest : List String) (other : Location) (bytes : List UInt8) :
    (d.makeDirsFrom p made loc done rest).2.node? other = some (.file bytes) ↔
      d.node? other = some (.file bytes) := by
  induction rest generalizing d made loc done with
  | nil => rfl
  | cons name rest ih =>
    unfold makeDirsFrom
    simp only
    split
    · rfl
    · split
      · exact ih d made _ _
      · rfl
      · rename_i free
        exact (ih _ true _ _).trans (file_put_dir free other bytes)

theorem file_makeDirs (d : Disk) (p : Path) (other : Location) (bytes : List UInt8) :
    (d.makeDirs p).2.node? other = some (.file bytes) ↔ d.node? other = some (.file bytes) := by
  unfold makeDirs
  split
  · rfl
  · split
    · rfl
    · exact file_makeDirsFrom d p false _ [] p.names other bytes

theorem file_place (d : Disk) (p : Path) (added : Nat) (other : Location) (bytes : List UInt8) :
    (d.place p added).2.node? other = some (.file bytes) ↔
      d.node? other = some (.file bytes) := by
  have dirs := file_makeDirs d p.parent other bytes
  unfold place
  split
  · rename_i fault after made
    rwa [made] at dirs
  · rename_i dir after made
    rw [made] at dirs
    split
    · exact dirs
    · split
      · exact dirs
      · split <;> exact dirs

/-- What becomes of a write on a disk that does not fail by itself: it fails, and at most directories
were made for it, or there are bytes, and they are where the file is placed. -/
theorem install_cases (d : Disk) (p : Path) (content : Except Text.Unencodable (List UInt8))
    (added : Nat) :
    (∃ fault, d.install p content added = (.error fault, (d.place p added).2)) ∨
      ∃ bytes loc after, content = .ok bytes ∧ d.place p added = (.ok loc, after) ∧
        p.isTooLong = false ∧ after.node? loc ≠ some .dir ∧
        d.install p content added = (.ok (), after.put loc (.file bytes)) := by
  unfold install
  split
  · rename_i placed
    exact .inl ⟨_, by rw [placed]⟩
  · rename_i loc after placed
    split
    · exact .inl ⟨_, by rw [placed]⟩
    · rename_i bytes
      by_cases hlong : p.isTooLong = true
      · rw [if_pos hlong, placed]
        exact .inl ⟨_, rfl⟩
      · rw [if_neg hlong]
        by_cases hdir : after.node? loc = some .dir
        · rw [if_pos hdir, placed]
          exact .inl ⟨_, rfl⟩
        · rw [if_neg hdir]
          exact .inr ⟨bytes, loc, after, rfl, placed, Bool.not_eq_true _ ▸ hlong, hdir, rfl⟩

/-- What fails on a disk that does not fail by itself changes no file. -/
theorem install_error_file {d : Disk} {p : Path}
    {content : Except Text.Unencodable (List UInt8)} {added : Nat} {fault : WriteFault}
    (h : (d.install p content added).1 = .error fault) (other : Location) (old : List UInt8) :
    (d.install p content added).2.node? other = some (.file old) ↔
      d.node? other = some (.file old) := by
  rcases install_cases d p content added with ⟨_, hfault⟩ | ⟨_, _, _, -, -, -, -, hok⟩
  · rw [hfault]
    exact file_place d p added other old
  · rw [hok] at h
    cases h

theorem file_breakOff (d : Disk) (p : Path) (stage : Stage) (other : Location)
    (bytes : List UInt8) :
    (d.breakOff p stage).node? other = some (.file bytes) ↔ d.node? other = some (.file bytes) := by
  cases stage with
  | making names => exact file_makeDirs d _ other bytes
  | writing => exact file_makeDirs d _ other bytes

/-- **A fault leaves every file as it was.** -/
theorem replaceWith_error_file {d : Disk} {p : Path}
    {content : Except Text.Unencodable (List UInt8)} {fault : WriteFault}
    (h : (d.replaceWith p content).1 = .error fault) (loc : Location) (old : List UInt8) :
    (d.replaceWith p content).2.node? loc = some (.file old) ↔ d.node? loc = some (.file old) := by
  unfold replaceWith at h ⊢
  split at h
  · exact install_error_file h loc old
  · exact install_error_file h loc old
  · exact file_breakOff _ p _ loc old

/-- A text of characters always has bytes. -/
theorem store_some (d : Disk) (p : Path) (text : List Char) :
    d.store p (some text) = d.replace p (Text.encodeUtf8 text) := by
  rw [store, replace, Text.encode_char]

end Disk

end Allotment
