/-!
# Notices

What the library tells about its work while it works: decisions, corrections, troubles. A
notice has a level, the channel of the part that speaks, and a text. The texts of errors hold
names of temporary files, so they are left out here.

* `Notice.passes` — whether a notice is at least as grave as a threshold;
* `Remark` — a notice around the name of a registrant.
-/

namespace Allotment

/-- How grave a notice is. -/
inductive Level where
  | debug
  | info
  | warning
  | error
  deriving DecidableEq, Repr

/-- Levels in rising order. -/
def Level.rank : Level → Nat
  | .debug => 0
  | .info => 1
  | .warning => 2
  | .error => 3

/-- The name of a level. -/
def Level.label : Level → String
  | .debug => "DEBUG"
  | .info => "INFO"
  | .warning => "WARNING"
  | .error => "ERROR"

/-- The part that speaks. -/
inductive Channel where
  | hashing
  | placement
  | files
  | ledgerFile
  | rosterFile
  | registry
  | allocator
  | office
  deriving DecidableEq, Repr

/-- The name under which a part speaks. -/
def Channel.label : Channel → String
  | .hashing => "placement.hashing"
  | .placement => "placement.engine"
  | .files => "codec.files"
  | .ledgerFile => "codec.registry_file"
  | .rosterFile => "codec.registrant_file"
  | .registry => "registry.registry"
  | .allocator => "allocators.registrant"
  | .office => "api"

/-- A notice. -/
structure Notice where
  level : Level
  channel : Channel
  text : Option String
  deriving DecidableEq, Repr

namespace Notice

def debug (channel : Channel) (text : String) : Notice := ⟨.debug, channel, some text⟩
def info (channel : Channel) (text : String) : Notice := ⟨.info, channel, some text⟩
def warning (channel : Channel) (text : String) : Notice := ⟨.warning, channel, some text⟩

/-- An error, whose text is left out. -/
def error (channel : Channel) : Notice := ⟨.error, channel, none⟩

/-- Whether a notice is at least as grave as a threshold. -/
def passes (threshold : Level) (n : Notice) : Bool := decide (threshold.rank ≤ n.level.rank)

end Notice

/-- A notice that mentions the registrant's name once, split around it. -/
structure Remark where
  level : Level
  channel : Channel
  before : String
  behind : String
  deriving DecidableEq, Repr

/-- The notice about a given registrant. -/
def Remark.about (r : Remark) (registrant : String) : Notice :=
  ⟨r.level, r.channel, some (r.before ++ registrant ++ r.behind)⟩

end Allotment
