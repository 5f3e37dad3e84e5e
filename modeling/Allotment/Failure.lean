import Allotment.Space
import Allotment.Text.Numeral
import Allotment.Text.Quoted

/-!
# Failures

Every way in which a request can fail, as a cause with the data that its message shows.
`Failure.message` holds all the wording.

A number with too many digits cannot be shown. If one is in a message, the message cannot be put
together, and that is the failure that the caller meets: `Failure.met`.
-/

namespace Allotment

/-- A division that has no result. -/
inductive ZeroDivision where
  /-- The whole quotient by zero. -/
  | quotient
  /-- The remainder by zero. -/
  | remainder
  /-- The fraction with denominator zero. -/
  | fraction
  deriving DecidableEq, Repr

/-- The files whose writing can fail. -/
inductive StateFile where
  /-- The file of all reservations. -/
  | ledger
  /-- The file of one registrant's ids. -/
  | roster
  deriving DecidableEq, Repr

/-- Why a request failed. -/
inductive Failure where
  /-- The bounds of a space stand in the wrong order. -/
  | boundsReversed (space : Space) (lower upper : Int)
  /-- A value that names no space. -/
  | unknownSpace (shown : String)
  /-- A window of less than one id or of more than the whole space. -/
  | sizeDoesNotFit (space : Space) (size span : Int)
  /-- Every window of the size meets a taken one. -/
  | spaceExhausted (registrant : String) (space : Space) (size : Int)
  /-- Division by zero. -/
  | zeroDivision (kind : ZeroDivision)
  /-- A fraction beyond the floating-point numbers. -/
  | quotientTooLarge
  /-- A text that is not a number where a size is expected. -/
  | notNumeral (shown : String)
  /-- A text with too many digits where a size is expected. -/
  | tooManyDigits (limit digits : Nat)
  /-- An infinite size. -/
  | infiniteSize
  /-- A size that is not a number of the floating-point format. -/
  | nanSize
  /-- A value of a type that is no size. -/
  | notSize (type : String)
  /-- A registrant's name of the wrong type. -/
  | registrantType (type : String)
  /-- A registrant's name that is empty or blank. -/
  | emptyRegistrant
  /-- A registrant's name that cannot be a key or a file name. -/
  | invalidRegistrant (shown : String)
  /-- A registrant's name whose file would be the ledger. -/
  | ledgerCollision (shown path : String)
  /-- A name of an id of the wrong type. -/
  | idNameType (type : String)
  /-- A name of an id that is empty or has blanks around it. -/
  | idNameBlank (shown : String)
  /-- A name of an id that the file could not hold. -/
  | idNameUnstorable (shown : String)
  /-- A value that cannot be looked up as a name. -/
  | unhashable (type : String)
  /-- All ids of a reservation are handed out. -/
  | reservationExhausted (registrant : String) (space : Space) (size : Int)
  /-- The registry is closed. -/
  | registryClosed (path : String)
  /-- A file could not be written. -/
  | notSaved (file : StateFile) (path : String)
  /-- A directory stands where a file should be read or written. -/
  | isDirectory (shown : String)
  /-- A file stands where a directory should be made. -/
  | fileExists (shown : String)
  /-- A file stands on the way to a directory. -/
  | notDirectory (shown : String)
  /-- A path leads through a directory that does not exist. -/
  | notFound (shown : String)
  /-- A path, or a name in it, is longer than the disk allows. -/
  | nameTooLong (shown : String)
  /-- A path with a NUL character. -/
  | nulInPath
  /-- A text holds surrogates, so it has no bytes. -/
  | unencodable (what : Text.Unencodable)
  /-- A number has too many digits to be written while the work goes on: in a file or in a notice. -/
  | tooLongToWrite
  /-- A number has too many digits to be shown in the message of a refusal. -/
  | tooLongToShow
  /-- The system reports that a write failed. -/
  | writeFailed
  /-- A write was cut short from outside. -/
  | interrupted
  /-- No allocator was made for the registrant. -/
  | noAllocator (registrant : String)
  /-- No registry has the number. -/
  | noRegistry (number : Nat)
  deriving DecidableEq, Repr

/-- The name of a file in messages. -/
def StateFile.noun : StateFile → String
  | .ledger => "reservation file"
  | .roster => "id file"

/-- The text before and behind the registrant's name when no window is free. A name may hold
code points that are no characters, so whoever prints the name may have to do so apart. -/
def exhaustedWording (space : Space) (size : Int) : String × String :=
  (s!"No free window of size {size} in {space.letter} for registrant '", "'")

/-- The wording about a number with too many digits. -/
def digitsWording : String :=
  s!"Exceeds the limit ({Text.digitLimit} digits) for integer string conversion; " ++
    "use sys.set_int_max_str_digits() to increase the limit"

/-- The wording about surrogates. -/
def unencodableWording (what : Text.Unencodable) : String :=
  let which :=
    if what.count = 1 then
      "character '" ++ String.ofList (Text.escapeCode what.code) ++ s!"' in position {what.place}"
    else s!"characters in position {what.place}-{what.place + what.count - 1}"
  "'utf-8' codec can't encode " ++ which ++ ": surrogates not allowed"

/-- The wording of a failure. -/
def Failure.message : Failure → String
  | .boundsReversed space lower upper =>
    s!"{space.letter}: lower bound {lower} exceeds upper bound {upper}"
  | .unknownSpace shown => s!"Unknown space: {shown}"
  | .sizeDoesNotFit space size span =>
    s!"Reservation size {size} does not fit in {space.letter} (span {span})"
  | .spaceExhausted registrant space size =>
    let (before, behind) := exhaustedWording space size
    before ++ registrant ++ behind
  | .zeroDivision .quotient => "integer division or modulo by zero"
  | .zeroDivision .remainder => "integer modulo by zero"
  | .zeroDivision .fraction => "division by zero"
  | .quotientTooLarge => "integer division result too large for a float"
  | .notNumeral shown => s!"invalid literal for int() with base 10: {shown}"
  | .tooManyDigits limit digits =>
    s!"Exceeds the limit ({limit} digits) for integer string conversion: value has {digits} " ++
      "digits; use sys.set_int_max_str_digits() to increase the limit"
  | .infiniteSize => "cannot convert float infinity to integer"
  | .nanSize => "cannot convert float NaN to integer"
  | .notSize type =>
    s!"int() argument must be a string, a bytes-like object or a real number, not '{type}'"
  | .registrantType type => s!"Registrant name must be a string, got {type}"
  | .emptyRegistrant => "Registrant name must not be empty"
  | .invalidRegistrant shown => s!"Invalid registrant name: {shown}"
  | .ledgerCollision shown path =>
    s!"Registrant name {shown} collides with the reservation file {path}"
  | .idNameType type => s!"Id name must be a string, got {type}"
  | .idNameBlank shown => s!"Id name must be non-empty without surrounding whitespace: {shown}"
  | .idNameUnstorable shown => s!"Id name cannot be stored: {shown}"
  | .unhashable type => s!"unhashable type: '{type}'"
  | .reservationExhausted registrant space size =>
    s!"No more {space.letter} ids for registrant '{registrant}' (reservation of {size} is full)"
  | .registryClosed path => s!"Reservation registry {path} is closed"
  | .notSaved file path => s!"Failed to save {file.noun}: {path}"
  | .isDirectory shown => s!"[Errno 21] Is a directory: {shown}"
  | .fileExists shown => s!"[Errno 17] File exists: {shown}"
  | .notDirectory shown => s!"[Errno 20] Not a directory: {shown}"
  | .notFound shown => s!"[Errno 2] No such file or directory: {shown}"
  | .nameTooLong shown => s!"[Errno 36] File name too long: {shown}"
  | .nulInPath => "embedded null byte"
  | .unencodable what => unencodableWording what
  | .tooLongToWrite => digitsWording
  | .tooLongToShow => digitsWording
  | .writeFailed => "[Errno 5] Input/output error"
  | .interrupted => "interrupted"
  | .noAllocator registrant => s!"No allocator for registrant '{registrant}'"
  | .noRegistry number => s!"No registry {number}"

/-- The numbers of any size in the message of a failure. -/
def Failure.numbers : Failure → List Int
  | .boundsReversed _ lower upper => [lower, upper]
  | .sizeDoesNotFit _ size span => [size, span]
  | .spaceExhausted _ _ size => [size]
  | .reservationExhausted _ _ size => [size]
  | _ => []

/-- The failure that is met instead of a given one if a number in its message has too many digits. -/
def Failure.met (f : Failure) : Failure :=
  if ∀ n ∈ f.numbers, Text.Readable n then f else .tooLongToShow

theorem Failure.met_eq_self {f : Failure} (h : ∀ n ∈ f.numbers, Text.Readable n) : f.met = f :=
  if_pos h

end Allotment
