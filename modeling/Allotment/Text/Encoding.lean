import Allotment.Text.Entries
import Allotment.Text.Lines
import Allotment.Text.Wide

/-!
# How a file is encoded

Files are written in UTF-8 and read in the encoding that a detector guesses. The detector is not part
of this library, and nothing is assumed of it but the rule that it is relied on to follow: a byte order
mark picks one of the wide encodings or marks UTF-8 expressly, and without a mark a file is UTF-8.
Whatever is said about files holds as far as the detector keeps to this rule.

* `Encoding.detect` — the rule: the encoding and the bytes behind the mark;
* `decodeText` — the text of a file;
* `detect_of_ascii` — **PROVED**: a file whose first byte is an ASCII character other than
  NUL has no mark;
* `fileLines_unlines` — **PROVED**: lines that are written behind a comment are read back.
-/

namespace Allotment.Text

/-- The encodings that a file may have. -/
inductive Encoding where
  | utf8
  | markedUtf8
  | utf16 (order : ByteOrder)
  | utf32 (order : ByteOrder)
  deriving DecidableEq, Repr

/-- The customary name of an encoding. -/
def Encoding.name : Encoding → String
  | .utf8 => "utf-8"
  | .markedUtf8 => "utf-8-sig"
  | .utf16 _ => "utf-16"
  | .utf32 _ => "utf-32"

/-- The encoding that the first bytes show, and the bytes behind the mark. This stands for the guess of
a detector outside of this library, which may look at all the bytes and at how likely they are in other
encodings: it is assumed to go by a mark if there is one, and to say UTF-8 if there is none. -/
def Encoding.detect : List UInt8 → Encoding × List UInt8
  | 0xFF :: 0xFE :: 0x00 :: 0x00 :: rest => (.utf32 .lowFirst, rest)
  | 0x00 :: 0x00 :: 0xFE :: 0xFF :: rest => (.utf32 .highFirst, rest)
  | 0xFF :: 0xFE :: rest => (.utf16 .lowFirst, rest)
  | 0xFE :: 0xFF :: rest => (.utf16 .highFirst, rest)
  | 0xEF :: 0xBB :: 0xBF :: rest => (.markedUtf8, rest)
  | bytes => (.utf8, bytes)

/-- The text of a file. -/
def decodeText (bytes : List UInt8) : List Char :=
  match Encoding.detect bytes with
  | (.utf8, rest) => decodeUtf8 rest
  | (.markedUtf8, rest) => decodeUtf8 rest
  | (.utf16 order, rest) => decodeUtf16 order rest
  | (.utf32 order, rest) => decodeUtf32 order rest

/-- The trimmed lines of a file. -/
def fileLines (bytes : List UInt8) : List (List Char) := (splitLines (decodeText bytes)).map trim

/-- A file that starts with an ASCII character other than NUL has no mark. -/
theorem detect_of_ascii {b : UInt8} {rest : List UInt8} (h0 : b ≠ 0) (h : b < 0x80) :
    Encoding.detect (b :: rest) = (.utf8, b :: rest) := by
  unfold Encoding.detect
  split <;> simp_all

/-- A text that starts with a comment is read as it is written. -/
theorem decodeText_comment (s : List Char) : decodeText (encodeUtf8 ('#' :: s)) = '#' :: s := by
  have hfirst : encodeUtf8 ('#' :: s) = 0x23 :: encodeUtf8 s := by simp [encodeUtf8, utf8Bytes]
  have hback := decodeUtf8_encodeUtf8 ('#' :: s)
  rw [hfirst] at hback ⊢
  simp only [decodeText, detect_of_ascii (b := 0x23) (by decide) (by decide), hback]

theorem splitLines_unlines {lines : List (List Char)} (h : ∀ line ∈ lines, OneLine line) :
    splitLines (unlines lines) = lines := by
  induction lines with
  | nil => rfl
  | cons line rest ih =>
    rw [unlines_cons, splitLines_line (h line (by simp)),
      ih fun other hother => h other (List.mem_cons_of_mem line hother)]

/-- **Lines that are written are read back,** apart from blanks at their ends, if the first is a
comment. -/
theorem fileLines_unlines {first : List Char} {lines : List (List Char)}
    (h : ∀ line ∈ ('#' :: first) :: lines, OneLine line) :
    fileLines (encodeUtf8 (unlines (('#' :: first) :: lines)))
      = (('#' :: first) :: lines).map trim := by
  have hcomment : unlines (('#' :: first) :: lines) = '#' :: (first ++ '\n' :: unlines lines) := by
    rw [unlines_cons, List.cons_append]
  have hlines := splitLines_unlines h
  rw [hcomment] at hlines ⊢
  rw [fileLines, decodeText_comment, hlines]

end Allotment.Text
