import QueryTail.Files.Tree
import QueryTail.Text.Utf8

/-!
# The tail of a log file

A log may be long and only its end is of interest. The tail is what lies within a bound from the
end of the file, less the line that the bound cuts. One byte more than the bound is read: when the
bound falls on the start of a line, the byte before it is the end of the line before, and the line
is kept.

For the greatest bound of all there is no number for one byte more. What becomes of such a sum is
decided when the program is built, and the tail depends on it.
-/

namespace QueryTail

/-- How the program is built, as far as it decides what becomes of a sum that does not fit. -/
inductive BuildProfile where
  /-- The sum wraps around. -/
  | release
  /-- The thread that forms the sum ends without a result. -/
  | debug
  deriving DecidableEq, Repr

/-- The sum of two numbers; nothing if forming it ends the thread. -/
def BuildProfile.add? (profile : BuildProfile) (first second : UInt64) : Option UInt64 :=
  match profile with
  | .release => some (first + second)
  | .debug =>
    if first.toNat + second.toNat < UInt64.size then some (first + second) else none

/-- A text after its first line; nothing if the line does not end. -/
def dropFirstLine (text : List Char) : List Char :=
  (text.dropWhile (· != '\n')).drop 1

/-- What is kept of a content if so many bytes at its end are read: all of it if they are the whole
content, otherwise what follows the first line. -/
def tailOfWindow (window : UInt64) (content : List UInt8) : List Char :=
  let offset := content.length - window.toNat
  let text := Text.ofUtf8Lossy ((content.drop offset).take window.toNat)
  if offset = 0 then text else dropFirstLine text

/-- The tail of a content: its whole lines within `bound` bytes from the end. A content that is not
longer than the bound, or by one byte only, is kept whole. At the greatest bound of all the number
of bytes to read, which is one more, wraps to nothing in a release build, so that the tail is empty;
in a debug build the thread ends, and there is no tail. -/
def tailOfContent (profile : BuildProfile) (bound : UInt64) (content : List UInt8) :
    Option (List Char) :=
  (profile.add? bound 1).map fun window => tailOfWindow window content

/-- The tail of a file, given what reading the whole file gives. A directory is opened as a file is,
and fails when a byte of it is read. -/
def tailOfRead (profile : BuildProfile) (bound : UInt64) :
    Except FileCause (List UInt8) → Option (Except FileCause (List Char))
  | .ok content => (tailOfContent profile bound content).map .ok
  | .error .isADirectory =>
    (profile.add? bound 1).map fun window =>
      if window = 0 then .ok [] else .error .isADirectory
  | .error cause => some (.error cause)

/-- The tail of a file; nothing if the thread that reads it ends before it has a result. -/
def FileTree.readTail (tree : FileTree) (profile : BuildProfile) (path : String) (bound : UInt64) :
    Option (Except FileCause (List Char)) :=
  tailOfRead profile bound (tree.read path)

end QueryTail
