import QueryTail.Entry.Codec

/-!
# Pages of a query log

A query log holds one entry per line, oldest first. A page holds its most recent entries, newest
first. Lines that are too long or do not decode are passed over but remembered, so that one bad line
never hides another.
-/

namespace QueryTail

/-- The greatest length of a line in bytes. -/
def maxLineBytes : Nat := 65536

/-- The lines of a text, last line first, without their line ends. -/
def linesFromEnd (text : List Char) : List (List Char) :=
  let (current, done) := text.foldl
    (fun (current, done) c =>
      if c = '\n' then ([], current.reverse :: done) else (c :: current, done))
    (([] : List Char), ([] : List (List Char)))
  current.reverse :: done

/-- A line that is passed over. -/
inductive BadLine where
  /-- The line has more bytes than a line may have. -/
  | tooLong (bytes : Nat)
  /-- The line is no entry. -/
  | malformed (text : String)
  deriving DecidableEq

/-- What one line of a log holds. -/
inductive LineContent where
  | blank
  | bad (line : BadLine)
  | entry (entry : Entry)

/-- An entry whose source is empty belongs to the node whose log it stands in. -/
def Entry.attributedTo (node : String) (entry : Entry) : Entry :=
  if entry.source.isEmpty then { entry with source := node } else entry

/-- What a line holds, blanks at its ends aside. -/
def LineContent.ofLine (node : String) (line : List Char) : LineContent :=
  let body := Text.trim line
  if body.isEmpty then .blank
  else
    let text := String.ofList body
    if text.utf8ByteSize > maxLineBytes then .bad (.tooLong text.utf8ByteSize)
    else match Entry.decode? text with
      | none => .bad (.malformed text)
      | some decoded => .entry (decoded.attributedTo node)

/-- The most recent entries of a log, newest first, and the bad lines that were met on the way. -/
structure Page where
  entries : List Entry
  bad : List BadLine

namespace Page

/-- How many bad lines were met. -/
def malformed (page : Page) : Nat :=
  page.bad.length

/-- Take entries from lines, newest line first, until `room` entries are found. The entries and the
bad lines found so far are kept last found first. -/
def collect (node : String) : Nat → List Entry → List BadLine → List (List Char) → Page
  | 0, found, bad, _ => ⟨found.reverse, bad.reverse⟩
  | _ + 1, found, bad, [] => ⟨found.reverse, bad.reverse⟩
  | room + 1, found, bad, line :: older =>
    match LineContent.ofLine node line with
    | .blank => collect node (room + 1) found bad older
    | .bad line => collect node (room + 1) found (line :: bad) older
    | .entry entry => collect node room (entry :: found) bad older

/-- The page of a log's text: at most `size` entries. -/
def ofText (node : String) (size : Nat) (content : List Char) : Page :=
  if size = 0 then ⟨[], []⟩ else collect node size [] [] (linesFromEnd content)

/-- The page of a log. -/
def ofLog (content : String) (node : String) (size : Nat) : Page :=
  ofText node size content.toList

end Page

end QueryTail
