import PseudoAsm.Text.Lowercase

/-!
# Similar texts

When a name is not known, the known names that look like a slip of the pen are offered instead:
those that differ in case only, and those of almost the same length within two edits. The edit
distance of two texts is the least number of characters that have to be inserted, deleted or
exchanged to turn one into the other.

Switches of the command line are compared in another way. Two texts are similar as far as they share
blocks of characters. The longest block that both have is taken, the first one of several, and then
the parts before it and the parts behind it are compared in the same way. Texts are close if at
least three fifths of their characters, counted in both of them, lie in shared blocks.
-/

namespace PseudoAsm.Text

section Edits

/-- A row of distances behind its entry `latest`: those of a text that ends in `c` to longer and
longer beginnings of a target, from the distances of the text without `c` to the same ones. -/
def extendRow (c : Char) (latest : Nat) : Text → List Nat → List Nat
  | d :: target, exchanged :: row =>
    let distance := if c == d then exchanged else 1 + min exchanged (min (row.headD 0) latest)
    distance :: extendRow c distance target row
  | _, _ => []

/-- The row of distances of a whole text to the beginnings of the target, from the row of its first
`count` characters. -/
def lastRow (target : Text) : Nat → List Nat → Text → List Nat
  | _, row, [] => row
  | count, row, c :: text =>
    lastRow target (count + 1) ((count + 1) :: extendRow c (count + 1) target row) text

/-- The distance of two texts, computed row by row: one row for each beginning of the first text. -/
def distanceByRows (text target : Text) : Nat :=
  (lastRow target 0 (List.range (target.length + 1)) text).getLastD 0

/-- The least number of insertions, deletions and exchanges that turn one text into the other. Rows
run along the shorter text. -/
def editDistance (text target : Text) : Nat :=
  if text.length < target.length then distanceByRows target text else distanceByRows text target

/-- Whether a known name may have been meant by the given one. -/
def resembles (name candidate : Text) : Bool :=
  lowercase candidate == lowercase name ||
    (candidate.length ≤ name.length + 1 && name.length ≤ candidate.length + 1 &&
      editDistance (lowercase name) (lowercase candidate) ≤ 2)

/-- The first three different candidates that resemble the name. -/
def suggestions (name : Text) (candidates : List Text) : List Text :=
  ((candidates.filter (resembles name)).eraseDups).take 3

end Edits

section Blocks

/-- A block of characters that two texts share, with its places in them. -/
structure Block where
  left : Nat
  right : Nat
  length : Nat
  deriving DecidableEq, Repr

/-- Length of the longest text that two texts start with. -/
def sharedStart : Text → Text → Nat
  | c :: first, d :: second => if c = d then sharedStart first second + 1 else 0
  | _, _ => 0

/-- The longest block at each pair of places in two texts. -/
def sharedBlocks (first second : Text) : List Block :=
  (List.range first.length).flatMap fun left =>
    (List.range second.length).map fun right =>
      ⟨left, right, sharedStart (first.drop left) (second.drop right)⟩

/-- The first of the longest blocks that two texts share. -/
def longestBlock (first second : Text) : Block :=
  (sharedBlocks first second).foldl
    (fun best block => if best.length < block.length then block else best) ⟨0, 0, 0⟩

/-- Number of characters in shared blocks, where blocks are taken out at most `depth` levels
deep. -/
def sharedWithin : Nat → Text → Text → Nat
  | 0, _, _ => 0
  | depth + 1, first, second =>
    let block := longestBlock first second
    if block.length = 0 then 0
    else
      sharedWithin depth (first.take block.left) (second.take block.right) + block.length +
        sharedWithin depth (first.drop (block.left + block.length))
          (second.drop (block.right + block.length))

/-- Number of characters in the blocks that two texts share. -/
def shared (first second : Text) : Nat :=
  sharedWithin first.length first second

/-- Whether two texts are similar enough to be taken for each other. -/
def areClose (first second : Text) : Bool :=
  3 * (first.length + second.length) ≤ 10 * shared first second

/-- Whether the first candidate is at least as similar to a text as the second one; of equally
similar candidates it is the later one in the order of texts. -/
def isCloser (text first second : Text) : Bool :=
  let left := shared first text * (second.length + text.length)
  let right := shared second text * (first.length + text.length)
  right < left || (left == right && !precedes first second)

/-- The three candidates that are the most similar to a text, as far as they are close to it. -/
def closest (text : Text) (candidates : List Text) : List Text :=
  ((candidates.filter (areClose · text)).mergeSort (isCloser text)).take 3

end Blocks

end PseudoAsm.Text
