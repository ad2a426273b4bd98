/-!
# Similar words

Two words are similar when the characters they have in common, in the same
order, make up enough of both.  The common characters are found by the longest
run that both hold, and again in what stands before and after it.
-/

namespace GridSource.Similarity

/-- The length of the run two texts begin with. -/
def commonStart : List Char → List Char → Nat
  | left :: lefts, right :: rights => if left = right then commonStart lefts rights + 1 else 0
  | _, _ => 0

/-- A run that two texts hold: where it starts in each, and its length. -/
structure CommonRun where
  left : Nat
  right : Nat
  length : Nat
deriving Repr, DecidableEq, Inhabited

/-- The longest common run; of several, the one that starts first in the left
text and then in the right one. -/
def longestRun (left right : List Char) : CommonRun :=
  (List.range left.length).foldl (fun best leftStart =>
    (List.range right.length).foldl (fun best rightStart =>
      let length := commonStart (left.drop leftStart) (right.drop rightStart)
      if best.length < length then ⟨leftStart, rightStart, length⟩ else best) best) ⟨0, 0, 0⟩

/-- The number of common characters; the depth bounds how often runs are
sought again. -/
def commonWithin : Nat → List Char → List Char → Nat
  | 0, _, _ => 0
  | depth + 1, left, right =>
      let run := longestRun left right
      if run.length = 0 then 0
      else
        run.length + commonWithin depth (left.take run.left) (right.take run.right) +
          commonWithin depth (left.drop (run.left + run.length))
            (right.drop (run.right + run.length))

/-- Every run leaves a shorter text on the left. -/
def common (left right : List Char) : Nat := commonWithin left.length left right

/-- The share of two words that is common: a number of characters and the number
it is out of. -/
structure Share where
  part : Nat
  whole : Nat
deriving Repr, DecidableEq, Inhabited

def share (left right : String) : Share :=
  { part := 2 * common left.toList right.toList, whole := left.length + right.length }

/-- Similar words share three fifths. -/
def Share.isEnough (share : Share) : Bool := decide (3 * share.whole ≤ 5 * share.part)

def Share.atLeast (share other : Share) : Bool :=
  decide (other.part * share.whole ≤ share.part * other.whole)

def mostSuggestions : Nat := 3

/-- The candidates most similar to a word, in the order of their names. -/
def suggestions (word : String) (candidates : List String) : List String :=
  let near := (candidates.map fun candidate => (share candidate word, candidate)).filter
    fun scored => scored.1.isEnough
  let ranked := near.mergeSort fun left right =>
    if right.1.atLeast left.1 && left.1.atLeast right.1 then decide (right.2 ≤ left.2)
    else left.1.atLeast right.1
  ((ranked.take mostSuggestions).map Prod.snd).mergeSort fun left right => decide (left ≤ right)

end GridSource.Similarity
