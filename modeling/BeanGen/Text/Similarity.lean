/-!
# Similar words

Two words are similar if most of their characters stand in common runs: the longest run that both
words contain, and in the same way the runs in front of it and behind it.
-/

namespace BeanGen.Text

/-- How many characters two words share at their beginning. -/
def sharedFront : List Char → List Char → Nat
  | a :: as, b :: bs => if a = b then sharedFront as bs + 1 else 0
  | _, _ => 0

/-- Where the longest common run begins in either word, and its length. Of several runs of one length
it is the first in the first word, and of those the first in the second. -/
def longestRun (a b : List Char) : Nat × Nat × Nat :=
  let runs := (List.range a.length).flatMap fun i =>
    (List.range b.length).map fun j => (i, j, sharedFront (a.drop i) (b.drop j))
  runs.foldl (fun best run => if best.2.2 < run.2.2 then run else best) (0, 0, 0)

/-- How many characters stand in common runs. -/
def sharedCount (a b : List Char) : Nat :=
  let (i, j, length) := longestRun a b
  if _h : i < a.length ∧ 0 < length then
    sharedCount (a.take i) (b.take j) + length +
      sharedCount (a.drop (i + length)) (b.drop (j + length))
  else 0
termination_by a.length
decreasing_by
  · simp
    omega
  · simp
    omega

/-- At least three in five characters stand in common runs. -/
def isSimilar (a b : String) : Bool :=
  3 * (a.length + b.length) ≤ 10 * sharedCount a.toList b.toList

end BeanGen.Text
