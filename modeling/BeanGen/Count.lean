/-!
# Counts

Passes and readers count what they do part by part. The count of the whole is the total of the parts.
-/

namespace BeanGen

/-- The total of counts. -/
def total (counts : List Nat) : Nat :=
  counts.foldr (· + ·) 0

@[simp] theorem total_nil : total [] = 0 := rfl

@[simp] theorem total_cons (n : Nat) (counts : List Nat) : total (n :: counts) = n + total counts :=
  rfl

@[simp] theorem total_append (a b : List Nat) : total (a ++ b) = total a + total b := by
  induction a with
  | nil => simp
  | cons n counts ih => simp [ih, Nat.add_assoc]

end BeanGen
