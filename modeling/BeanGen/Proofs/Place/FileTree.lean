import BeanGen.Place.FileTree

/-!
# Reading and writing in file trees

What is at a place is found by steps (`get?_append`). Writing fails for a null character in the path and
says so in no other case (`writeAt_eq_nullCharacter_iff`).
-/

namespace BeanGen.FileTree

/-- What is found behind a place is found from there. -/
theorem get?_append (tree : FileTree) (front back : Place) :
    tree.get? (front ++ back) = (tree.get? front).bind (get? · back) := by
  induction front generalizing tree with
  | nil => simp [get?]
  | cons name front ih =>
    rw [List.cons_append, get?, get?]
    cases tree.entries.lookup name with
    | none => rfl
    | some entry => exact ih entry

/-- A directory is at a place if there are entries. -/
theorem isDirAt_iff {tree : FileTree} {place : Place} :
    tree.isDirAt place = true ↔ ∃ entries, tree.get? place = some (.dir entries) := by
  unfold isDirAt
  cases tree.get? place with
  | none => simp
  | some found => cases found <;> simp [isDir]

/-- A file system never complains of a null character. -/
theorem write_ne_nullCharacter (tree : FileTree) (place : Place) (content : ByteArray) :
    tree.write place content ≠ .error .nullCharacter := by
  induction place generalizing tree with
  | nil => cases tree <;> simp [write]
  | cons name place ih =>
    cases tree with
    | file content => simp [write]
    | dir entries =>
      rw [write]
      cases hwrite : ((entries.lookup name).getD
          (if place.isEmpty then .file content else .empty)).write place content with
      | error obstacle =>
        rintro ⟨⟩
        exact ih _ hwrite
      | ok after => rintro ⟨⟩

/-- A null character stands in the way of a file if there is one in its path. -/
theorem writeAt_eq_nullCharacter_iff {tree : FileTree} {workDir : Place} (path : String)
    (content : ByteArray) :
    tree.writeAt workDir path content = .error .nullCharacter ↔ '\x00' ∈ path.toList := by
  have hguard : ∀ {c : Prop} [Decidable c] {obstacle : Obstacle}
      {result : Except Obstacle FileTree}, obstacle ≠ .nullCharacter →
      result ≠ .error .nullCharacter → (if c then .error obstacle else result) ≠ .error .nullCharacter := by
    intro c _ obstacle result hobstacle hresult
    split
    · exact fun heq => hobstacle (Except.error.inj heq)
    · exact hresult
  unfold writeAt
  cases hnull : path.toList.contains '\x00' with
  | true => exact iff_of_true rfl (by simpa using hnull)
  | false =>
    have hrest := write_ne_nullCharacter tree (Place.resolve workDir path) content
    refine iff_of_false ?_ (by simpa using hnull)
    rw [if_neg Bool.false_ne_true]
    exact hguard nofun (hguard nofun (hguard nofun hrest))

end BeanGen.FileTree
