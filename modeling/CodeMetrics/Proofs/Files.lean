import CodeMetrics.FileTree

/-!
Files written and read back. Writing replaces a file or makes a new one, so that the way to it, which
leads through directories only, is the same before and after.
-/

namespace CodeMetrics.FileTree

theorem node?_put {place other : List String} (named : place ≠ []) (tree : FileTree)
    (node : FileNode) :
    (tree.put place node).node? other = if other = place then some node else tree.node? other := by
  rw [node?, node?, put, List.find?_cons]
  by_cases same : other = place
  · subst same
    simp [named]
  · by_cases root : other = []
    · simp [root, Ne.symm named]
    · have differ : (place == other) = false := beq_false_of_ne (Ne.symm same)
      simp [same, root, differ]

theorem follow_append {tree : FileTree} {place reached : List String} {first : List String}
    (followed : tree.follow place first = .ok reached) (second : List String) :
    tree.follow place (first ++ second) = tree.follow reached second := by
  induction first generalizing place with
  | nil =>
      cases followed
      rfl
  | cons name rest ih =>
      rw [List.cons_append, follow]
      rw [follow] at followed
      split at followed
      · cases followed
      · cases followed
      · split at followed
        · rw [if_pos ‹_›]
          exact ih followed
        · rw [if_neg ‹_›]
          split at followed
          · rw [if_pos ‹_›]
            exact ih followed
          · rw [if_neg ‹_›]
            split at followed
            · rw [if_pos ‹_›]
              exact ih followed
            · cases followed

/-- What is put where no directory stood closes no way. -/
theorem follow_put {tree : FileTree} {target : List String} (named : target ≠ [])
    (free : tree.node? target ≠ some .directory) (node : FileNode) {place reached : List String}
    {names : List String} (followed : tree.follow place names = .ok reached) :
    (tree.put target node).follow place names = .ok reached := by
  induction names generalizing place with
  | nil => exact followed
  | cons name rest ih =>
      rw [follow] at followed ⊢
      split at followed
      · cases followed
      · cases followed
      · rename_i here
        have apart : place ≠ target := by
          rintro rfl
          exact free here
        rw [node?_put named, if_neg apart, here]
        dsimp only
        split at followed
        · rename_i silent
          rw [if_pos silent]
          exact ih followed
        · rename_i loud
          rw [if_neg loud]
          split at followed
          · rename_i up
            rw [if_pos up]
            exact ih followed
          · rename_i down
            rw [if_neg down]
            split at followed
            · rename_i present
              have still : ((tree.put target node).node? (place ++ [name])).isSome = true := by
                rw [node?_put named]
                split
                · rfl
                · exact present
              rw [if_pos still]
              exact ih followed
            · cases followed

/-- Where a file has been written: under a plain name in a directory, where no directory stood. -/
theorem write_eq_ok {tree grown : FileTree} {path : String} {content : ByteArray}
    (written : tree.write path content = .ok grown) :
    path.isEmpty = false ∧ path.utf8ByteSize ≤ pathLimit ∧
    ∃ front name directory, Path.components path = front ++ [name] ∧
      tree.follow (tree.origin path) front = .ok directory ∧
      tree.node? directory = some .directory ∧ ¬(name = "" ∨ name = "." ∨ name = "..") ∧
      tree.node? (directory ++ [name]) ≠ some .directory ∧
      grown = tree.put (directory ++ [name]) (.file content) := by
  simp only [write, bind, Except.bind, throw, throwThe, MonadExceptOf.throw, pure, Except.pure]
    at written
  split at written
  · cases written
  rename_i present
  split at written
  · cases written
  rename_i short
  split at written
  · cases written
  rename_i directory followed
  split at written
  · rename_i here
    split at written
    · cases written
    rename_i plain
    split at written
    · cases written
    rename_i free
    cases written
    have listed : Path.components path ≠ [] := by
      intro none
      rw [none] at plain
      exact plain (.inl rfl)
    have split := List.dropLast_concat_getLast listed
    rw [List.getLast?_eq_some_getLast listed, Option.getD_some] at plain free ⊢
    exact ⟨Bool.eq_false_iff.mpr present, Nat.le_of_not_lt short, _, _, directory, split.symm,
      followed, here, plain, free, rfl⟩
  · cases written
  · cases written

theorem read_of_write {tree grown : FileTree} {path : String} {content : ByteArray}
    (written : tree.write path content = .ok grown) : grown.read path = .ok content := by
  obtain ⟨present, short, front, name, directory, listed, followed, here, plain, free, rfl⟩ :=
    write_eq_ok written
  obtain ⟨loud, quiet, down⟩ : name ≠ "" ∧ name ≠ "." ∧ name ≠ ".." := by
    simpa only [not_or] using plain
  have named : directory ++ [name] ≠ [] := List.concat_ne_nil name directory
  have apart : directory ≠ directory ++ [name] := by simp
  have found : (tree.put (directory ++ [name]) (.file content)).node? (directory ++ [name]) =
      some (.file content) := by
    rw [node?_put named, if_pos rfl]
  have still : (tree.put (directory ++ [name]) (.file content)).node? directory =
      some .directory := by
    rw [node?_put named, if_neg apart, here]
  -- The way to the directory is the old one, and one more name leads to the file.
  have reached : (tree.put (directory ++ [name]) (.file content)).follow (tree.origin path)
      (front ++ [name]) = .ok (directory ++ [name]) := by
    rw [follow_append (follow_put named free _ followed), follow, still]
    dsimp only
    rw [if_neg (not_or.mpr ⟨loud, quiet⟩), if_neg down, found]
    rfl
  have same : (tree.put (directory ++ [name]) (.file content)).origin path = tree.origin path := rfl
  simp only [read, bind, Except.bind, throw, throwThe, MonadExceptOf.throw, pure, Except.pure]
  rw [if_neg (by simp [present]), if_neg (Nat.not_lt.mpr short), same, listed, reached]
  dsimp only
  rw [found]

end CodeMetrics.FileTree
