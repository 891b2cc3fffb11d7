import Mathlib.Data.List.Chain
import Mathlib.Data.List.Nodup
import CodeMetrics.Path

/-!
The names that lead to a path. Dropping the last component of a path removes the last of these names
and cuts the text short, so that the directories around a path are told apart by how many names lead
to them.
-/

namespace CodeMetrics.Path

theorem splitSlashes_ne_nil (chars : List Char) : splitSlashes chars ≠ [] := by
  fun_cases splitSlashes chars <;> simp

theorem splitSlashes_append (front back : List Char) :
    splitSlashes (front ++ '/' :: back) = splitSlashes front ++ splitSlashes back := by
  fun_induction splitSlashes front with
  | case1 => rfl
  | case2 rest ih =>
      rw [List.cons_append, splitSlashes, ih]
      rfl
  | case3 char rest notSlash empty ih => exact absurd empty (splitSlashes_ne_nil rest)
  | case4 char rest notSlash part parts split ih =>
      rw [split] at ih
      rw [List.cons_append, splitSlashes, ih]
      · rfl
      · exact notSlash

theorem splitSlashes_word {word : List Char} (noSlash : '/' ∉ word) : splitSlashes word = [word] := by
  fun_induction splitSlashes word with
  | case1 => rfl
  | case2 rest ih => exact absurd List.mem_cons_self noSlash
  | case3 char rest notSlash empty ih => exact absurd empty (splitSlashes_ne_nil rest)
  | case4 char rest notSlash part parts split ih =>
      rw [split] at ih
      have whole := ih fun slash => noSlash (List.mem_cons_of_mem char slash)
      rw [List.cons.inj whole |>.1, List.cons.inj whole |>.2]

/-- Empty components and dots name nothing. -/
def names (chars : List Char) : List (List Char) :=
  (splitSlashes chars).filter fun part => part ≠ [] ∧ part ≠ ['.']

/-- What a path begins with: the root, or the dot that does name something. -/
def lead (chars : List Char) : List (List Char) :=
  if chars.head? = some '/' then [['/']]
  else if (splitSlashes chars).head? = some ['.'] then [['.']]
  else []

/-- The names that lead to a path, one after the other. -/
def steps (chars : List Char) : List (List Char) := lead chars ++ names chars

theorem names_append (front back : List Char) :
    names (front ++ '/' :: back) = names front ++ names back := by
  rw [names, splitSlashes_append, List.filter_append]
  rfl

theorem names_word {word : List Char} (noSlash : '/' ∉ word) (named : word ≠ [])
    (noDot : word ≠ ['.']) : names word = [word] := by
  simp [names, splitSlashes_word noSlash, named, noDot]

theorem lead_append {front : List Char} (here : front ≠ []) (back : List Char) :
    lead (front ++ '/' :: back) = lead front := by
  have first : (splitSlashes front ++ splitSlashes back).head? = (splitSlashes front).head? :=
    List.head?_append_of_ne_nil _ (splitSlashes_ne_nil front)
  rw [lead, splitSlashes_append, first, List.head?_append_of_ne_nil _ here]
  rfl

/-- Where a slash stands at the very beginning. -/
theorem lead_slash (chars : List Char) : lead ('/' :: chars) = [['/']] := rfl

theorem settle_suffix (chars : List Char) : settle chars <:+ chars := by
  fun_induction settle chars with
  | case1 rest ih => exact ih.trans (List.suffix_cons '/' rest)
  | case2 rest ih => exact ih.trans ((List.suffix_cons '/' rest).trans (List.suffix_cons '.' _))
  | case3 path => exact List.suffix_refl path

/-- What stands at the end of a settled path is a name. -/
theorem settle_head (chars : List Char) :
    (settle chars).head? ≠ some '/' ∧ ∀ rest, settle chars ≠ '.' :: '/' :: rest := by
  fun_induction settle chars with
  | case1 rest ih => exact ih
  | case2 rest ih => exact ih
  | case3 path noSlash noDot =>
      refine ⟨fun slash => ?_, noDot⟩
      obtain ⟨rest, rfl⟩ := List.head?_eq_some_iff.mp slash
      exact noSlash rest rfl

/-- What is passed over at the end of a path are slashes with nothing behind them that names
anything. -/
theorem settle_induction {P : List Char → List Char → Prop} (stay : ∀ chars, P chars.reverse chars)
    (skip : ∀ rest back, names back = [] → P rest.reverse (settle rest) →
      P (rest.reverse ++ '/' :: back) (settle rest))
    (chars : List Char) : P chars.reverse (settle chars) := by
  fun_induction settle chars with
  | case1 rest ih =>
      rw [List.reverse_cons]
      exact skip rest [] rfl ih
  | case2 rest ih =>
      have reversed : ('.' :: '/' :: rest).reverse = rest.reverse ++ '/' :: ['.'] := by simp
      rw [reversed]
      exact skip rest ['.'] rfl ih
  | case3 path => exact stay path

theorem names_settle (chars : List Char) : names (settle chars).reverse = names chars.reverse := by
  refine settle_induction (P := fun text left => names left.reverse = names text)
    (fun _ => rfl) (fun rest back nameless ih => ?_) chars
  rw [ih, names_append, nameless, List.append_nil]

theorem reverse_ne_nil_of_settle {chars : List Char} (left : settle chars ≠ []) :
    chars.reverse ≠ [] := by
  intro empty
  rw [List.reverse_eq_nil_iff.mp empty] at left
  exact left rfl

theorem lead_settle {chars : List Char} (left : settle chars ≠ []) :
    lead (settle chars).reverse = lead chars.reverse := by
  refine settle_induction (P := fun text left => left ≠ [] → lead left.reverse = lead text)
    (fun _ _ => rfl) (fun rest back _ ih left => ?_) chars left
  rw [ih left, lead_append (reverse_ne_nil_of_settle left)]

/-- Slashes and dots alone are the root. -/
theorem root_of_settle {chars : List Char} (nothing : settle chars = []) :
    chars.reverse = [] ∨ chars.reverse.head? = some '/' := by
  refine settle_induction (P := fun text left => left = [] → text = [] ∨ text.head? = some '/')
    (fun chars empty => .inl (List.reverse_eq_nil_iff.mpr empty))
    (fun rest back _ ih nothing => .inr ?_) chars nothing
  obtain empty | root := ih nothing
  · rw [empty]
    rfl
  · rw [List.head?_append, root, Option.some_or]

theorem steps_settle {chars : List Char} (left : settle chars ≠ []) :
    steps (settle chars).reverse = steps chars.reverse := by
  rw [steps, lead_settle left, names_settle, steps]

theorem steps_of_root {chars : List Char} (nothing : settle chars = [])
    (root : chars.reverse.head? = some '/') : steps chars.reverse = [['/']] := by
  have nameless : names chars.reverse = [] := by rw [← names_settle, nothing]; rfl
  rw [steps, nameless, lead, if_pos root]
  rfl

theorem steps_word {word : List Char} (noSlash : '/' ∉ word) (named : word ≠ []) :
    steps word = [word] := by
  have relative : word.head? ≠ some '/' := fun slash => noSlash (List.mem_of_head? slash)
  by_cases dot : word = ['.']
  · subst dot
    rfl
  · rw [steps, names_word noSlash named dot, lead, if_neg relative, splitSlashes_word noSlash]
    simp [dot]

theorem steps_append {front word : List Char} (here : front ≠ []) (noSlash : '/' ∉ word)
    (named : word ≠ []) (noDot : word ≠ ['.']) :
    steps (front ++ '/' :: word) = steps front ++ [word] := by
  rw [steps, lead_append here, names_append, names_word noSlash named noDot, steps,
    List.append_assoc]

/-- A slash at the end names nothing. -/
theorem steps_slash {front : List Char} (here : front ≠ []) :
    steps (front ++ ['/']) = steps front := by
  rw [steps, lead_append here, names_append, steps]
  exact congrArg (lead front ++ ·) (List.append_nil _)

theorem steps_below_root {word : List Char} (noSlash : '/' ∉ word) (named : word ≠ [])
    (noDot : word ≠ ['.']) : steps ('/' :: word) = [['/'], word] := by
  have below := names_append [] word
  rw [List.nil_append, names_word noSlash named noDot] at below
  rw [steps, lead_slash, below]
  rfl

/-- The directory `above` has all names on the way to `path` but the last, and is a first part of
its text. -/
structure Encloses (above path : String) : Prop where
  cut : above.toList <+: path.toList
  last : ∃ name, '/' ∉ name ∧ steps path.toList = steps above.toList ++ [name]

/-- The last name of a settled path, and what stands before it. -/
theorem settle_split {chars : List Char} (left : settle chars ≠ []) :
    ∃ word, '/' ∉ word ∧ word ≠ [] ∧
      ((settle chars).reverse = word ∧ (settle chars).dropWhile (· != '/') = [] ∨
        word ≠ ['.'] ∧ ∃ up, (settle chars).reverse = up.reverse ++ '/' :: word ∧
          (settle chars).dropWhile (· != '/') = '/' :: up) := by
  have parts := List.takeWhile_append_dropWhile (p := (· != '/')) (l := settle chars)
  have noSlash : '/' ∉ (settle chars).takeWhile (· != '/') := fun slash => by
    simpa using List.all_eq_true.mp List.all_takeWhile _ slash
  cases after : (settle chars).dropWhile (· != '/') with
  | nil =>
      rw [after, List.append_nil] at parts
      refine ⟨(settle chars).reverse, ?_, by simpa using left, .inl ⟨rfl, rfl⟩⟩
      rw [← parts]
      simpa using noSlash
  | cons slash up =>
      have isSlash : slash = '/' := by
        have first := List.head?_dropWhile_not (· != '/') (settle chars)
        rw [after] at first
        simpa using first
      subst isSlash
      rw [after] at parts
      obtain ⟨notSlash, notDot⟩ := settle_head chars
      refine ⟨((settle chars).takeWhile (· != '/')).reverse, by simpa using noSlash, ?_,
        .inr ⟨?_, up, ?_, rfl⟩⟩
      · intro empty
        rw [List.reverse_eq_nil_iff.mp empty, List.nil_append] at parts
        exact notSlash (by rw [← parts]; rfl)
      · intro dot
        rw [List.reverse_eq_iff.mp dot] at parts
        exact notDot up parts.symm
      · conv_lhs => rw [← parts]
        simp

theorem parent?_eq_some {path above : String} (found : parent? path = some above) :
    settle path.toList.reverse ≠ [] ∧
      if settle ((settle path.toList.reverse).dropWhile (· != '/')) = [] ∧
          path.toList.head? = some '/' then above = "/"
      else above.toList = (settle ((settle path.toList.reverse).dropWhile (· != '/'))).reverse := by
  rw [parent?] at found
  split at found
  · cases found
  · rename_i left
    refine ⟨by simpa using left, ?_⟩
    dsimp only at found
    split at found <;> rename_i root <;> obtain rfl := Option.some.inj found
    · rw [if_pos (by simpa using root)]
    · rw [if_neg (by simpa using root), String.toList_ofList]

theorem settle_front (chars : List Char) : (settle chars.reverse).reverse <+: chars := by
  simpa using List.reverse_prefix.mpr (settle_suffix chars.reverse)

theorem prefix_of_parent? {path above : String} (found : parent? path = some above) :
    above.toList <+: path.toList := by
  have above_eq := (parent?_eq_some found).2
  split at above_eq
  · rename_i root
    obtain ⟨rest, text⟩ := List.head?_eq_some_iff.mp root.2
    rw [above_eq, text]
    exact List.prefix_append ['/'] rest
  · have inside := (settle_suffix _).trans
      (List.dropWhile_suffix (l := settle path.toList.reverse) (· != '/'))
    rw [above_eq]
    exact (List.reverse_prefix.mpr inside).trans (settle_front path.toList)

/-- A name with nothing but slashes and dots before it stands in the root. -/
theorem steps_in_root {up word : List Char} (top : settle up = []) (noSlash : '/' ∉ word)
    (named : word ≠ []) (noDot : word ≠ ['.']) :
    (up.reverse ++ '/' :: word).head? = some '/' ∧
      steps (up.reverse ++ '/' :: word) = [['/'], word] := by
  obtain empty | root := root_of_settle top
  · rw [empty]
    exact ⟨rfl, steps_below_root noSlash named noDot⟩
  · have here : up.reverse ≠ [] := by
      rintro empty
      rw [empty] at root
      cases root
    rw [List.head?_append_of_ne_nil _ here, steps_append here noSlash named noDot,
      steps_of_root top root]
    exact ⟨root, rfl⟩

theorem encloses_of_parent? {path above : String} (found : parent? path = some above) :
    Encloses above path := by
  refine ⟨prefix_of_parent? found, ?_⟩
  obtain ⟨left, above_eq⟩ := parent?_eq_some found
  have whole : steps (settle path.toList.reverse).reverse = steps path.toList := by
    rw [steps_settle left, List.reverse_reverse]
  have first : (settle path.toList.reverse).reverse.head? = path.toList.head? := by
    obtain ⟨rest, text⟩ := settle_front path.toList
    exact (List.head?_append_of_ne_nil _ (by simpa using left)).symm.trans
      (congrArg List.head? text)
  obtain ⟨word, noSlash, named, ⟨alone, nothing⟩ | ⟨noDot, up, text, after⟩⟩ := settle_split left
  · -- A single name: the path is relative, and the empty path encloses it.
    have relative : path.toList.head? ≠ some '/' := fun slash =>
      noSlash (List.mem_of_head? (by rw [← alone, first, slash]))
    rw [nothing, if_neg fun both => relative both.2] at above_eq
    refine ⟨word, noSlash, ?_⟩
    rw [← whole, alone, above_eq, steps_word noSlash named]
    rfl
  · -- What stands before the name is settled in turn, and only the root is left of the root.
    refine ⟨word, noSlash, ?_⟩
    rw [text] at whole first
    have above_up : settle ('/' :: up) = settle up := rfl
    rw [after, above_up] at above_eq
    rw [← whole]
    by_cases top : settle up = []
    · obtain ⟨absolute, below⟩ := steps_in_root top noSlash named noDot
      rw [if_pos ⟨top, first.symm.trans absolute⟩] at above_eq
      rw [below, above_eq]
      rfl
    · rw [if_neg fun both => top both.1] at above_eq
      rw [steps_append (reverse_ne_nil_of_settle top) noSlash named noDot, above_eq,
        steps_settle top]

/-- The empty path and the root. -/
def IsTop (path : String) : Prop := path = "" ∨ steps path.toList = [['/']]

theorem top_of_parent? {path : String} (alone : parent? path = none) : IsTop path := by
  have nothing : settle path.toList.reverse = [] := by
    rw [parent?] at alone
    split at alone
    · simpa using ‹(settle path.toList.reverse).isEmpty›
    · dsimp only at alone
      split at alone <;> cases alone
  obtain empty | root := root_of_settle nothing
  · rw [List.reverse_reverse] at empty
    exact .inl (String.toList_eq_nil_iff.mp empty)
  · have whole := steps_of_root nothing root
    rw [List.reverse_reverse] at whole
    exact .inr whole

theorem ancestors_climb (limit : Nat) (path : String) :
    (ancestors limit path).IsChain fun directory above => Encloses above directory := by
  induction limit generalizing path with
  | zero => exact .nil
  | succ limit ih =>
      rw [ancestors]
      cases found : parent? path with
      | none => exact .singleton path
      | some above =>
          refine List.isChain_cons.mpr ⟨fun next first => ?_, ih above⟩
          cases limit with
          | zero => cases first
          | succ limit =>
              cases first
              exact encloses_of_parent? found

theorem ancestors_length_le (limit : Nat) (path : String) :
    (ancestors limit path).length ≤ limit := by
  induction limit generalizing path with
  | zero => exact Nat.le_refl 0
  | succ limit ih =>
      rw [ancestors]
      cases parent? path with
      | none => exact Nat.succ_le_succ (Nat.zero_le limit)
      | some above => exact Nat.succ_le_succ (ih above)

theorem ancestors_stop (limit : Nat) (path : String) :
    (ancestors limit path).length = limit ∨
      ∃ last, (ancestors limit path).getLast? = some last ∧ IsTop last := by
  induction limit generalizing path with
  | zero => exact .inl rfl
  | succ limit ih =>
      rw [ancestors]
      cases found : parent? path with
      | none => exact .inr ⟨path, rfl, top_of_parent? found⟩
      | some above =>
          obtain full | ⟨last, ends, top⟩ := ih above
          · exact .inl (congrArg Nat.succ full)
          · refine .inr ⟨last, ?_, top⟩
            rw [List.getLast?_cons, ends]
            rfl

/-- Fewer names lead to each directory than to the one before it. -/
theorem nodup_of_climb {directories : List String}
    (climb : directories.IsChain fun directory above => Encloses above directory) :
    directories.Nodup := by
  have fewer : (directories.map fun directory => (steps directory.toList).length).IsChain
      (· > ·) := by
    refine (List.isChain_map _).mpr (climb.imp fun directory above encloses => ?_)
    obtain ⟨name, -, last⟩ := encloses.last
    simp [last]
  exact List.Nodup.of_map _ (fewer.pairwise.imp fun less => Nat.ne_of_gt less)

/-- At most `limit` directories from `start` upwards, none of them twice. Each has the names of the
one before it but the last; where there are fewer than `limit`, none lies above the last. -/
structure Ascends (limit : Nat) (start : String) (directories : List String) : Prop where
  starts : directories.head? = some start
  climbs : directories.IsChain fun directory above => Encloses above directory
  distinct : directories.Nodup
  few : directories.length ≤ limit
  stops : directories.length = limit ∨ ∃ last, directories.getLast? = some last ∧ IsTop last

theorem ancestors_ascend (limit : Nat) (start : String) :
    Ascends (limit + 1) start (ancestors (limit + 1) start) where
  starts := rfl
  climbs := ancestors_climb _ start
  distinct := nodup_of_climb (ancestors_climb _ start)
  few := ancestors_length_le _ start
  stops := ancestors_stop _ start

example : ancestors 10 "/a/./b//c" = ["/a/./b//c", "/a/./b", "/a", "/"] := by decide +kernel

theorem steps_join (directory : String) {name : String} (noSlash : '/' ∉ name.toList)
    (named : name.toList ≠ []) (noDot : name.toList ≠ ['.']) :
    steps (join directory name).toList = steps directory.toList ++ [name.toList] := by
  have relative : isAbsolute name = false := by
    refine beq_false_of_ne fun slash => noSlash (List.mem_of_head? slash)
  rw [join, relative, Bool.false_or]
  split
  · rename_i empty
    rw [String.isEmpty_iff.mp empty, steps_word noSlash named]
    rfl
  · rename_i here
    have here : directory.toList ≠ [] := by simpa using here
    split
    · rename_i ends
      obtain ⟨front, text⟩ := List.getLast?_eq_some_iff.mp (beq_iff_eq.mp ends)
      rw [String.toList_append, text, List.append_assoc, List.cons_append, List.nil_append]
      by_cases root : front = []
      · subst root
        exact steps_below_root noSlash named noDot
      · rw [steps_append root noSlash named noDot, steps_slash root]
    · rw [String.toList_append, String.toList_append, List.append_assoc]
      exact steps_append here noSlash named noDot

end CodeMetrics.Path
