import CodeMetrics.Proofs.Specifiers

/-!
Comments. A comment may stand between any two parts of a program, as a leaf that no field of the
node above names. A tree without some of its comments names the same modules in the same order,
unless one of them stood before the first argument of a call, which it hid.
-/

namespace CodeMetrics.JavaScript

def isComment (tree : Tree) : Bool :=
  tree.kind == "comment" && tree.label.named && tree.children.isEmpty && tree.label.fields.isEmpty

/-- A comment that is left out, where the addresses of those that are to be are chosen. -/
def isLeftOut (chosen : List Nat → Bool) (entry : Tree × Nat) : Bool :=
  isComment entry.1 && chosen [entry.2]

/-- A choice of addresses, seen from a child. -/
def inside (chosen : List Nat → Bool) (index : Nat) : List Nat → Bool :=
  fun address => chosen (index :: address)

mutual
/-- A tree without those of its comments that stand at chosen addresses. -/
def uncommented (chosen : List Nat → Bool) : Tree → Tree
  | .node label children => .node label (uncommentedFrom chosen 0 children)

def uncommentedFrom (chosen : List Nat → Bool) (index : Nat) : List Tree → List Tree
  | [] => []
  | child :: rest =>
    if isLeftOut chosen (child, index) then uncommentedFrom chosen (index + 1) rest
    else uncommented (inside chosen index) child :: uncommentedFrom chosen (index + 1) rest
end

theorem label_uncommented (chosen : List Nat → Bool) (tree : Tree) :
    (uncommented chosen tree).label = tree.label := by
  cases tree with
  | node label children => rfl

/-- The first child that is asked for by its label is found among those that are not left out. -/
theorem find?_uncommented (holds : Label → Bool) (chosen : List Nat → Bool) (tree : Tree) :
    (uncommented chosen tree).children.find? (fun child => holds child.label) =
      (tree.children.zipIdx.find? fun entry => !isLeftOut chosen entry && holds entry.1.label).map
        fun entry => uncommented (inside chosen entry.2) entry.1 := by
  rcases tree with ⟨label, children⟩
  suffices each : ∀ index, (uncommentedFrom chosen index children).find?
      (fun child => holds child.label) = ((children.zipIdx index).find? fun entry =>
        !isLeftOut chosen entry && holds entry.1.label).map
          fun entry => uncommented (inside chosen entry.2) entry.1 from each 0
  induction children with
  | nil => exact fun _ => rfl
  | cons child rest ih =>
      intro index
      rw [uncommentedFrom, List.zipIdx_cons]
      by_cases out : isLeftOut chosen (child, index) = true
      · rw [if_pos out, List.find?_cons_of_neg (by simp [out]), ih]
      · rw [if_neg out, List.find?_cons, List.find?_cons, Bool.eq_false_iff.mpr out,
          label_uncommented, ih]
        cases holds child.label <;> rfl

theorem find?_zipIdx {β : Type} (holds : β → Bool) (items : List β) :
    items.find? holds = (items.zipIdx.find? fun entry => holds entry.1).map Prod.fst := by
  conv_lhs => rw [← List.zipIdx_map_fst 0 items, List.find?_map]
  rfl

/-- Comments fill no field, so the child that fills one stays. -/
theorem field?_uncommented (chosen : List Nat → Bool) (tree : Tree) (name : String) :
    (uncommented chosen tree).field? name =
      (tree.children.zipIdx.find? fun entry => entry.1.fills name).map
        fun entry => uncommented (inside chosen entry.2) entry.1 := by
  have filled : (fun entry : Tree × Nat => !isLeftOut chosen entry && entry.1.fills name) =
      fun entry => entry.1.fills name := by
    funext entry
    cases fields : entry.1.label.fields <;> simp [isLeftOut, isComment, Tree.fills, fields]
  rw [← filled]
  exact find?_uncommented (fun label => label.fields.contains name) chosen tree

theorem label_field?_uncommented (chosen : List Nat → Bool) (tree : Tree) (name : String) :
    ((uncommented chosen tree).field? name).map Tree.label = (tree.field? name).map Tree.label := by
  have placed := find?_zipIdx (Tree.fills name) tree.children
  rw [field?_uncommented, Tree.field?, placed, Option.map_map, Option.map_map]
  congr 1
  funext entry
  exact label_uncommented _ entry.1

/-! What a node names depends on the labels of its parts, and on no children but those of its list
of arguments. -/

theorem bind_of_label {β : Type} {left right : Option Tree} {find? : Tree → Option β}
    (same : left.map Tree.label = right.map Tree.label)
    (byLabel : ∀ {one other : Tree}, one.label = other.label → find? one = find? other) :
    left.bind find? = right.bind find? := by
  cases left with
  | none =>
      cases right with
      | none => rfl
      | some other => cases same
  | some one =>
      cases right with
      | none => cases same
      | some other => exact byLabel (Option.some.inj same)

theorem stringContent?_label {source : String} {one other : Tree} (same : one.label = other.label) :
    stringContent? source one = stringContent? source other := by
  unfold stringContent? Tree.kind Tree.text?
  rw [same]

theorem callKind?_uncommented (source : String) (chosen : List Nat → Bool) (tree : Tree) :
    callKind? source (uncommented chosen tree) = callKind? source tree := by
  apply bind_of_label (label_field?_uncommented chosen tree "function")
  intro one other same
  unfold Tree.kind Tree.text?
  rw [same]

/-- The first argument of a call that is not left out. -/
def argumentBeyond? (chosen : List Nat → Bool) (call : Tree) : Option Tree :=
  (call.children.zipIdx.find? fun entry => entry.1.fills "arguments").bind fun list =>
    (list.1.children.zipIdx.find? fun entry =>
      !isLeftOut (inside chosen list.2) entry && entry.1.label.named).map Prod.fst

theorem firstArgument?_uncommented (source : String) (chosen : List Nat → Bool) (call : Tree) :
    (firstArgument? (uncommented chosen call)).bind (stringContent? source) =
      (argumentBeyond? chosen call).bind (stringContent? source) := by
  refine bind_of_label ?_ stringContent?_label
  rw [firstArgument?, field?_uncommented, argumentBeyond?]
  cases call.children.zipIdx.find? fun entry => entry.1.fills "arguments" with
  | none => rfl
  | some list =>
      simp only [Option.map_some, Option.bind_some]
      rw [find?_uncommented Label.named, Option.map_map, Option.map_map]
      congr 1
      funext entry
      exact label_uncommented _ entry.1

/-- The first item of all is the first that is not left out, or it is left out. -/
theorem find?_or_out {β : Type} (out holds : β → Bool) (items : List β) :
    items.find? holds = items.find? (fun item => !out item && holds item) ∨
      (items.find? holds).any out = true := by
  induction items with
  | nil => exact .inl rfl
  | cons item rest ih =>
      cases held : holds item with
      | true =>
          cases left : out item with
          | true => exact .inr (by simp [held, left])
          | false => exact .inl (by simp [held, left])
      | false => simpa [held] using ih

theorem firstArgument?_eq (chosen : List Nat → Bool) (call : Tree) :
    firstArgument? call = argumentBeyond? chosen call ∨
      (firstArgument? call).any isComment = true := by
  have placed := find?_zipIdx (Tree.fills "arguments") call.children
  rw [firstArgument?, Tree.field?, placed, argumentBeyond?]
  cases call.children.zipIdx.find? fun entry => entry.1.fills "arguments" with
  | none => exact .inl rfl
  | some list =>
      simp only [Option.map_some, Option.bind_some]
      rw [find?_zipIdx]
      rcases find?_or_out (isLeftOut (inside chosen list.2)) (fun entry => entry.1.label.named)
        list.1.children.zipIdx with same | out
      · exact .inl (congrArg _ same)
      · obtain ⟨entry, first, leftOut⟩ := (Option.any_eq_true _ _).mp out
        rw [first]
        exact .inr (Bool.and_eq_true_iff.mp leftOut).1

/-! A list of what is found among some items grows where more is found of each. -/

theorem sublist_filterMap {β γ : Type} {less more : β → Option γ} {items : List β}
    (grows : ∀ item ∈ items, ∀ found, less item = some found → more item = some found) :
    (items.filterMap less).Sublist (items.filterMap more) := by
  induction items with
  | nil => exact .slnil
  | cons item rest ih =>
      have later := ih fun other member => grows other (List.mem_cons_of_mem item member)
      cases few : less item with
      | none =>
          rw [List.filterMap_cons_none few]
          cases many : more item with
          | none => rwa [List.filterMap_cons_none many]
          | some found =>
              rw [List.filterMap_cons_some many]
              exact later.cons found
      | some found =>
          have kept := grows item List.mem_cons_self found few
          rw [List.filterMap_cons_some few, List.filterMap_cons_some kept]
          exact later.cons_cons found

theorem filterMap_eq_iff {β γ : Type} {less more : β → Option γ} {items : List β}
    (grows : ∀ item ∈ items, ∀ found, less item = some found → more item = some found) :
    items.filterMap more = items.filterMap less ↔ ∀ item ∈ items, more item = less item := by
  constructor
  · intro same
    induction items with
    | nil => exact fun item member => absurd member List.not_mem_nil
    | cons first rest ih =>
        have restGrows := fun other member => grows other (List.mem_cons_of_mem first member)
        cases few : less first with
        | none =>
            rw [List.filterMap_cons_none few] at same
            cases many : more first with
            | none =>
                rw [List.filterMap_cons_none many] at same
                exact List.forall_mem_cons.mpr ⟨many.trans few.symm, ih restGrows same⟩
            | some found =>
                rw [List.filterMap_cons_some many] at same
                have longer := (sublist_filterMap restGrows).length_le
                have lengths := congrArg List.length same
                rw [List.length_cons] at lengths
                omega
        | some found =>
            have kept := grows first List.mem_cons_self found few
            rw [List.filterMap_cons_some few, List.filterMap_cons_some kept] at same
            exact List.forall_mem_cons.mpr
              ⟨kept.trans few.symm, ih restGrows (List.tail_eq_of_cons_eq same)⟩
  · exact List.filterMap_congr

/-! What one node names with the comments left out and with them. -/

/-- A call that names a module behind a comment: its first argument is a comment, and the first that
is not left out is a literal. -/
def hides (source : String) (chosen : List Nat → Bool) (tree : Tree) : Bool :=
  tree.kind == "call_expression" && (callKind? source tree).isSome &&
    (firstArgument? tree).any isComment &&
    ((argumentBeyond? chosen tree).bind (stringContent? source)).isSome

theorem dependency?_call {source : String} {call : Tree} (kind : call.kind = "call_expression") :
    dependency? source call = (callKind? source call).bind fun kind =>
      ((firstArgument? call).bind (stringContent? source)).map fun path =>
        ⟨path, kind, call.line.toUInt64⟩ := by
  unfold dependency?
  simp only [kind]
  cases callKind? source call with
  | none => rfl
  | some kind =>
      cases firstArgument? call with
      | none => rfl
      | some argument => cases content : stringContent? source argument <;> simp [content]

theorem dependency?_statement {source : String} {tree : Tree} (chosen : List Nat → Bool)
    (other : tree.kind ≠ "call_expression") :
    dependency? source (uncommented chosen tree) = dependency? source tree := by
  have literal := bind_of_label (label_field?_uncommented chosen tree "source")
    (@stringContent?_label source)
  unfold dependency? Tree.line Tree.kind
  rw [label_uncommented, literal]
  split
  case h_3 call => exact absurd call other
  all_goals rfl

theorem kind_comment {comment : Tree} (isOne : isComment comment = true) :
    comment.kind = "comment" := by
  simp only [isComment, Bool.and_eq_true, beq_iff_eq] at isOne
  exact isOne.1.1.1

theorem children_comment {comment : Tree} (isOne : isComment comment = true) :
    comment.children = [] := by
  simp only [isComment, Bool.and_eq_true, List.isEmpty_iff] at isOne
  exact isOne.1.2

theorem stringContent?_comment {source : String} {comment : Tree}
    (isOne : isComment comment = true) : stringContent? source comment = none := by
  simp [stringContent?, kind_comment isOne]

theorem dependency?_comment {source : String} {comment : Tree} (isOne : isComment comment = true) :
    dependency? source comment = none := by
  simp [dependency?, kind_comment isOne]

/-- A call whose first argument is a comment names nothing; without the comment it may. -/
theorem dependency?_behind {source : String} {call : Tree} (kind : call.kind = "call_expression")
    (behind : (firstArgument? call).any isComment = true) : dependency? source call = none := by
  obtain ⟨comment, first, isOne⟩ := (Option.any_eq_true _ _).mp behind
  rw [dependency?_call kind, first, Option.bind_some, stringContent?_comment isOne]
  cases callKind? source call <;> rfl

theorem dependency?_uncommented_call {source : String} {call : Tree} (chosen : List Nat → Bool)
    (kind : call.kind = "call_expression") :
    dependency? source (uncommented chosen call) = (callKind? source call).bind fun kind =>
      ((argumentBeyond? chosen call).bind (stringContent? source)).map fun path =>
        ⟨path, kind, call.line.toUInt64⟩ := by
  have label := label_uncommented chosen call
  rw [dependency?_call ((congrArg Label.kind label).trans kind), callKind?_uncommented,
    firstArgument?_uncommented, Tree.line, label]
  rfl

theorem dependency?_uncommented (source : String) (chosen : List Nat → Bool) (tree : Tree) :
    dependency? source (uncommented chosen tree) = dependency? source tree ∨
      dependency? source tree = none := by
  by_cases kind : tree.kind = "call_expression"
  · rcases firstArgument?_eq chosen tree with same | behind
    · rw [dependency?_uncommented_call chosen kind, dependency?_call kind, same]
      exact .inl rfl
    · exact .inr (dependency?_behind kind behind)
  · exact .inl (dependency?_statement chosen kind)

theorem dependency?_uncommented_eq_iff (source : String) (chosen : List Nat → Bool) (tree : Tree) :
    dependency? source (uncommented chosen tree) = dependency? source tree ↔
      hides source chosen tree = false := by
  by_cases kind : tree.kind = "call_expression"
  · cases behind : (firstArgument? tree).any isComment with
    | true =>
        rw [dependency?_uncommented_call chosen kind, dependency?_behind kind behind]
        cases called : callKind? source tree <;>
          cases named : (argumentBeyond? chosen tree).bind (stringContent? source) <;>
            simp [hides, kind, called, behind, named]
    | false =>
        have same := (firstArgument?_eq chosen tree).resolve_right (by simp [behind])
        rw [dependency?_uncommented_call chosen kind, dependency?_call kind, same]
        simp [hides, behind]
  · simp [dependency?_statement chosen kind, hides, kind]

/-! The dependencies of a tree without comments, node by node. -/

/-- A comment has no parts, and it is nothing that names a module. -/
theorem dependencies_comment {source : String} {chosen : List Nat → Bool} {comment : Tree}
    (isOne : isComment comment = true) :
    dependencies source (uncommented chosen comment) = [] := by
  have nothing := @dependency?_comment source comment isOne
  have leaf := children_comment isOne
  cases comment with
  | node label children =>
      obtain rfl : children = [] := leaf
      rw [uncommented, uncommentedFrom, dependencies, nothing]
      rfl

mutual
theorem dependencies_uncommented_eq (source : String) (chosen : List Nat → Bool) (tree : Tree) :
    dependencies source (uncommented chosen tree) = tree.sites.filterMap fun site =>
      dependency? source (uncommented (fun below => chosen (site.1 ++ below)) site.2) := by
  cases tree with
  | node label children =>
      rw [Tree.sites, filterMap_cons_append,
        ← dependenciesEach_uncommented source chosen 0 children]
      rfl

theorem dependenciesEach_uncommented (source : String) (chosen : List Nat → Bool) (index : Nat)
    (children : List Tree) :
    dependenciesEach source (uncommentedFrom chosen index children) =
      (Tree.sitesFrom index children).filterMap fun site =>
        dependency? source (uncommented (fun below => chosen (site.1 ++ below)) site.2) := by
  cases children with
  | nil => rfl
  | cons child rest =>
      have first := dependencies_uncommented_eq source (inside chosen index) child
      rw [uncommentedFrom, Tree.sitesFrom, List.filterMap_append, List.filterMap_map,
        ← dependenciesEach_uncommented source chosen (index + 1) rest]
      -- The addresses in the child are those of the root with the index in front.
      refine Eq.trans ?_ (congrArg (· ++ _) first)
      by_cases out : isLeftOut chosen (child, index) = true
      · rw [if_pos out, dependencies_comment (Bool.and_eq_true_iff.mp out).1]
        rfl
      · rw [if_neg out, dependenciesEach]
end

/-- Leaving out comments loses no dependency and moves none. It changes nothing exactly when no
comment that is left out stood before the first argument of a call that then names a module. -/
theorem dependencies_uncommented (source : String) (chosen : List Nat → Bool) (tree : Tree) :
    (dependencies source tree).Sublist (dependencies source (uncommented chosen tree)) ∧
    (dependencies source (uncommented chosen tree) = dependencies source tree ↔
      ∀ site ∈ tree.sites,
        hides source (fun below => chosen (site.1 ++ below)) site.2 = false) := by
  have grows : ∀ site ∈ tree.sites, ∀ found, dependency? source site.2 = some found →
      dependency? source (uncommented (fun below => chosen (site.1 ++ below)) site.2) =
        some found := by
    intro site _ found named
    rcases dependency?_uncommented source (fun below => chosen (site.1 ++ below)) site.2 with
      same | nothing
    · exact same.trans named
    · exact nomatch nothing.symm.trans named
  rw [dependencies_uncommented_eq, dependencies_eq]
  refine ⟨sublist_filterMap grows, ?_⟩
  rw [filterMap_eq_iff grows]
  simp only [dependency?_uncommented_eq_iff]

/-- The statement `require(/* c */ "x");`. -/
def requiringBehind : Program where
  source := "require(/* c */ \"x\");"
  root := spot "program" 0 21 [] [
    spot "expression_statement" 0 21 [] [
      spot "call_expression" 0 20 [] [
        spot "identifier" 0 7 ["function"] [],
        spot "arguments" 7 20 ["arguments"] [
          sign "(" 7 [],
          spot "comment" 8 15 [] [],
          spot "string" 16 19 [] [
            sign "\"" 16 [], spot "string_fragment" 17 18 [] [], sign "\"" 18 []],
          sign ")" 19 []]],
      sign ";" 20 []]]

/-- A module that is named behind a comment is not found. -/
theorem dependencies_uncommented_behind :
    (requiringBehind.root.at? [0, 0, 1, 1]).any isComment = true ∧
    dependencies requiringBehind.source requiringBehind.root = [] ∧
    dependencies requiringBehind.source
        (uncommented (fun address => address == [0, 0, 1, 1]) requiringBehind.root) =
      [⟨"x", .commonJs, 1⟩] := by
  decide +kernel

end CodeMetrics.JavaScript
