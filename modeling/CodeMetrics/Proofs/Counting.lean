import CodeMetrics.JavaScript.Functions

/-!
Laws of counting. Reported figures are counted in words of 32 bits; each is the word of the figure
counted in natural numbers, so that what is proved of natural figures carries over to those that are
reported.
-/

namespace CodeMetrics.JavaScript

section Totals
variable {β γ : Type}

theorem total_append (figure : β → Nat) (left right : List β) :
    total figure (left ++ right) = total figure left + total figure right := by
  induction left with
  | nil => simp [total]
  | cons item rest ih => rw [List.cons_append, total, total, ih, Nat.add_assoc]

theorem total_map {α : Type} [Add α] [OfNat α 0] (figure : γ → α) (view : β → γ)
    (items : List β) :
    total figure (items.map view) = total (fun item => figure (view item)) items := by
  induction items with
  | nil => rfl
  | cons item rest ih => rw [List.map_cons, total, total, ih]

theorem total_flatMap (figure : γ → Nat) (parts : β → List γ) (items : List β) :
    total figure (items.flatMap parts) = total (fun item => total figure (parts item)) items := by
  induction items with
  | nil => rfl
  | cons item rest ih => rw [List.flatMap_cons, total_append, total, ih]

theorem total_congr {left right : β → Nat} {items : List β}
    (same : ∀ item ∈ items, left item = right item) : total left items = total right items := by
  induction items with
  | nil => rfl
  | cons item rest ih =>
      rw [total, total, same item List.mem_cons_self,
        ih fun other member => same other (List.mem_cons_of_mem item member)]

theorem total_eq_zero {figure : β → Nat} {items : List β}
    (nothing : ∀ item ∈ items, figure item = 0) : total figure items = 0 := by
  induction items with
  | nil => rfl
  | cons item rest ih =>
      rw [total, nothing item List.mem_cons_self,
        ih fun other member => nothing other (List.mem_cons_of_mem item member)]

theorem total_add (left right : β → Nat) (items : List β) :
    total (fun item => left item + right item) items = total left items + total right items := by
  induction items with
  | nil => rfl
  | cons item rest ih =>
      rw [total, total, total, ih]
      omega

theorem total_if (rule : Bool) (figure : β → Nat) (items : List β) :
    total (fun item => if rule then figure item else 0) items =
      if rule then total figure items else 0 := by
  cases rule with
  | true => rfl
  | false => exact total_eq_zero fun _ _ => rfl

theorem total_zipIdx (figure : β → Nat) (items : List β) (start : Nat) :
    total (fun entry => figure entry.1) (items.zipIdx start) = total figure items := by
  rw [← total_map figure Prod.fst, List.zipIdx_map_fst]

/-- Of a sum in which one place alone counts, its item is left. -/
theorem total_zipIdx_at (figure : β → Nat) {items : List β} {item : β} (start : Nat) {place : Nat}
    (found : items[place]? = some item) :
    total (fun entry => if entry.2 = start + place then figure entry.1 else 0)
      (items.zipIdx start) = figure item := by
  induction items generalizing start place with
  | nil => cases found
  | cons first rest ih =>
      rw [List.zipIdx_cons, total]
      cases place with
      | zero =>
          -- The place is met here, so none of the later ones is it.
          have others : total (fun entry => if entry.2 = start + 0 then figure entry.1 else 0)
              (rest.zipIdx (start + 1)) = 0 := by
            apply total_eq_zero
            intro entry member
            have later := List.le_snd_of_mem_zipIdx member
            exact if_neg (by omega)
          rw [others, if_pos (Nat.add_zero start).symm, Nat.add_zero]
          exact congrArg figure (Option.some.inj found)
      | succ place =>
          rw [if_neg (by omega), Nat.zero_add, ← ih (start + 1) found]
          have shifted : start + 1 + place = start + (place + 1) := by omega
          rw [shifted]

theorem total_one (items : List β) : total (fun _ => 1) items = items.length := by
  induction items with
  | nil => rfl
  | cons item rest ih => rw [total, ih, List.length_cons, Nat.add_comm]

theorem total_filter (holds : β → Bool) (figure : β → Nat) (items : List β) :
    total figure (items.filter holds) =
      total (fun item => if holds item then figure item else 0) items := by
  induction items with
  | nil => rfl
  | cons item rest ih =>
      rw [List.filter_cons, total]
      cases held : holds item with
      | true => rw [if_pos rfl, if_pos rfl, total, ih]
      | false => rw [if_neg nofun, if_neg nofun, Nat.zero_add, ih]

theorem total_le {less more : β → Nat} {items : List β}
    (smaller : ∀ item ∈ items, less item ≤ more item) : total less items ≤ total more items := by
  induction items with
  | nil => exact Nat.le_refl 0
  | cons item rest ih =>
      exact Nat.add_le_add (smaller item List.mem_cons_self)
        (ih fun other member => smaller other (List.mem_cons_of_mem item member))

/-- What one item has to spare, the whole sum has. -/
theorem total_spare {less more : β → Nat} {item : β} {items : List β} {spare : Nat}
    (smaller : ∀ item ∈ items, less item ≤ more item) (member : item ∈ items)
    (room : less item + spare ≤ more item) : total less items + spare ≤ total more items := by
  induction items with
  | nil => cases member
  | cons first rest ih =>
      have here := smaller first List.mem_cons_self
      have smallerRest := fun other member => smaller other (List.mem_cons_of_mem first member)
      have later := total_le smallerRest
      rw [total, total]
      rcases List.mem_cons.mp member with rfl | inRest
      · omega
      · have spared := ih smallerRest inRest
        omega

theorem total_mul (figure : β → Nat) (factor : Nat) (items : List β) :
    total (fun item => figure item * factor) items = total figure items * factor := by
  induction items with
  | nil => exact (Nat.zero_mul factor).symm
  | cons item rest ih => rw [total, total, ih, Nat.add_mul]

end Totals

theorem one_false : (one false : Nat) = 0 := rfl

theorem one_le (holds : Bool) : (one holds : Nat) ≤ 1 := by
  cases holds <;> decide

theorem tally_le_length {β : Type} (holds : β → Bool) (items : List β) :
    (tally holds items : Nat) ≤ items.length := by
  rw [tally, ← total_one]
  exact total_le fun item _ => one_le (holds item)

theorem one_toWord (holds : Bool) : (one holds : UInt32) = (one holds : Nat).toUInt32 := by
  cases holds <;> rfl

theorem toWord_add (left right : Nat) :
    (left + right).toUInt32 = left.toUInt32 + right.toUInt32 :=
  UInt32.ofNat_add left right

theorem toWord_succ_sub_one (count : Nat) : (1 + count).toUInt32 - 1 = count.toUInt32 := by
  rw [toWord_add, UInt32.add_comm]
  exact UInt32.add_sub_cancel ..

theorem total_toWord {β : Type} (figure : β → Nat) (items : List β) :
    total (fun item => (figure item).toUInt32) items = (total figure items).toUInt32 := by
  induction items with
  | nil => rfl
  | cons item rest ih => rw [total, total, toWord_add, ih]

mutual
theorem sumScope_toWord (enter : Bool) (weight : Tree → Nat) (tree : Tree) :
    sumScope enter (fun node => (weight node).toUInt32) tree =
      (sumScope enter weight tree).toUInt32 := by
  cases tree with
  | node label children =>
      rw [sumScope, sumScope]
      exact sumScopes_toWord enter weight children

theorem sumScopes_toWord (enter : Bool) (weight : Tree → Nat) (children : List Tree) :
    sumScopes enter (fun node => (weight node).toUInt32) children =
      (sumScopes enter weight children).toUInt32 := by
  cases children with
  | nil => rfl
  | cons child rest =>
      rw [sumScopes, sumScopes, toWord_add, toWord_add, sumScopes_toWord enter weight rest]
      by_cases entered : (enter || !isFunction child) = true
      · rw [if_pos entered, if_pos entered, sumScope_toWord enter weight child]
      · rw [if_neg entered, if_neg entered]
        rfl
end

theorem cyclomatic_toWord (rules : BranchRules) (enter : Bool) (tree : Tree) :
    (cyclomatic rules enter tree : UInt32) = (cyclomatic rules enter tree : Nat).toUInt32 := by
  have weights : (branchWeight rules : Tree → UInt32) =
      fun node => (branchWeight rules node : Nat).toUInt32 := by
    funext node
    exact one_toWord _
  rw [cyclomatic, cyclomatic, weights, sumScope_toWord, toWord_add]
  rfl

theorem logicalLines_toWord (enter : Bool) (tree : Tree) :
    (logicalLines enter tree : UInt32) = (logicalLines enter tree : Nat).toUInt32 := by
  rw [logicalLines, logicalLines, ← sumScope_toWord]
  congr
  funext node
  exact one_toWord _

end CodeMetrics.JavaScript
