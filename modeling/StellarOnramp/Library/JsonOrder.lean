import Mathlib.Data.List.Sort
import StellarOnramp.Library.JsonParse

/-! JSON values up to the order of members, and the normal form that sorts them. -/

namespace Json

open JsText

-----------------------------------------------------------------------------------------
-- Equality
-----------------------------------------------------------------------------------------

mutual

/-- Equal up to the order of members, at every depth. -/
inductive SameUpToOrder : Value → Value → Prop
  | null : SameUpToOrder .null .null
  | boolean (value : Bool) : SameUpToOrder (.boolean value) (.boolean value)
  | number (value : Int) : SameUpToOrder (.number value) (.number value)
  | fraction (text : JsString) : SameUpToOrder (.fraction text) (.fraction text)
  | string (text : JsString) : SameUpToOrder (.string text) (.string text)
  | array {left right : List Value} (items : SameItems left right)
      : SameUpToOrder (.array left) (.array right)
  | object {left moved right : List (JsString × Value)} (members : SameMembers left moved)
      (order : moved.Perm right)
      : SameUpToOrder (.object left) (.object right)

inductive SameItems : List Value → List Value → Prop
  | nil : SameItems [] []
  | cons {left right : Value} {lefts rights : List Value} (item : SameUpToOrder left right)
      (rest : SameItems lefts rights)
      : SameItems (left :: lefts) (right :: rights)

inductive SameMembers : List (JsString × Value) → List (JsString × Value) → Prop
  | nil : SameMembers [] []
  | cons {left right : Value} {lefts rights : List (JsString × Value)} (key : JsString)
      (member : SameUpToOrder left right) (rest : SameMembers lefts rights)
      : SameMembers ((key, left) :: lefts) ((key, right) :: rights)

end

mutual

/-- No object has two members with one key. -/
def Distinct : Value → Prop
  | .null => True
  | .boolean _ => True
  | .number _ => True
  | .fraction _ => True
  | .string _ => True
  | .array items => DistinctItems items
  | .object members => (members.map Prod.fst).Nodup ∧ DistinctMembers members

def DistinctItems : List Value → Prop
  | [] => True
  | item :: rest => Distinct item ∧ DistinctItems rest

def DistinctMembers : List (JsString × Value) → Prop
  | [] => True
  | (_, value) :: rest => Distinct value ∧ DistinctMembers rest

end

-----------------------------------------------------------------------------------------
-- Sorting by key
-----------------------------------------------------------------------------------------

/-- Members in the order of the code units of their keys. -/
def sortMembers {α : Type} (members : List (JsString × α)) : List (JsString × α) :=
  members.insertionSort (fun left right => ¬ right.1 < left.1)

section Sorting

variable {α β : Type}

theorem sortMembers_perm (members : List (JsString × α)) : (sortMembers members).Perm members :=
  List.perm_insertionSort _ members

theorem sortMembers_pairwise (members : List (JsString × α))
    : (sortMembers members).Pairwise (fun left right => left.1 ≤ right.1) := by
  have total : Std.Total (fun left right : JsString × α => ¬ right.1 < left.1) :=
    ⟨fun left right => List.le_total left.1 right.1⟩
  have trans : IsTrans (JsString × α) (fun left right => ¬ right.1 < left.1) :=
    ⟨fun _ _ _ first second => List.le_trans first second⟩
  exact List.pairwise_insertionSort _ members

/-- Sorting leaves no trace of the order of members with distinct keys. -/
theorem sortMembers_eq_of_perm {left right : List (JsString × α)} (order : left.Perm right)
    (distinct : (left.map Prod.fst).Nodup)
    : sortMembers left = sortMembers right := by
  have moved : (sortMembers left).Perm (sortMembers right) :=
    (sortMembers_perm left).trans (order.trans (sortMembers_perm right).symm)
  refine moved.eq_of_pairwise ?_ (sortMembers_pairwise left) (sortMembers_pairwise right)
  intro first second held also le ge
  rw [(sortMembers_perm left).mem_iff] at held
  rw [(sortMembers_perm right).mem_iff, ← order.mem_iff] at also
  exact List.inj_on_of_nodup_map distinct held also (List.le_antisymm le ge)

theorem sortMembers_sortMembers (members : List (JsString × α))
    : sortMembers (sortMembers members) = sortMembers members :=
  (sortMembers_pairwise members).insertionSort_eq

theorem sortMembers_map (f : α → β) (members : List (JsString × α))
    : sortMembers (members.map fun member => (member.1, f member.2))
      = (sortMembers members).map fun member => (member.1, f member.2) :=
  (List.map_insertionSort (fun left right : JsString × α => ¬ right.1 < left.1)
    (fun left right : JsString × β => ¬ right.1 < left.1) _ members fun _ _ _ _ => Iff.rfl).symm

end Sorting

-----------------------------------------------------------------------------------------
-- The normal form
-----------------------------------------------------------------------------------------

mutual

/-- The value with the members of every object sorted. -/
def sorted : Value → Value
  | .null => .null
  | .boolean value => .boolean value
  | .number value => .number value
  | .fraction text => .fraction text
  | .string text => .string text
  | .array items => .array (sortedItems items)
  | .object members => .object (sortMembers (sortedMembers members))

def sortedItems : List Value → List Value
  | [] => []
  | item :: rest => sorted item :: sortedItems rest

def sortedMembers : List (JsString × Value) → List (JsString × Value)
  | [] => []
  | (key, value) :: rest => (key, sorted value) :: sortedMembers rest

end

theorem sortedMembers_eq (members : List (JsString × Value))
    : sortedMembers members = members.map fun member => (member.1, sorted member.2) := by
  induction members with
  | nil => rfl
  | cons member rest ih =>
      rw [List.map_cons, ← ih]
      rfl

theorem sortedMembers_keys (members : List (JsString × Value))
    : (sortedMembers members).map Prod.fst = members.map Prod.fst := by
  rw [sortedMembers_eq, List.map_map]
  rfl

mutual

/-- Values that are the same up to order have the same normal form. -/
theorem SameUpToOrder.sorted_eq
    : ∀ {left right : Value}, SameUpToOrder left right → Distinct left → sorted left = sorted right
  | _, _, .null, _ => rfl
  | _, _, .boolean _, _ => rfl
  | _, _, .number _, _ => rfl
  | _, _, .fraction _, _ => rfl
  | _, _, .string _, _ => rfl
  | _, _, .array items, distinct => congrArg Value.array (items.sortedItems_eq distinct)
  | _, _, @SameUpToOrder.object _ moved right members order, distinct => by
      have same := members.sortedMembers_eq distinct.2
      have keys : ((sortedMembers moved).map Prod.fst).Nodup := by
        rw [← same, sortedMembers_keys]
        exact distinct.1
      have permuted : (sortedMembers moved).Perm (sortedMembers right) := by
        rw [Json.sortedMembers_eq, Json.sortedMembers_eq]
        exact order.map _
      rw [sorted, sorted, same, sortMembers_eq_of_perm permuted keys]

theorem SameItems.sortedItems_eq
    : ∀ {left right : List Value},
        SameItems left right → DistinctItems left → sortedItems left = sortedItems right
  | _, _, .nil, _ => rfl
  | _, _, .cons item rest, distinct =>
      congrArg₂ List.cons (item.sorted_eq distinct.1) (rest.sortedItems_eq distinct.2)

theorem SameMembers.sortedMembers_eq
    : ∀ {left right : List (JsString × Value)},
        SameMembers left right → DistinctMembers left → sortedMembers left = sortedMembers right
  | _, _, .nil, _ => rfl
  | _, _, .cons key member rest, distinct =>
      congrArg₂ List.cons (congrArg (Prod.mk key) (member.sorted_eq distinct.1))
        (rest.sortedMembers_eq distinct.2)

end

/-- A reordering of an image is the image of a reordering, by induction on the former. -/
theorem exists_perm_of_map_perm {α β : Type} {f : α → β} {images : List β} {items : List α}
    (order : images.Perm (items.map f))
    : ∃ moved : List α, moved.Perm items ∧ moved.map f = images := by
  generalize target : items.map f = mapped at order
  induction order generalizing items with
  | nil => exact ⟨[], List.map_eq_nil_iff.mp target ▸ .refl _, rfl⟩
  | cons image _ ih =>
      obtain ⟨item, rest, rfl, rfl, later⟩ := List.map_eq_cons_iff.mp target
      obtain ⟨moved, perm, mapped⟩ := ih later
      exact ⟨item :: moved, perm.cons item, by rw [List.map_cons, mapped]⟩
  | swap first second images =>
      obtain ⟨item, rest, rfl, rfl, later⟩ := List.map_eq_cons_iff.mp target
      obtain ⟨other, rest, rfl, rfl, rfl⟩ := List.map_eq_cons_iff.mp later
      exact ⟨other :: item :: rest, .swap item other rest, rfl⟩
  | trans _ _ ih ih' =>
      obtain ⟨middle, perm, mapped⟩ := ih' target
      obtain ⟨moved, perm', mapped'⟩ := ih mapped
      exact ⟨moved, perm'.trans perm, mapped'⟩

mutual

/-- Values with the same normal form are the same up to order, by induction on the first. -/
theorem sameUpToOrder_of_sorted_eq
    : ∀ (left right : Value), sorted left = sorted right → SameUpToOrder left right
  | .null, right, same => by
      cases right <;> first | exact .null | cases same
  | .boolean value, right, same => by
      cases right <;> first | exact Value.boolean.inj same ▸ .boolean value | cases same
  | .number value, right, same => by
      cases right <;> first | exact Value.number.inj same ▸ .number value | cases same
  | .fraction text, right, same => by
      cases right <;> first | exact Value.fraction.inj same ▸ .fraction text | cases same
  | .string text, right, same => by
      cases right <;> first | exact Value.string.inj same ▸ .string text | cases same
  | .array items, right, same => by
      cases right with
      | array others =>
          exact .array (sameItems_of_sortedItems_eq items others (Value.array.inj same))
      | _ => cases same
  | .object members, right, same => by
      cases right with
      | object others =>
          have permuted : (sortedMembers members).Perm (sortedMembers others) :=
            (sortMembers_perm _).symm.trans
              ((Value.object.inj same).symm ▸ sortMembers_perm (sortedMembers others))
          rw [sortedMembers_eq others] at permuted
          obtain ⟨moved, order, mapped⟩ := exists_perm_of_map_perm permuted
          rw [← sortedMembers_eq] at mapped
          exact .object (sameMembers_of_sortedMembers_eq members moved mapped.symm) order
      | _ => cases same

theorem sameItems_of_sortedItems_eq
    : ∀ (left right : List Value), sortedItems left = sortedItems right → SameItems left right
  | [], [], _ => .nil
  | item :: rest, other :: others, same =>
      .cons (sameUpToOrder_of_sorted_eq item other (List.cons.inj same).1)
        (sameItems_of_sortedItems_eq rest others (List.cons.inj same).2)

theorem sameMembers_of_sortedMembers_eq
    : ∀ (left right : List (JsString × Value)),
        sortedMembers left = sortedMembers right → SameMembers left right
  | [], [], _ => .nil
  | (key, value) :: rest, (key', other) :: others, same => by
      obtain ⟨heads, tails⟩ := List.cons.inj same
      obtain ⟨rfl, values⟩ := Prod.mk.inj heads
      exact .cons key (sameUpToOrder_of_sorted_eq value other values)
        (sameMembers_of_sortedMembers_eq rest others tails)

end

mutual

/-- The normal form is its own, by induction on the value. -/
theorem sorted_sorted : ∀ value : Value, sorted (sorted value) = sorted value
  | .null => rfl
  | .boolean _ => rfl
  | .number _ => rfl
  | .fraction _ => rfl
  | .string _ => rfl
  | .array items => congrArg Value.array (sortedItems_sortedItems items)
  | .object members => by
      have inner
          : sortedMembers (sortMembers (sortedMembers members))
            = sortMembers (sortedMembers (sortedMembers members)) := by
        rw [sortedMembers_eq, sortedMembers_eq (sortedMembers members), sortMembers_map]
      rw [sorted, sorted, inner, sortMembers_sortMembers, sortedMembers_sortedMembers members]

theorem sortedItems_sortedItems
    : ∀ items : List Value, sortedItems (sortedItems items) = sortedItems items
  | [] => rfl
  | item :: rest =>
      congrArg₂ List.cons (sorted_sorted item) (sortedItems_sortedItems rest)

theorem sortedMembers_sortedMembers
    : ∀ members : List (JsString × Value),
        sortedMembers (sortedMembers members) = sortedMembers members
  | [] => rfl
  | (key, value) :: rest =>
      congrArg₂ List.cons (congrArg (Prod.mk key) (sorted_sorted value))
        (sortedMembers_sortedMembers rest)

end

theorem sameUpToOrder_sorted (value : Value) : SameUpToOrder (sorted value) value :=
  sameUpToOrder_of_sorted_eq _ _ (sorted_sorted value)

/-- Two values are the same up to order exactly when they have one normal form. -/
theorem sameUpToOrder_iff {left right : Value} (distinct : Distinct left)
    : SameUpToOrder left right ↔ sorted left = sorted right :=
  ⟨fun same => same.sorted_eq distinct, sameUpToOrder_of_sorted_eq left right⟩

-----------------------------------------------------------------------------------------
-- Members
-----------------------------------------------------------------------------------------

theorem SameMembers.lookup (key : JsString)
    : ∀ {left right : List (JsString × Value)},
        SameMembers left right → Option.Rel SameUpToOrder (left.lookup key) (right.lookup key)
  | _, _, .nil => .none
  | _, _, .cons other member rest => by
      rw [List.lookup_cons, List.lookup_cons]
      cases key == other with
      | true => exact .some member
      | false => exact rest.lookup key

/-- A member is found wherever it stands, by induction on the reordering. -/
theorem lookup_of_perm {α : Type} {left right : List (JsString × α)} (order : left.Perm right)
    (distinct : (left.map Prod.fst).Nodup) (key : JsString)
    : left.lookup key = right.lookup key := by
  induction order with
  | nil => rfl
  | cons member _ ih =>
      rw [List.lookup_cons, List.lookup_cons, ih (List.nodup_cons.mp distinct).2]
  | swap first second rest =>
      have apart : second.1 ≠ first.1 := by
        intro same
        exact (List.nodup_cons.mp distinct).1 (List.mem_cons.mpr (Or.inl same))
      rw [List.lookup_cons, List.lookup_cons, List.lookup_cons, List.lookup_cons]
      by_cases here : key = second.1
      · rw [here, beq_self_eq_true, beq_eq_false_iff_ne.mpr apart]
      · rw [beq_eq_false_iff_ne.mpr here]
  | trans first _ ih ih' =>
      rw [ih distinct, ih' ((first.map Prod.fst).nodup_iff.mp distinct)]

theorem SameMembers.keys
    : ∀ {left right : List (JsString × Value)},
        SameMembers left right → left.map Prod.fst = right.map Prod.fst
  | _, _, .nil => rfl
  | _, _, .cons key _ rest => congrArg (List.cons key) rest.keys

/-- Values that are the same up to order have the same members. -/
theorem SameUpToOrder.get {left right : Value} (same : SameUpToOrder left right)
    (distinct : Distinct left) (key : JsString)
    : Option.Rel SameUpToOrder (left.get key) (right.get key) := by
  cases same with
  | object members order =>
      rw [Distinct, members.keys] at distinct
      rw [Value.get, Value.get, ← lookup_of_perm order distinct.1]
      exact members.lookup key
  | _ => exact .none

/-- Leaving a member out does not change the others. -/
theorem get_without (value : Value) {key other : JsString} (apart : other ≠ key)
    : (value.without key).get other = value.get other := by
  cases value with
  | object members =>
      change (members.filter fun member => member.1 != key).lookup other = members.lookup other
      induction members with
      | nil => rfl
      | cons member rest ih =>
          rw [List.filter_cons, List.lookup_cons, ← ih]
          by_cases here : member.1 = key
          · rw [if_neg (by simp [here]), here, beq_eq_false_iff_ne.mpr apart]
          · rw [if_pos (by simp [here]), List.lookup_cons]
  | _ => rfl

theorem Distinct.without {value : Value} (distinct : Distinct value) (key : JsString)
    : Distinct (value.without key) := by
  cases value with
  | object members =>
      refine ⟨(List.filter_sublist.map _).nodup distinct.1, ?_⟩
      obtain ⟨-, each⟩ := distinct
      induction members with
      | nil => exact trivial
      | cons member rest ih =>
          rw [List.filter_cons]
          split
          · exact ⟨each.1, ih each.2⟩
          · exact ih each.2
  | _ => exact distinct

theorem Distinct.get {value member : Value} (distinct : Distinct value) {key : JsString}
    (found : value.get key = some member)
    : Distinct member := by
  cases value with
  | object members =>
      obtain ⟨-, each⟩ := distinct
      change members.lookup key = some member at found
      induction members with
      | nil => cases found
      | cons first rest ih =>
          rw [List.lookup_cons] at found
          split at found
          · exact Option.some.inj found ▸ each.1
          · exact ih each.2 found
  | _ => cases found

end Json
