import Mathlib.Data.List.Forall2

/-!
# Lists with a list of tags beside them

The item at each position satisfies what its tag asks of it.  Items arrive at
the end and are replaced in place; a tag never changes.
-/

variable {Tag α : Type}

def Tagged (keeps : Tag → α → Prop) (tags : List Tag) (items : List α) : Prop :=
  List.Forall₂ keeps tags items

namespace Tagged

variable {keeps : Tag → α → Prop} {tags : List Tag} {items : List α} {index : Nat} {item : α}

@[simp]
theorem nil : Tagged keeps [] [] := List.Forall₂.nil

theorem mono {weaker : Tag → α → Prop} (tagged : Tagged keeps tags items)
    (implies : ∀ tag item, keeps tag item → weaker tag item) : Tagged weaker tags items :=
  List.Forall₂.imp implies tagged

theorem arrive {tag : Tag} (tagged : Tagged keeps tags items) (holds : keeps tag item) :
    Tagged keeps (tags ++ [tag]) (items ++ [item]) :=
  List.rel_append tagged (List.Forall₂.cons holds List.Forall₂.nil)

theorem exists_tag (tagged : Tagged keeps tags items) (found : items[index]? = some item) :
    ∃ tag, tags[index]? = some tag ∧ keeps tag item := by
  induction tagged generalizing index with
  | nil => cases found
  | cons holds rest inductionHypothesis =>
      cases index with
      | zero =>
          cases found
          exact ⟨_, rfl, holds⟩
      | succ before => exact inductionHypothesis found

theorem get {tag : Tag} (tagged : Tagged keeps tags items) (named : tags[index]? = some tag)
    (found : items[index]? = some item) : keeps tag item := by
  obtain ⟨other, same, holds⟩ := tagged.exists_tag found
  rw [named] at same
  cases same
  exact holds

theorem set (tagged : Tagged keeps tags items)
    (holds : ∀ tag, tags[index]? = some tag → keeps tag item) :
    Tagged keeps tags (items.set index item) := by
  induction tagged generalizing index with
  | nil => exact nil
  | cons head rest inductionHypothesis =>
      cases index with
      | zero => exact List.Forall₂.cons (holds _ rfl) rest
      | succ before => exact List.Forall₂.cons head (inductionHypothesis fun tag named => holds tag named)

end Tagged
