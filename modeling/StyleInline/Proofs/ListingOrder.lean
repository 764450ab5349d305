import Mathlib.Data.List.Lex
import Mathlib.Data.String.Basic
import Mathlib.Order.RelClasses
import StyleInline.Proofs.Memory

/-!
# The order of listings

Listings are sorted by components, lexicographically.  Plain paths are told apart by their
components, so a list of them is sorted in one way only, whatever order it was found in.
-/

namespace StyleInline

namespace Component

theorem less_irrefl (component : Component) : ¬ component.less component = true := by
  cases component <;> simp [less]

theorem less_trans {first second third : Component} (before : first.less second = true)
    (behind : second.less third = true) : first.less third = true := by
  cases first <;> cases second <;> cases third
  case name.name.name =>
    simp only [less, decide_eq_true_eq] at before behind ⊢
    exact lt_trans before behind
  all_goals simp_all [less, rank]

theorem less_trichotomous {left right : Component} (before : ¬ left.less right = true)
    (behind : ¬ right.less left = true) : left = right := by
  cases left <;> cases right
  case name.name =>
    simp only [less, decide_eq_true_eq, not_lt] at before behind
    exact congrArg _ (le_antisymm behind before)
  all_goals simp_all [less, rank]

instance strictTotalOrder :
    IsStrictTotalOrder Component fun left right => left.less right = true where
  irrefl := less_irrefl
  trans _ _ _ := less_trans
  trichotomous _ _ := less_trichotomous

end Component

namespace Path

theorem lessComponents_iff (left right : List Component) :
    lessComponents left right = true ↔
      List.Lex (fun left right => left.less right = true) left right := by
  induction left generalizing right with
  | nil =>
      cases right with
      | nil => simp [lessComponents]
      | cons component rest => simp [lessComponents]
  | cons first rest ih =>
      cases right with
      | nil => simp [lessComponents]
      | cons second others =>
          rw [lessComponents]
          by_cases before : first.less second = true
          · simp only [before, if_true, true_iff]
            exact .rel before
          by_cases behind : second.less first = true
          · simp only [before, behind, if_true, Bool.false_eq_true, if_false, false_iff]
            intro sorted
            cases sorted with
            | cons _ => exact Component.less_irrefl _ behind
            | rel between => exact before between
          · obtain rfl := Component.less_trichotomous before behind
            simp only [before, Bool.false_eq_true, if_false, ih]
            exact List.lex_cons_iff.symm

def notBehind (left right : Path) : Bool := !right.less left

theorem notBehind_total (left right : Path) : (notBehind left right || notBehind right left) = true := by
  unfold notBehind less
  by_contra both
  simp only [Bool.not_eq_true, Bool.or_eq_false_iff, Bool.not_eq_false', lessComponents_iff] at both
  exact asymm both.1 both.2

theorem notBehind_trans (first second third : Path) (before : notBehind first second = true)
    (behind : notBehind second third = true) : notBehind first third = true := by
  simp only [notBehind, less, Bool.not_eq_true', Bool.eq_false_iff, ne_eq, lessComponents_iff]
    at before behind ⊢
  intro between
  rcases IsOrderConnected.conn _ second.components _ between with later | earlier
  · exact behind later
  · exact before earlier

theorem notBehind_antisymm {left right : Path} (plain : left.IsPlain) (plain' : right.IsPlain)
    (before : notBehind left right = true) (behind : notBehind right left = true) :
    left = right := by
  simp only [notBehind, less, Bool.not_eq_true', Bool.eq_false_iff, ne_eq, lessComponents_iff]
    at before behind
  have same : left.components = right.components :=
    Std.Trichotomous.trichotomous _ _ behind before
  obtain ⟨location, valid, rfl⟩ := plain
  obtain ⟨other, valid', rfl⟩ := plain'
  rw [Location.components_path valid, Location.components_path valid'] at same
  rw [Location.path, same, Location.path]

/-- Plain paths are listed in one order only. -/
theorem mergeSort_eq {left right : List Path} (plain : ∀ path ∈ left, path.IsPlain)
    (permuted : left.Perm right) :
    left.mergeSort notBehind = right.mergeSort notBehind := by
  have sorted : ∀ paths : List Path, (paths.mergeSort notBehind).Pairwise
      fun left right => notBehind left right = true :=
    List.pairwise_mergeSort notBehind_trans notBehind_total
  apply List.Perm.eq_of_pairwise _ (sorted left) (sorted right)
  · exact (List.mergeSort_perm left _).trans (permuted.trans (List.mergeSort_perm right _).symm)
  · intro first second member member'
    have inside := List.mem_mergeSort.mp member
    have inside' := permuted.mem_iff.mpr (List.mem_mergeSort.mp member')
    exact notBehind_antisymm (plain first inside) (plain second inside')

end Path

end StyleInline
