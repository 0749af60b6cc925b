/-
# Parts of a list

A list is taken apart in one way at the first of its symbols that are of some kind, such as
separators (`Text.eq_of_append_cons_eq`), and parts of a list without a symbol in common do not
overlap (`Text.apart_of_disjoint`).
-/

import Mathlib.Data.List.Basic
import Mathlib.Data.List.TakeWhile

namespace DeclSearch
namespace Text

variable {α : Type}

/-- **A list is taken apart in one way** at the first of its symbols of a kind. -/
theorem eq_of_append_cons_eq {p : α → Prop} {a b : α} {xs ys zs ws : List α}
    (hxs : ∀ x ∈ xs, ¬p x) (hys : ∀ y ∈ ys, ¬p y) (ha : p a) (hb : p b)
    (h : xs ++ a :: zs = ys ++ b :: ws) : xs = ys ∧ a :: zs = b :: ws := by
  classical
  have htake {xs zs : List α} {a : α} (hxs : ∀ x ∈ xs, ¬p x) (ha : p a) :
      (xs ++ a :: zs).takeWhile (fun x => !decide (p x)) = xs := by
    rw [List.takeWhile_append_of_pos fun x hx => by simpa using hxs x hx,
      List.takeWhile_cons_of_neg (by simpa using ha), List.append_nil]
  obtain rfl : xs = ys := by rw [← htake hxs ha, h, htake hys hb]
  exact ⟨rfl, List.append_cancel_left h⟩

/-- What stands at a place inside of a part of a list. -/
theorem exists_mem_getElem? (front part back : List α) {i : Nat} (hfirst : front.length ≤ i)
    (hlast : i < front.length + part.length) :
    ∃ a ∈ part, (front ++ (part ++ back))[i]? = some a := by
  have hi : i - front.length < part.length := by omega
  refine ⟨part[i - front.length], List.getElem_mem hi, ?_⟩
  rw [List.getElem?_append_right hfirst, List.getElem?_append_left hi, List.getElem?_eq_getElem hi]

/-- **Parts of a list without a symbol in common do not overlap.** -/
theorem apart_of_disjoint {front part back front' part' back' : List α}
    (htext : front ++ (part ++ back) = front' ++ (part' ++ back')) (hpart : part ≠ [])
    (hpart' : part' ≠ []) (hdisjoint : part.Disjoint part') :
    front.length + part.length ≤ front'.length ∨ front'.length + part'.length ≤ front.length := by
  by_contra hover
  have hpos := List.length_pos_iff.2 hpart
  have hpos' := List.length_pos_iff.2 hpart'
  obtain ⟨a, ha, hat⟩ := exists_mem_getElem? front part back (i := max front.length front'.length)
    (by omega) (by omega)
  obtain ⟨b, hb, hat'⟩ := exists_mem_getElem? front' part' back'
    (i := max front.length front'.length) (by omega) (by omega)
  obtain rfl := Option.some.inj (hat.symm.trans (htext ▸ hat'))
  exact hdisjoint ha hb

end Text
end DeclSearch
