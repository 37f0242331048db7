import KafkaWire.Endpoint
import Mathlib.Data.List.TakeWhile

/-!
# Texts cut at a separator

A mapping is cut at its first comma and an endpoint at its last colon. Either way the cut is told
from all others by the side on which the separator does not occur, and looking for the last
occurrence is looking for the first one in the reversed text.

## Main results

* `Text.takeWhile_ne_append_cons`, `Text.dropWhile_ne_append_cons` — the first occurrence
* `Endpoint.splitAtLast?_append_cons`, `Endpoint.splitAtLast?_of_notMem` — the last occurrence
-/

namespace KafkaWire

variable {c : Char} {cs front back : List Char}

namespace Text

/-! ### The first occurrence -/

theorem decide_ne_of_notMem (h : c ∉ cs) : ∀ x ∈ cs, decide (x ≠ c) = true := by
  intro x hx
  rw [decide_eq_true_eq]
  rintro rfl
  exact h hx

theorem takeWhile_ne_append_cons (h : c ∉ front) (back : List Char) :
    (front ++ c :: back).takeWhile (· ≠ c) = front := by
  rw [List.takeWhile_append_of_pos (decide_ne_of_notMem h)]
  simp

theorem dropWhile_ne_append_cons (h : c ∉ front) (back : List Char) :
    (front ++ c :: back).dropWhile (· ≠ c) = c :: back := by
  rw [List.dropWhile_append_of_pos (decide_ne_of_notMem h)]
  simp

theorem dropWhile_ne_of_notMem (h : c ∉ cs) : cs.dropWhile (· ≠ c) = [] :=
  List.dropWhile_eq_nil_iff.mpr (decide_ne_of_notMem h)

theorem reverse_append_cons (front : List Char) (c : Char) (back : List Char) :
    (front ++ c :: back).reverse = back.reverse ++ c :: front.reverse := by
  rw [List.reverse_append, List.reverse_cons, List.append_assoc, List.singleton_append]

/-- A character that occurs has a last occurrence. -/
theorem exists_last_cut (h : c ∈ cs) : ∃ front back, cs = front ++ c :: back ∧ c ∉ back := by
  obtain ⟨before, after, hcut, hbefore⟩ := List.eq_append_cons_of_mem (List.mem_reverse.mpr h)
  refine ⟨after.reverse, before.reverse, ?_, fun hc => hbefore (List.mem_reverse.mp hc)⟩
  rw [← List.reverse_reverse cs, hcut, reverse_append_cons]

end Text

namespace Endpoint

open Text

/-! ### The last occurrence -/

theorem splitAtLast?_append_cons (h : c ∉ back) (front : List Char) :
    splitAtLast? c (front ++ c :: back) = some (front, back) := by
  have hback : c ∉ back.reverse := fun hc => h (List.mem_reverse.mp hc)
  rw [splitAtLast?, reverse_append_cons, takeWhile_ne_append_cons hback,
    dropWhile_ne_append_cons hback]
  simp only [List.reverse_reverse]

theorem splitAtLast?_of_notMem (h : c ∉ cs) : splitAtLast? c cs = none := by
  have hcs : c ∉ cs.reverse := fun hc => h (List.mem_reverse.mp hc)
  rw [splitAtLast?, dropWhile_ne_of_notMem hcs]

end Endpoint

end KafkaWire
