/-!
# Lists of names without repetition

Requests may name a topic in several places. The lists that report them keep each name where it
occurs first.

## Main definitions

* `appendNew` — a list of names, followed by those names that are not in it yet
-/

namespace KafkaWire

/-- The names of `known`, followed by each name of `names` at its first occurrence, unless it is
known already. -/
def appendNew (known : List String) : List String → List String
  | [] => known
  | name :: names =>
    if name ∈ known then appendNew known names else appendNew (known ++ [name]) names

theorem mem_appendNew {name : String} {known names : List String} :
    name ∈ appendNew known names ↔ name ∈ known ∨ name ∈ names := by
  induction names generalizing known with
  | nil => simp [appendNew]
  | cons n ns ih =>
    rw [appendNew]
    split
    · rw [ih, List.mem_cons]
      constructor
      · rintro (h | h)
        · exact .inl h
        · exact .inr (.inr h)
      · rintro (h | rfl | h)
        · exact .inl h
        · exact .inl (by assumption)
        · exact .inr h
    · rw [ih, List.mem_append, List.mem_singleton, List.mem_cons, or_assoc]

end KafkaWire
