import Mathlib.Data.List.TakeWhile
import KafkaWire.Text.Blank

/-!
# Trimming

Trimming undoes padding, and only that: a text that neither begins nor ends with a blank character
comes back from between any blank characters, and every text is such a text between blank
characters. The blank characters inside are left alone.

## Main definitions

* `Text.Blank` — nothing but blank characters
* `Text.Padded` — a text between blank characters
* `Text.IsTrimmed` — no blank character at either end

## Main results

* `Text.trimChars_padded` — padding is undone
* `Text.padded_trimChars`, `Text.isTrimmed_trimChars` — and nothing else is done
* `Text.trimChars_of_padded` — more padding makes no difference
* `Text.exists_trimChars_append_cons` — trimming around a character that is not blank
-/

namespace KafkaWire

namespace Text

/-- Nothing but blank characters. -/
def Blank (cs : List Char) : Prop := ∀ c ∈ cs, isBlank c = true

instance (cs : List Char) : Decidable (Blank cs) :=
  decidable_of_iff (cs.all isBlank = true) List.all_eq_true

/-- The text `cs` between blank characters. -/
def Padded (cs padded : List Char) : Prop :=
  ∃ before after, Blank before ∧ Blank after ∧ padded = before ++ cs ++ after

/-- No blank character at either end. -/
structure IsTrimmed (cs : List Char) : Prop where
  head : ∀ c ∈ cs.head?, isBlank c = false
  last : ∀ c ∈ cs.getLast?, isBlank c = false

instance (cs : List Char) : Decidable (IsTrimmed cs) :=
  decidable_of_iff (cs.head?.all (!isBlank ·) = true ∧ cs.getLast?.all (!isBlank ·) = true) <| by
    simp only [Option.all_eq_true, Bool.not_eq_true', ← Option.mem_def]
    exact ⟨fun h => ⟨h.1, h.2⟩, fun h => ⟨h.head, h.last⟩⟩

variable {before after cs padded : List Char} {c : Char}

theorem dropWhile_of_head (h : ∀ c ∈ cs.head?, isBlank c = false) : cs.dropWhile isBlank = cs := by
  cases cs with
  | nil => rfl
  | cons c cs => exact List.dropWhile_cons_of_neg (Bool.eq_false_iff.mp (h c rfl))

/-! ### Padding -/

/-- **Padding is undone.** -/
theorem trimChars_padded (trimmed : IsTrimmed cs) (h : Padded cs padded) :
    trimChars padded = cs := by
  obtain ⟨before, after, hbefore, hafter, rfl⟩ := h
  rw [trimChars, List.append_assoc, List.dropWhile_append_of_pos hbefore]
  cases cs with
  | nil => rw [List.nil_append, List.dropWhile_eq_nil_iff.mpr hafter]; rfl
  | cons c cs =>
    have hafter' : Blank after.reverse := fun d hd => hafter d (List.mem_reverse.mp hd)
    have hlast : ∀ d ∈ (c :: cs).reverse.head?, isBlank d = false := by
      rw [List.head?_reverse]
      exact trimmed.last
    have hfront : (c :: cs ++ after).dropWhile isBlank = c :: cs ++ after :=
      dropWhile_of_head trimmed.head
    rw [hfront, List.reverse_append, List.dropWhile_append_of_pos hafter', dropWhile_of_head hlast,
      List.reverse_reverse]

/-- Every text is a front of blank characters and a text that begins with another one. -/
theorem exists_front (cs : List Char) : ∃ front rest, cs = front ++ rest ∧ Blank front ∧
    ∀ c ∈ rest.head?, isBlank c = false := by
  refine ⟨cs.takeWhile isBlank, cs.dropWhile isBlank, List.takeWhile_append_dropWhile.symm,
    fun _ => List.mem_takeWhile_imp, fun c hc => ?_⟩
  have hnot := List.head?_dropWhile_not isBlank cs
  rw [Option.mem_def.mp hc] at hnot
  exact hnot

theorem exists_back (cs : List Char) : ∃ rest back, cs = rest ++ back ∧ Blank back ∧
    ∀ c ∈ rest.getLast?, isBlank c = false := by
  obtain ⟨front, rest, hcut, hfront, hrest⟩ := exists_front cs.reverse
  refine ⟨rest.reverse, front.reverse, ?_, fun c hc => hfront c (List.mem_reverse.mp hc), ?_⟩
  · rw [← List.reverse_append, ← hcut, List.reverse_reverse]
  · rw [List.getLast?_reverse]
    exact hrest

/-- **Every text is a trimmed text between blank characters.** -/
theorem exists_trimmed (cs : List Char) : ∃ core, IsTrimmed core ∧ Padded core cs := by
  obtain ⟨front, rest, hcut, hfront, hrest⟩ := exists_front cs
  obtain ⟨core, back, rfl, hback, hcore⟩ := exists_back rest
  refine ⟨core, ⟨fun c hc => hrest c ?_, hcore⟩, front, back, hfront, hback, ?_⟩
  · rw [List.head?_append, Option.mem_def.mp hc]
    rfl
  · rw [hcut, List.append_assoc]

theorem padded_trimChars (cs : List Char) : Padded (trimChars cs) cs := by
  obtain ⟨core, trimmed, padded⟩ := exists_trimmed cs
  rwa [trimChars_padded trimmed padded]

theorem isTrimmed_trimChars (cs : List Char) : IsTrimmed (trimChars cs) := by
  obtain ⟨core, trimmed, padded⟩ := exists_trimmed cs
  rwa [trimChars_padded trimmed padded]

/-- **More padding makes no difference.** -/
theorem trimChars_of_padded (h : Padded cs padded) : trimChars padded = trimChars cs := by
  obtain ⟨before, after, hbefore, hafter, rfl⟩ := h
  obtain ⟨before', after', hbefore', hafter', hcs⟩ := padded_trimChars cs
  refine trimChars_padded (isTrimmed_trimChars cs) ⟨before ++ before', after' ++ after, ?_, ?_, ?_⟩
  · exact List.forall_mem_append.mpr ⟨hbefore, hbefore'⟩
  · exact List.forall_mem_append.mpr ⟨hafter', hafter⟩
  · calc before ++ cs ++ after
        = before ++ (before' ++ trimChars cs ++ after') ++ after := by rw [← hcs]
      _ = before ++ before' ++ trimChars cs ++ (after' ++ after) := by
        simp only [List.append_assoc]

theorem trimChars_eq_nil : trimChars cs = [] ↔ Blank cs := by
  constructor
  · intro h
    obtain ⟨before, after, hbefore, hafter, hcs⟩ := padded_trimChars cs
    rw [h, List.append_nil] at hcs
    rw [hcs]
    exact List.forall_mem_append.mpr ⟨hbefore, hafter⟩
  · intro h
    rw [trimChars, List.dropWhile_eq_nil_iff.mpr h]
    rfl

/-- Every other character of a padded text is one of the text. -/
theorem mem_of_mem_padded (hc : isBlank c = false) (h : Padded cs padded) (hmem : c ∈ padded) :
    c ∈ cs := by
  obtain ⟨before, after, hbefore, hafter, rfl⟩ := h
  rcases List.mem_append.mp hmem with hfront | hback
  · rcases List.mem_append.mp hfront with hblank | hcs
    · exact absurd (hbefore c hblank) (Bool.eq_false_iff.mp hc)
    · exact hcs
  · exact absurd (hafter c hback) (Bool.eq_false_iff.mp hc)

theorem subset_trimChars (cs : List Char) : trimChars cs ⊆ cs := by
  intro c hc
  obtain ⟨before, after, -, -, hcs⟩ := padded_trimChars cs
  rw [hcs]
  exact List.mem_append_left after (List.mem_append_right before hc)

/-! ### Two sides -/

/-- **Trimming around a character that is not blank** is trimming what stands before it at the
front, and what stands behind it at the back. -/
theorem exists_trimChars_append_cons (hc : isBlank c = false) (left right : List Char) :
    ∃ left' right', trimChars (left ++ c :: right) = left' ++ c :: right' ∧ left' ⊆ left ∧
      trimChars left' = trimChars left ∧ trimChars right' = trimChars right := by
  obtain ⟨front, left', rfl, hfront, hleft⟩ := exists_front left
  obtain ⟨right', back, rfl, hback, hright⟩ := exists_back right
  have trimmed : IsTrimmed (left' ++ c :: right') := by
    refine ⟨fun d hd => ?_, fun d hd => ?_⟩
    · rw [List.head?_append, List.head?_cons] at hd
      cases hhead : left'.head? with
      | none =>
        rw [hhead] at hd
        cases hd
        exact hc
      | some e =>
        rw [hhead] at hd
        cases hd
        exact hleft _ hhead
    · rw [List.getLast?_append, List.getLast?_cons] at hd
      cases hlast : right'.getLast? with
      | none =>
        rw [hlast] at hd
        cases hd
        exact hc
      | some e =>
        rw [hlast] at hd
        cases hd
        exact hright _ hlast
  have padded : Padded (left' ++ c :: right') (front ++ left' ++ c :: (right' ++ back)) :=
    ⟨front, back, hfront, hback, by simp only [List.append_assoc, List.cons_append]⟩
  refine ⟨left', right', trimChars_padded trimmed padded, List.subset_append_right _ _, ?_, ?_⟩
  · exact (trimChars_of_padded ⟨front, [], hfront, List.forall_mem_nil _, by simp⟩).symm
  · exact (trimChars_of_padded ⟨[], back, List.forall_mem_nil _, hback, rfl⟩).symm

end Text

end KafkaWire
