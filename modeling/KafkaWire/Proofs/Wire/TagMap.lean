import Mathlib.Data.List.Induction
import Mathlib.Data.List.Pairwise
import Mathlib.Data.List.Sort
import KafkaWire.Proofs.Wire.TagBuffer

/-!
# Tag buffers are ordered maps

A tag buffer is a list of fields, but it is used as a map from tags to data. The two views agree
as long as the tags strictly ascend: then a tag has at most one field, and the map determines the
list. Reading makes sure of the order. Inserting relies on it, because the place of a tag is found
by halving, and **keeps** it, so the order is never lost in any sequence of changes.

What inserting does is said once, without positions (`TagBuffer.insert_eq`): the field stands
between the fields of smaller tags and those of larger ones. Everything else follows from that.

Appending a field by `TagBuffer.push` is no change in this sense. It asks nothing of the tag, and
what it leaves behind may be out of order.

## Main definitions

* `TagBuffer.Ascending` — the tags strictly ascend
* `TagBuffer.Halved` — what is known of a tag when the search has come down to a range
* `TagBuffer.Change`, `TagBuffer.run` — a buffer that is inserted into and read over
* `TagBuffer.latest` — the data that a sequence of changes leaves under a tag

## Main results

* `TagBuffer.insert_eq` — what inserting does to an ascending buffer
* `TagBuffer.ext_get` — ascending buffers are equal if they hold the same data
* `TagBuffer.get_run` — looking up a tag after any changes
* `TagBuffer.orderedMap_of_changes` — all that makes a tag buffer an ordered map
-/

namespace KafkaWire

namespace TagBuffer

/-- The tags strictly ascend. -/
def Ascending (t : TagBuffer) : Prop := t.fields.Pairwise fun f g => f.tag < g.tag

theorem ascending_empty : Ascending {} := .nil

/-! ### Searching by halving -/

/-- A search for `tag` has come down to `size` positions from `base` on: whatever lies behind them
is above the tag, and unless nothing was passed over, the first of them is not. -/
structure Halved (fields : List TagField) (tag : UInt32) (base size : Nat) : Prop where
  size_pos : 0 < size
  le_length : base + size ≤ fields.length
  base_le : base = 0 ∨ ∀ field, fields[base]? = some field → field.tag ≤ tag
  lt_behind : ∀ i field, base + size ≤ i → fields[i]? = some field → tag < field.tag

section Search

variable {fields : List TagField} {tag : UInt32} {base size : Nat}
  (asc : fields.Pairwise fun f g => f.tag < g.tag)

include asc

/-- Positions in ascending fields are ordered as their tags. -/
theorem tag_le_of_le {i j : Nat} {f g : TagField} (hf : fields[i]? = some f)
    (hg : fields[j]? = some g) (hij : i ≤ j) : f.tag ≤ g.tag := by
  obtain ⟨hi, rfl⟩ := List.getElem?_eq_some_iff.mp hf
  obtain ⟨hj, rfl⟩ := List.getElem?_eq_some_iff.mp hg
  rcases Nat.eq_or_lt_of_le hij with rfl | hlt
  · exact UInt32.le_refl _
  · exact UInt32.le_of_lt (List.pairwise_iff_getElem.mp asc i j hi hj hlt)

/-- One comparison with the field in the middle leaves the lower or the upper part. -/
theorem Halved.step {middle : TagField} (h : Halved fields tag base size) (hsize : 1 < size)
    (hmiddle : fields[base + size / 2]? = some middle) :
    Halved fields tag (if tag < middle.tag then base else base + size / 2) (size - size / 2) := by
  have hle := h.le_length
  split
  · rename_i habove
    refine ⟨by omega, by omega, h.base_le, fun i field hi hfield => ?_⟩
    exact UInt32.lt_of_lt_of_le habove (tag_le_of_le asc hmiddle hfield (by omega))
  · rename_i hbelow
    refine ⟨by omega, by omega, .inr fun field hfield => ?_, fun i field hi hfield => ?_⟩
    · obtain rfl := Option.some.inj (hmiddle.symm.trans hfield)
      exact UInt32.not_lt.mp hbelow
    · exact h.lt_behind i field (by omega) hfield

/-- **The search ends at a single position** about which the same is known. -/
theorem Halved.seek (h : Halved fields tag base size) :
    Halved fields tag (seek fields tag base size) 1 := by
  fun_induction TagBuffer.seek fields tag base size with
  | case1 base size hsmall =>
    have hpos := h.size_pos
    obtain rfl : size = 1 := by omega
    exact h
  | case2 base size hlarge middle above ih =>
    have hle := h.le_length
    have hlt : middle < fields.length := by
      show base + size / 2 < fields.length
      omega
    have hmiddle : fields[middle]? = some fields[middle] := List.getElem?_eq_getElem hlt
    have hstep := h.step asc (by omega) hmiddle
    refine ih ?_
    simpa only [above, hmiddle, decide_eq_true_eq, dite_eq_ite] using hstep

/-- Where a tag belongs in fields that are not empty: the fields in front are below the one at the
position found, those behind are above the tag, and that one itself is above only if it is the
first. -/
theorem exists_cut_seek (tag : UInt32) (hne : fields ≠ []) : ∃ front field back,
    fields = front ++ field :: back ∧ TagBuffer.seek fields tag 0 fields.length = front.length ∧
      (front = [] ∨ field.tag ≤ tag) ∧ (∀ f ∈ front, f.tag < field.tag) ∧
      ∀ f ∈ back, tag < f.tag := by
  have hstart : Halved fields tag 0 fields.length :=
    ⟨List.length_pos_iff.mpr hne, by omega, .inl rfl, fun i field hi hfield => by
      rw [List.getElem?_eq_none (by omega)] at hfield
      cases hfield⟩
  have hend := hstart.seek asc
  generalize TagBuffer.seek fields tag 0 fields.length = position at hend ⊢
  have hlt : position < fields.length := hend.le_length
  have hcut : fields = fields.take position ++ fields[position] :: fields.drop (position + 1) := by
    rw [← List.drop_eq_getElem_cons hlt, List.take_append_drop]
  refine ⟨fields.take position, fields[position], fields.drop (position + 1), hcut, ?_, ?_, ?_, ?_⟩
  · rw [List.length_take_of_le (Nat.le_of_lt hlt)]
  · rcases hend.base_le with rfl | hbase
    · exact .inl rfl
    · exact .inr (hbase _ (List.getElem?_eq_getElem hlt))
  · rw [hcut, List.pairwise_append] at asc
    intro f hf
    exact asc.2.2 f hf _ List.mem_cons_self
  · intro f hf
    obtain ⟨i, hi, rfl⟩ := List.mem_iff_getElem.mp hf
    rw [List.length_drop] at hi
    refine hend.lt_behind (position + 1 + i) _ (by omega) ?_
    rw [List.getElem_drop]
    exact List.getElem?_eq_getElem _

end Search

/-! ### Inserting -/

/-- Inserting behind a front of known length. -/
theorem insertIdx_append_length {α : Type} (front back : List α) (x : α) :
    (front ++ back).insertIdx front.length x = front ++ x :: back := by
  induction front with
  | nil => exact List.insertIdx_zero
  | cons a front ih =>
    rw [List.cons_append, List.length_cons, List.insertIdx_succ_cons, ih, List.cons_append]

/-- Fields that are cut at a tag are those below it, those with it and those above it. -/
theorem filter_of_cut {tag : UInt32} {front middle back : List TagField}
    (hfront : ∀ f ∈ front, f.tag < tag) (hmiddle : ∀ f ∈ middle, f.tag = tag)
    (hback : ∀ f ∈ back, tag < f.tag) :
    (front ++ (middle ++ back)).filter (·.tag < tag) = front ∧
      (front ++ (middle ++ back)).filter (tag < ·.tag) = back := by
  have hkeep : front.filter (·.tag < tag) = front ∧ back.filter (tag < ·.tag) = back :=
    ⟨List.filter_eq_self.mpr (by simpa using hfront),
      List.filter_eq_self.mpr (by simpa using hback)⟩
  have hdrop : front.filter (tag < ·.tag) = [] ∧ middle.filter (·.tag < tag) = [] ∧
      middle.filter (tag < ·.tag) = [] ∧ back.filter (·.tag < tag) = [] := by
    refine ⟨List.filter_eq_nil_iff.mpr fun f hf => ?_, List.filter_eq_nil_iff.mpr fun f hf => ?_,
      List.filter_eq_nil_iff.mpr fun f hf => ?_, List.filter_eq_nil_iff.mpr fun f hf => ?_⟩
    · simpa using UInt32.le_of_lt (hfront f hf)
    · simp [hmiddle f hf]
    · simp [hmiddle f hf]
    · simpa using UInt32.le_of_lt (hback f hf)
  simp only [List.filter_append, hkeep, hdrop, List.nil_append, List.append_nil, and_self]

/-- **What inserting does.** The new field stands between the fields below its tag and those above
it; a field with the same tag is gone. -/
theorem insert_eq {t : TagBuffer} (asc : t.Ascending) (tag : UInt32) (data : Bytes) :
    t.insert tag data =
      ⟨t.fields.filter (·.tag < tag) ++ ⟨tag, data⟩ :: t.fields.filter (tag < ·.tag)⟩ := by
  obtain ⟨fields⟩ := t
  by_cases hne : fields = []
  · subst hne
    rfl
  · obtain ⟨front, field, back, rfl, hposition, hbase, hfront, hback⟩ :=
      exists_cut_seek asc tag hne
    have hfield : (front ++ field :: back)[front.length]? = some field := by simp
    simp only [insert, hposition, hfield]
    split
    · -- the tag is there
      rename_i htag
      subst htag
      have hcut := filter_of_cut hfront (List.forall_mem_singleton.mpr rfl) hback
      rw [List.singleton_append] at hcut
      rw [hcut.1, hcut.2, List.set_append_right _ _ (Nat.le_refl _), Nat.sub_self,
        List.set_cons_zero]
    · split
      · -- the tag belongs behind the field found
        rename_i hlt
        have hbelow : ∀ f ∈ front ++ [field], f.tag < tag := by
          intro f hf
          rcases List.mem_append.mp hf with hf | hf
          · exact UInt32.lt_trans (hfront f hf) hlt
          · rw [List.mem_singleton.mp hf]
            exact hlt
        have hcut := filter_of_cut hbelow (List.forall_mem_nil _) hback
        have hinsert := insertIdx_append_length (front ++ [field]) back ⟨tag, data⟩
        simp only [List.nil_append, List.append_assoc, List.singleton_append, List.length_append,
          List.length_singleton] at hcut hinsert
        rw [hcut.1, hcut.2, hinsert, List.append_assoc, List.singleton_append]
      · -- all fields are above the tag
        rename_i hne hnlt
        have habove : tag < field.tag :=
          (UInt32.lt_or_lt_of_ne hne).resolve_left hnlt
        obtain rfl : front = [] :=
          hbase.resolve_right (UInt32.not_le.mpr habove)
        have hbehind : ∀ f ∈ field :: back, tag < f.tag := by
          intro f hf
          rcases List.mem_cons.mp hf with rfl | hf
          · exact habove
          · exact hback f hf
        have hcut := filter_of_cut (List.forall_mem_nil _) (List.forall_mem_nil _) hbehind
        rw [List.nil_append, List.nil_append] at hcut
        rw [List.nil_append, hcut.1, hcut.2]
        rfl

/-! ### Fields and what they hold -/

/-- No two fields have the same tag. -/
theorem Ascending.eq_of_tag_eq {t : TagBuffer} (asc : t.Ascending) {f g : TagField}
    (hf : f ∈ t.fields) (hg : g ∈ t.fields) (htag : f.tag = g.tag) : f = g := by
  by_contra hne
  have hdistinct : t.fields.Pairwise fun f g => f.tag ≠ g.tag := asc.imp UInt32.ne_of_lt
  have : Std.Symm fun f g : TagField => f.tag ≠ g.tag := ⟨fun _ _ h => h.symm⟩
  exact hdistinct.forall hf hg hne htag

/-- The data under a tag are those of the field that has it. -/
theorem Ascending.get_eq_some {t : TagBuffer} (asc : t.Ascending) {tag : UInt32} {data : Bytes} :
    t.get? tag = some data ↔ ⟨tag, data⟩ ∈ t.fields := by
  rw [get?, Option.map_eq_some_iff]
  constructor
  · rintro ⟨field, hfind, rfl⟩
    have htag : field.tag = tag := by simpa using List.find?_some hfind
    rw [← htag]
    exact List.mem_of_find?_eq_some hfind
  · intro hmem
    have hsome : (t.fields.find? (·.tag == tag)).isSome = true :=
      List.find?_isSome.mpr ⟨_, hmem, beq_self_eq_true tag⟩
    obtain ⟨field, hfind⟩ := Option.isSome_iff_exists.mp hsome
    have htag : field.tag = tag := by simpa using List.find?_some hfind
    have hfield : field = ⟨tag, data⟩ :=
      asc.eq_of_tag_eq (List.mem_of_find?_eq_some hfind) hmem htag
    exact ⟨field, hfind, congrArg TagField.data hfield⟩

instance : Std.Irrefl fun f g : TagField => f.tag < g.tag :=
  ⟨fun f => UInt32.lt_irrefl f.tag⟩

instance : Std.Antisymm fun f g : TagField => f.tag < g.tag :=
  ⟨fun _ _ h h' => absurd h' (UInt32.lt_asymm h)⟩

/-- **The map determines the list.** Ascending buffers that hold the same data are equal. -/
theorem ext_get {t t' : TagBuffer} (asc : t.Ascending) (asc' : t'.Ascending)
    (h : ∀ tag, t.get? tag = t'.get? tag) : t = t' := by
  have hmem : ∀ field, field ∈ t.fields ↔ field ∈ t'.fields := by
    rintro ⟨tag, data⟩
    rw [← asc.get_eq_some, ← asc'.get_eq_some, h tag]
  have hfields : t.fields = t'.fields := List.Pairwise.eq_of_mem_iff asc asc' hmem
  cases t
  cases t'
  exact congrArg TagBuffer.mk hfields

/-! ### One change -/

section Insert

variable {t : TagBuffer} (asc : t.Ascending) (tag : UInt32) (data : Bytes)

include asc

theorem ascending_insert : (t.insert tag data).Ascending := by
  rw [insert_eq asc]
  refine List.pairwise_append.mpr ⟨asc.filter _, List.pairwise_cons.mpr ⟨?_, asc.filter _⟩, ?_⟩
  · intro g hg
    simpa using (List.mem_filter.mp hg).2
  · intro f hf g hg
    have hlt : f.tag < tag := by simpa using (List.mem_filter.mp hf).2
    rcases List.mem_cons.mp hg with rfl | hg
    · exact hlt
    · exact UInt32.lt_trans hlt (by simpa using (List.mem_filter.mp hg).2)

theorem mem_insert {field : TagField} : field ∈ (t.insert tag data).fields ↔
    field = ⟨tag, data⟩ ∨ field ∈ t.fields ∧ field.tag ≠ tag := by
  have hne : field.tag ≠ tag ↔ field.tag < tag ∨ tag < field.tag :=
    ⟨UInt32.lt_or_lt_of_ne, fun h => h.elim UInt32.ne_of_lt fun h' => (UInt32.ne_of_lt h').symm⟩
  rw [insert_eq asc, hne]
  simp only [List.mem_append, List.mem_cons, List.mem_filter, decide_eq_true_eq]
  tauto

theorem get_insert (other : UInt32) :
    (t.insert tag data).get? other = if other = tag then some data else t.get? other := by
  ext found
  rw [(ascending_insert asc tag data).get_eq_some, mem_insert asc]
  split
  · rename_i heq
    simp [heq, eq_comm]
  · rename_i hne
    rw [asc.get_eq_some]
    simp [hne]

/-- **Inserting changes no other field**, nor the order of the others. -/
theorem filter_insert : (t.insert tag data).fields.filter (·.tag ≠ tag) =
    t.fields.filter (·.tag ≠ tag) := by
  refine List.Pairwise.eq_of_mem_iff ((ascending_insert asc tag data).filter _) (asc.filter _) ?_
  intro field
  rw [List.mem_filter, List.mem_filter, mem_insert asc]
  constructor
  · rintro ⟨rfl | ⟨hmem, -⟩, hne⟩
    · simp at hne
    · exact ⟨hmem, hne⟩
  · rintro ⟨hmem, hne⟩
    exact ⟨.inr ⟨hmem, by simpa using hne⟩, hne⟩

end Insert

theorem ascending_of_read {t : TagBuffer} {bs rest : Bytes} (h : read bs = .ok (t, rest)) :
    t.Ascending :=
  (read_sound h).ascending

/-! ### Any changes -/

/-- A change that keeps a tag buffer in order. -/
inductive Change
  | insert (tag : UInt32) (data : Bytes)
  /-- What is read from the front of some bytes takes the place of the buffer, if it can be read. -/
  | read (bs : Bytes)
  deriving DecidableEq, Repr

/-- The buffer after a change. -/
def Change.apply (t : TagBuffer) : Change → TagBuffer
  | .insert tag data => t.insert tag data
  | .read bs =>
    match TagBuffer.read bs with
    | .ok (t', _) => t'
    | .error _ => t

/-- The buffer after some changes, at first empty. -/
def run (changes : List Change) : TagBuffer := changes.foldl Change.apply {}

/-- The data that changes, **the latest first**, leave under a tag: those inserted last since a
buffer was read, or else those in the buffer read last, if any was. -/
def latest (tag : UInt32) : List Change → Option Bytes
  | [] => none
  | .insert inserted data :: earlier => if tag = inserted then some data else latest tag earlier
  | .read bs :: earlier =>
    match TagBuffer.read bs with
    | .ok (t, _) => t.get? tag
    | .error _ => latest tag earlier

theorem run_concat (changes : List Change) (change : Change) :
    run (changes ++ [change]) = change.apply (run changes) := by
  rw [run, List.foldl_append]
  rfl

/-- One change keeps the order. -/
theorem Ascending.apply {t : TagBuffer} (asc : t.Ascending) (change : Change) :
    (change.apply t).Ascending := by
  cases change with
  | insert tag data => exact ascending_insert asc tag data
  | read bs =>
    rw [Change.apply]
    split
    · exact ascending_of_read ‹_›
    · exact asc

/-- **The order is never lost.** -/
theorem ascending_run (changes : List Change) : (run changes).Ascending := by
  induction changes using List.reverseRecOn with
  | nil => exact ascending_empty
  | append_singleton changes change ih =>
    rw [run_concat]
    exact ih.apply change

/-- **Looking up a tag finds what was last put there.** -/
theorem get_run (changes : List Change) (tag : UInt32) :
    (run changes).get? tag = latest tag changes.reverse := by
  induction changes using List.reverseRecOn with
  | nil => rfl
  | append_singleton changes change ih =>
    rw [run_concat, List.reverse_append, List.reverse_singleton, List.singleton_append]
    cases change with
    | insert inserted data =>
      rw [Change.apply, get_insert (ascending_run changes), latest, ih]
    | read bs =>
      rw [Change.apply, latest]
      split
      · rfl
      · exact ih

/-- **A tag buffer is an ordered map**, whatever was inserted into it and read over it: its tags
ascend, a tag has the data that were last put under it, and inserting leaves all other fields
alone. Changes that leave the same data leave the same buffer, in whatever order they came, and a
buffer within the limits is written and read back in front of anything. -/
theorem orderedMap_of_changes (changes : List Change) :
    (run changes).Ascending ∧
    (∀ tag, (run changes).get? tag = latest tag changes.reverse) ∧
    (∀ tag data, ((run changes).insert tag data).fields.filter (·.tag ≠ tag) =
      (run changes).fields.filter (·.tag ≠ tag)) ∧
    (∀ others, (∀ tag, latest tag others.reverse = latest tag changes.reverse) →
      run others = run changes) ∧
    ((run changes).fields.length ≤ maxItems →
      (∀ field ∈ (run changes).fields, field.data.length < UInt32.size) →
      ∃ out, (run changes).write.encode = .ok out ∧
        ∀ rest, read (out ++ rest) = .ok (run changes, rest)) := by
  have asc := ascending_run changes
  refine ⟨asc, get_run changes, filter_insert asc, fun others h => ?_, fun hsize hdata => ?_⟩
  · refine ext_get (ascending_run others) asc fun tag => ?_
    rw [get_run, get_run, h tag]
  · have hwrites : (run changes).write.Writes (run changes).write.bytes :=
      ⟨fault_write (run changes), rfl⟩
    exact ⟨_, Output.encode_eq_ok.mpr hwrites, read_write ⟨hsize, asc, hdata⟩ hwrites⟩

/-- A buffer that is read takes the place of what was there, a failed reading does nothing, and in
the end the same could have been inserted in another order. -/
theorem orderedMap_of_changes_replaced :
    let changes : List Change :=
      [.insert 9 [1], .read [2, 0, 1, 7, 3, 0], .insert 2 [8], .read [1, 0], .insert 0 []]
    let others : List Change := [.insert 3 [], .insert 0 [4], .insert 2 [8], .insert 0 []]
    let t : TagBuffer := ⟨[⟨0, []⟩, ⟨2, [8]⟩, ⟨3, []⟩]⟩
    run changes = t ∧ (run changes).Ascending ∧ (run changes).get? 9 = none ∧
      run others = run changes ∧
      ∃ out, t.write.encode = .ok out ∧ ∀ rest, read (out ++ rest) = .ok (t, rest) := by
  intro changes others t
  have hrun : run changes = t := by decide +kernel
  have hread : read [2, 0, 1, 7, 3, 0] = .ok (⟨[⟨0, [7]⟩, ⟨3, []⟩]⟩, []) := rfl
  have hfail : read [1, 0] = .error .insufficientData := rfl
  have hsame : ∀ tag, latest tag others.reverse = latest tag changes.reverse := by
    intro tag
    by_cases h0 : tag = 0
    · simp [others, changes, latest, h0]
    by_cases h2 : tag = 2
    · simp [others, changes, latest, h2, hfail]
    by_cases h3 : tag = 3
    · simp [others, changes, latest, h3, hread, hfail, get?]
    · simp [others, changes, latest, h0, h2, h3, hread, hfail, get?, Ne.symm h0, Ne.symm h3]
  obtain ⟨asc, lookup, -, unique, encoded⟩ := orderedMap_of_changes changes
  have hmissing : (run changes).get? 9 = none := by
    rw [lookup]
    rfl
  rw [hrun] at encoded
  exact ⟨hrun, asc, hmissing, unique others hsame, encoded (by decide) (by decide)⟩

end TagBuffer

end KafkaWire
