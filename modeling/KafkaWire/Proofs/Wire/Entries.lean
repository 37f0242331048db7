import KafkaWire.Proofs.Wire.Exact
import KafkaWire.Proofs.Wire.Format

/-!
# Every entry is paid for

The number of elements of an array, and that of the fields of a tag buffer, is announced before
anything of them is read, and the announcement costs nothing. So a few bytes could announce a value
that takes a lot of memory, and values in it could do so again. They cannot: **reading takes at
least one byte for each entry** of the arrays and tag buffers in a value, at any depth, besides
those for the numbers in front.

An element of an array that holds arrays itself must pay twice, for being one and for what is in
it. What makes up for the first is something in it that always takes a byte more than its own
entries, such as a number, a text, or the count of an array. Formats and types that have such a
part are called solid.

## Main definitions

* `Reader.Takes` — how many bytes reading takes at least
* `Paid`, `Reader.Frugal` — the same besides one byte for each entry
* `Format.lengths` — how many entries the arrays and tag buffers in a value have
* `Format.isSolid`, `Format.isBare` — what a format must be like

## Main results

* `Format.isSolid_of_leavesTrace` — formats that leave a trace on the wire are solid
* `Primitive.frugal_read`, `Format.frugal_read` — reading takes a byte for each entry
-/

namespace KafkaWire

/-- The sum of some lengths. -/
def total (lengths : List Nat) : Nat := lengths.foldr (· + ·) 0

@[simp] theorem total_nil : total [] = 0 := rfl

@[simp] theorem total_cons (n : Nat) (ns : List Nat) : total (n :: ns) = n + total ns := rfl

@[simp] theorem total_append (ms ns : List Nat) : total (ms ++ ns) = total ms + total ns := by
  induction ms with
  | nil => simp
  | cons m ms ih => rw [List.cons_append, total_cons, total_cons, ih, Nat.add_assoc]

theorem total_eq_zero {ns : List Nat} (h : ∀ n ∈ ns, n = 0) : total ns = 0 := by
  induction ns with
  | nil => rfl
  | cons n ns ih =>
    rw [total_cons, h n List.mem_cons_self, ih fun m hm => h m (List.mem_cons_of_mem n hm)]

/-- A byte of one part or of another is covered by the bytes of both. -/
theorem toNat_or_le (a b : Bool) : (a || b).toNat ≤ a.toNat + b.toNat := by
  cases a <;> cases b <;> decide

namespace Reader

variable {α β : Type}

/-! ### Bytes taken -/

/-- Reading takes at least so many bytes. -/
def Takes (r : Reader α) (least : Nat) : Prop :=
  ∀ ⦃bs rest a⦄, r bs = .ok (a, rest) → least + rest.length ≤ bs.length

theorem takes_pure (a : α) : (pure a : Reader α).Takes 0 := by
  intro bs rest b h
  cases h
  exact Nat.le_of_eq (Nat.zero_add _)

theorem takes_throw (e : Error) (least : Nat) : (throw e : Reader α).Takes least := by
  intro bs rest a h
  cases h

theorem Takes.bind {r : Reader α} {f : α → Reader β} {m n : Nat} (hr : r.Takes m)
    (hf : ∀ a, (f a).Takes n) : (r >>= f).Takes (m + n) := by
  intro bs rest b h
  obtain ⟨a, mid, ha, hb⟩ := bind_eq_ok.mp h
  have hfront := hr ha
  have hback := hf a hb
  omega

theorem Takes.mono {r : Reader α} {m n : Nat} (hr : r.Takes n) (hle : m ≤ n) : r.Takes m := by
  intro bs rest a h
  have hfront := hr h
  omega

/-- What follows takes nothing back. -/
theorem Takes.andThen {r : Reader α} {f : α → Reader β} {n : Nat} (hr : r.Takes n)
    (hf : ∀ a, (f a).Takes 0) : (r >>= f).Takes n := hr.bind hf

theorem Takes.map {r : Reader α} {n : Nat} (hr : r.Takes n) (f : α → β) :
    (r >>= fun a => pure (f a)).Takes n :=
  hr.andThen fun a => takes_pure (f a)

theorem takes_takeExactly (n : Nat) : (takeExactly n).Takes n := by
  intro bs rest taken h
  have hlength := congrArg List.length (takeExactly_eq_ok h)
  rw [List.length_append, taken.property] at hlength
  omega

theorem takes_take (n : Nat) : (take n).Takes n := (takes_takeExactly n).map _

/-- Integers of all widths are computed from bytes taken. -/
theorem takes_fixed (width : Nat) (ofBits : Bytes → α) :
    (do return ofBits (← take width) : Reader α).Takes width :=
  (takes_take width).map ofBits

theorem takes_bool : bool.Takes 1 := by
  refine Takes.andThen (takes_fixed 1 _) fun b => ?_
  split
  · exact takes_pure false
  · exact takes_pure true
  · exact takes_throw .invalidBool 0

/-- Nothing is spelled by no bytes. -/
theorem takes_uvarint : uvarint.Takes 1 := by
  intro bs rest n h
  obtain ⟨front, rfl, hfront⟩ := exists_spells_of_uvarint h
  cases front with
  | nil =>
    have hnil : uvarint [] = .ok (n, []) := hfront []
    cases hnil
  | cons b front =>
    rw [List.length_append, List.length_cons]
    omega

theorem takes_uvarint32 : uvarint32.Takes 1 :=
  fun _ _ _ h => takes_uvarint (uvarint_of_uvarint32 h)

end Reader

/-! ### Lengths, texts and byte strings -/

namespace Length

theorem takes_readNumber (what : Counted) (form : Form) : (readNumber what form).Takes 1 := by
  cases form with
  | compact => exact Reader.takes_uvarint.map _
  | classic =>
    cases what with
    | text => exact ((Reader.takes_fixed 2 _).map _).mono (by decide)
    | items | data => exact ((Reader.takes_fixed 4 _).map _).mono (by decide)

theorem takes_read (what : Counted) (form : Form) : (read what form).Takes 1 := by
  intro bs rest length h
  cases length with
  | none => exact takes_readNumber what form (readNumber_of_readNull h)
  | some n => exact takes_readNumber what form (readNumber_of_read h).1

theorem takes_readPresent (what : Counted) (form : Form) : (readPresent what form).Takes 1 :=
  fun _ _ _ h => takes_read what form (read_of_readPresent h)

end Length

namespace Primitive

theorem takes_takeText (length : Nat) : (takeText length).Takes length := by
  refine Reader.Takes.andThen (Reader.takes_take length) fun taken => ?_
  cases String.fromUTF8? taken.toByteArray with
  | none => exact Reader.takes_throw .invalidUtf8 0
  | some s => exact Reader.takes_pure s

end Primitive

/-! ### Entries -/

/-- The bytes from a place in the input, with `before` of them left, to another, with `after` of
them left, pay for arrays and tag buffers of these lengths: none has too many entries, and there
are at least so many bytes and, besides, one for each entry. -/
structure Paid (lengths : List Nat) (least before after : Nat) : Prop where
  limit : ∀ n ∈ lengths, n ≤ maxItems
  le : least + total lengths + after ≤ before

namespace Paid

variable {lengths more : List Nat} {m n before mid after : Nat}

theorem nil (hle : n + after ≤ before) : Paid [] n before after where
  limit := List.forall_mem_nil _
  le := hle

/-- Bytes that follow each other pay for what each of them pay for. -/
theorem append (hfront : Paid lengths m before mid) (hback : Paid more n mid after) :
    Paid (lengths ++ more) (m + n) before after where
  limit := List.forall_mem_append.mpr ⟨hfront.limit, hback.limit⟩
  le := by
    have hfront_le := hfront.le
    have hback_le := hback.le
    rw [total_append]
    omega

theorem mono (h : Paid lengths n before after) (hle : m ≤ n) : Paid lengths m before after where
  limit := h.limit
  le := by
    have hpaid := h.le
    omega

/-- Empty arrays and tag buffers cost nothing. -/
theorem of_eq_zero (hempty : ∀ k ∈ lengths, k = 0) (hle : n + after ≤ before) :
    Paid lengths n before after where
  limit := fun k hk => Nat.le_trans (Nat.le_of_eq (hempty k hk)) (Nat.zero_le _)
  le := by
    rw [total_eq_zero hempty]
    exact hle

end Paid

namespace Reader

variable {α β : Type}

/-- Reading takes at least so many bytes and, besides, one for each entry of the arrays and tag
buffers in the value, none of which has too many. -/
def Frugal (r : Reader α) (least : Nat) (lengths : α → List Nat) : Prop :=
  ∀ ⦃bs rest a⦄, r bs = .ok (a, rest) → Paid (lengths a) least bs.length rest.length

/-- Values without entries. -/
theorem Takes.frugal {r : Reader α} {least : Nat} {lengths : α → List Nat} (hr : r.Takes least)
    (hnone : ∀ a, lengths a = []) : r.Frugal least lengths := by
  intro bs rest a h
  rw [hnone a]
  exact .nil (hr h)

/-- A run of values takes what each of them takes. -/
theorem Frugal.count {r : Reader α} {least : Nat} {lengths : α → List Nat}
    (hr : r.Frugal least lengths) (n : Nat) :
    (count n r).Frugal (n * least) (List.flatMap lengths) := by
  intro bs rest as h
  induction n generalizing bs as with
  | zero =>
    cases h
    exact .nil (by simp)
  | succ n ih =>
    obtain ⟨a, mid, tail, ha, htail, rfl⟩ := count_succ_eq_ok h
    rw [List.flatMap_cons, Nat.succ_mul, Nat.add_comm]
    exact (hr ha).append (ih htail)

/-- **An array of elements that take a byte besides their entries.** This byte is the one for the
element itself, and the count takes one that is to spare. -/
theorem Frugal.items {r : Reader α} {lengths : α → List Nat} (hr : r.Frugal 1 lengths)
    {form : Form} {n : Nat} {bs mid rest : Bytes} {as : List α}
    (hcount : Length.read .items form bs = .ok (some n, mid))
    (h : Reader.count n r mid = .ok (as, rest)) :
    Paid (as.length :: as.flatMap lengths) 1 bs.length rest.length := by
  have hlimit := (Length.readNumber_of_read hcount).2
  have htaken := Length.takes_read .items form hcount
  obtain ⟨hlengths, hle⟩ := hr.count n h
  rw [length_of_count h]
  refine ⟨List.forall_mem_cons.mpr ⟨hlimit, hlengths⟩, ?_⟩
  rw [total_cons]
  omega

end Reader

/-! ### Tag buffers -/

namespace TagBuffer

/-- A tag and a size take a byte each. -/
theorem takes_readField (last : Option UInt32) : (readField last).Takes 2 := by
  intro bs rest field h
  obtain ⟨size, mid, mid', htag, hsize, hdata, -⟩ := readField_eq_ok h
  have htag_le := Reader.takes_uvarint32 htag
  have hsize_le := Reader.takes_uvarint32 hsize
  have hdata_le := Reader.takes_take _ hdata
  omega

theorem takes_readFieldsInto (n : Nat) (done : List TagField) :
    Reader.Takes (readFieldsInto n done) (2 * n) := by
  intro bs rest fields h
  induction n generalizing done bs with
  | zero =>
    cases h
    omega
  | succ n ih =>
    obtain ⟨field, mid, hfield, hrun⟩ := readFieldsInto_succ_eq_ok h
    have hfield_le := takes_readField _ hfield
    have hrun_le := ih (field :: done) hrun
    omega

/-- The fields are the entries of a tag buffer. -/
theorem frugal_read : read.Frugal 1 fun t => [t.fields.length] := by
  intro bs rest t h
  have hlimit := (read_sound h).size_le
  obtain ⟨count, mid, hcount, -, hfields⟩ := read_eq_ok h
  have hcount_le := Reader.takes_uvarint hcount
  have hfields_le := takes_readFieldsInto _ _ hfields
  have hlength := (readFieldsInto_sound .nil (fun f hf => absurd hf List.not_mem_nil) hfields).1
  rw [List.length_nil] at hlength
  refine ⟨by simpa using hlimit, ?_⟩
  rw [total_cons, total_nil]
  omega

end TagBuffer

/-! ### Primitive types -/

namespace Primitive

/-- The number of entries, if the value has any. -/
def Kind.lengths : (kind : Kind) → kind.Carrier → List Nat
  | .tagBuffer, t => [t.fields.length]
  | _, _ => []

theorem takes_readNullable {α : Type} {take : Nat → Reader α} (htake : ∀ n, (take n).Takes n)
    (what : Counted) (form : Form) : (readNullable what form take).Takes 1 := by
  refine Reader.Takes.andThen (Length.takes_read what form) fun length => ?_
  cases length with
  | none => exact Reader.takes_pure none
  | some n => exact ((htake n).map some).mono (Nat.zero_le n)

/-- **Primitive values take a byte**, and those that have entries one more for each of them. -/
theorem frugal_read (p : Primitive) : p.read.Frugal 1 p.kind.lengths := by
  have hpresent {α : Type} {take : Nat → Reader α} (htake : ∀ n, (take n).Takes n)
      (what : Counted) (form : Form) : (Length.readPresent what form >>= take).Takes 1 :=
    (Length.takes_readPresent what form).andThen fun n => (htake n).mono (Nat.zero_le n)
  cases p with
  | tagBuffer => exact TagBuffer.frugal_read
  | bool => exact Reader.takes_bool.frugal fun _ => rfl
  | int8 => exact (Reader.takes_fixed 1 _).frugal fun _ => rfl
  | int16 => exact ((Reader.takes_fixed 2 _).mono (by decide)).frugal fun _ => rfl
  | int32 => exact ((Reader.takes_fixed 4 _).mono (by decide)).frugal fun _ => rfl
  | int64 => exact ((Reader.takes_fixed 8 _).mono (by decide)).frugal fun _ => rfl
  | uvarint => exact Reader.takes_uvarint.frugal fun _ => rfl
  | varint => exact (Reader.takes_uvarint.map _).frugal fun _ => rfl
  | uuid => exact ((Reader.takes_takeExactly 16).mono (by decide)).frugal fun _ => rfl
  | string form => exact (hpresent takes_takeText .text form).frugal fun _ => rfl
  | nullableString form => exact (takes_readNullable takes_takeText .text form).frugal fun _ => rfl
  | bytes form => exact (hpresent Reader.takes_take .data form).frugal fun _ => rfl
  | nullableBytes form =>
    exact (takes_readNullable Reader.takes_take .data form).frugal fun _ => rfl
  | messageSet => exact (takes_readNullable Reader.takes_take .data .classic).frugal fun _ => rfl

end Primitive

/-! ### Formats -/

namespace Format

variable {α : Type}

/-- The lengths of the arrays and tag buffers in a value, at any depth. Parts that are not on the
wire are counted like all others. -/
def lengths {α : Type} : Format α → α → List Nat
  | .primitive p, x => p.kind.lengths x
  | .array _ items, xs => xs.length :: xs.flatMap items.lengths
  | .nullableArray _ _, none => []
  | .nullableArray _ items, some xs => xs.length :: xs.flatMap items.lengths
  | .pair first second, (x, y) => first.lengths x ++ second.lengths y
  | .onlyIf _ part _, x => part.lengths x
  | .required _ _, none => []
  | .required part _, some x => part.lengths x
  | .record _ fields _ _ parts, x => parts.lengths (fields x)

/-- Whether every value has a part on the wire that is primitive or an array. -/
def isSolid {α : Type} : Format α → Bool
  | .primitive _ => true
  | .array _ _ => true
  | .nullableArray _ _ => true
  | .pair first second => first.isSolid || second.isSolid
  | .onlyIf present part _ => present && part.isSolid
  | .required part _ => part.isSolid
  | .record _ _ _ _ parts => parts.isSolid

/-- Whether what reading puts in place of a part that is not on the wire has no entries. -/
def isBare {α : Type} : Format α → Bool
  | .primitive _ => true
  | .array _ items => items.isBare
  | .nullableArray _ items => items.isBare
  | .pair first second => first.isBare && second.isBare
  | .onlyIf _ part absent => (part.lengths absent).all (· = 0) && part.isBare
  | .required part _ => part.isBare
  | .record _ _ _ _ parts => parts.isBare

/-- A format that is not solid has a value that is written as no bytes at all. -/
theorem exists_writes_nil {f : Format α} (h : f.isSolid = false) : ∃ x, (f.write x).Writes [] := by
  induction f with
  | primitive p => cases h
  | array form items ih => cases h
  | nullableArray form items ih => cases h
  | pair first second ih₁ ih₂ =>
    obtain ⟨hfirst, hsecond⟩ := Bool.or_eq_false_iff.mp h
    obtain ⟨x, hx⟩ := ih₁ hfirst
    obtain ⟨y, hy⟩ := ih₂ hsecond
    exact ⟨(x, y), hx.append hy⟩
  | onlyIf present part absent ih =>
    cases present with
    | true => exact ih h
    | false => exact ⟨absent, Output.writes_empty.mpr rfl⟩
  | required part empty ih =>
    obtain ⟨x, hx⟩ := ih h
    exact ⟨some x, hx⟩
  | record make fields hfields hmake parts ih =>
    obtain ⟨x, hx⟩ := ih h
    refine ⟨make x, ?_⟩
    rw [write, hfields]
    exact hx

theorem isSolid_of_leavesTrace {f : Format α} (h : f.LeavesTrace) : f.isSolid = true := by
  cases hsolid : f.isSolid with
  | true => rfl
  | false =>
    obtain ⟨x, hx⟩ := exists_writes_nil hsolid
    exact absurd hx (h x)

/-- **Reading a format takes a byte for each entry**, and one more if the format is solid. -/
theorem frugal_read {f : Format α} (countable : f.Countable) (bare : f.isBare = true) :
    f.read.Frugal f.isSolid.toNat f.lengths := by
  induction f with
  | primitive p => exact p.frugal_read
  | array form items ih =>
    intro bs rest xs h
    have hitems := ih countable.2 bare
    rw [isSolid_of_leavesTrace countable.1] at hitems
    obtain ⟨length, mid, hlength, h⟩ := Reader.bind_eq_ok.mp h
    cases length with
    | none =>
      cases h
      exact .of_eq_zero (by simp [lengths]) (Length.takes_read .items form hlength)
    | some n => exact hitems.items hlength h
  | nullableArray form items ih =>
    intro bs rest xs h
    have hitems := ih countable.2 bare
    rw [isSolid_of_leavesTrace countable.1] at hitems
    obtain ⟨length, mid, hlength, h⟩ := Reader.bind_eq_ok.mp h
    cases length with
    | none =>
      cases h
      exact .nil (Length.takes_read .items form hlength)
    | some n =>
      obtain ⟨ys, hys, rfl⟩ := Reader.bind_pure_eq_ok.mp h
      exact hitems.items hlength hys
  | pair first second ih₁ ih₂ =>
    rintro bs rest ⟨x, y⟩ h
    obtain ⟨hfirst, hsecond⟩ := Bool.and_eq_true_iff.mp bare
    obtain ⟨x', mid, hx, h⟩ := Reader.bind_eq_ok.mp h
    obtain ⟨y', hy, hpair⟩ := Reader.bind_pure_eq_ok.mp h
    cases hpair
    have hpaid := (ih₁ countable.1 hfirst hx).append (ih₂ countable.2 hsecond hy)
    exact hpaid.mono (toNat_or_le first.isSolid second.isSolid)
  | onlyIf present part absent ih =>
    obtain ⟨habsent, hpart⟩ := Bool.and_eq_true_iff.mp bare
    cases present with
    | true => exact ih countable hpart
    | false =>
      intro bs rest x h
      cases h
      have hempty : ∀ n ∈ part.lengths absent, n = 0 := by simpa using habsent
      exact .of_eq_zero hempty (Nat.le_of_eq (Nat.zero_add _))
  | required part empty ih =>
    intro bs rest x h
    obtain ⟨y, hy, rfl⟩ := Reader.bind_pure_eq_ok.mp h
    exact ih countable bare hy
  | record make fields hfields hmake parts ih =>
    intro bs rest x h
    obtain ⟨y, hy, rfl⟩ := Reader.bind_pure_eq_ok.mp h
    rw [lengths, hfields]
    exact ih countable bare hy

end Format

end KafkaWire
