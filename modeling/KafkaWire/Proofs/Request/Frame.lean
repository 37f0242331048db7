import KafkaWire.Proofs.Truncation
import KafkaWire.Proofs.Wire.Exact
import KafkaWire.Request.Frame

/-!
# Request frames

A frame is read twice. Its first eight bytes are read alone, to route it, and then it is read as a
whole. The two readings have to agree on the length, the key and the version, whatever the bytes,
and they do because both begin with the same reader (`FrameHead.reader_eq_ok`) and because a body
keeps the key and version that it was selected for (`Request.readBody_eq`).

In front of a frame stands its own length, so a frame need not be parsed to know that it was cut
short or has something behind it. That is **stronger than for bodies**, which are found to be
short of data only where the data end: eight bytes of a frame suffice to refuse it for its length.

## Main definitions

* `FrameHead.bytes` — the eight bytes of a head
* `Request.normal` — a request as it is read back

## Main results

* `FrameHead.reader_eq_ok`, `FrameHead.peek_eq_ok` — both readings of a head
* `Request.reader_eq_ok` — the steps of reading a whole frame
* `Request.decode_encode_frame` — the round trip of whole requests
* `Request.peek_of_decode` — what the first bytes say of an accepted frame, and of all frames
  that begin or continue it
-/

namespace KafkaWire

/-! ### Heads -/

namespace FrameHead

/-- The bytes of a head. -/
def bytes (head : FrameHead) : Bytes :=
  (Chunk.int32 head.length).bytes ++
    ((Chunk.int16 head.apiKey).bytes ++ (Chunk.int16 head.apiVersion).bytes)

@[simp] theorem length_bytes (head : FrameHead) : head.bytes.length = size := by
  simp [bytes, size, Chunk.size]

/-- **A head is read from its own bytes** and from no others. -/
theorem reader_eq_ok {head : FrameHead} {bs rest : Bytes} :
    reader bs = .ok (head, rest) ↔ 4 < head.length ∧ bs = head.bytes ++ rest := by
  constructor
  · intro h
    obtain ⟨length, mid, hlength, h⟩ := Reader.bind_eq_ok.mp h
    split at h
    · obtain ⟨_, _, hthrow, -⟩ := Reader.bind_eq_ok.mp h
      cases hthrow
    · rename_i hshort
      obtain ⟨key, mid', hkey, h⟩ := Reader.bind_eq_ok.mp h
      obtain ⟨version, hversion, rfl⟩ := Reader.bind_pure_eq_ok.mp h
      obtain rfl := Reader.int32_exact hlength
      obtain rfl := Reader.int16_exact hkey
      obtain rfl := Reader.int16_exact hversion
      refine ⟨Int32.not_le.mp hshort, ?_⟩
      simp only [bytes, List.append_assoc]
  · rintro ⟨hlong, rfl⟩
    have hshort : ¬ head.length ≤ 4 := Int32.not_le.mpr hlong
    rw [reader, bytes, List.append_assoc, Reader.bind_of_ok (Reader.int32_append _ _),
      if_neg hshort, List.append_assoc]
    show (Reader.int16 >>= fun key => Reader.int16 >>= fun version =>
      pure (⟨head.length, key, version⟩ : FrameHead)) _ = _
    rw [Reader.bind_of_ok (Reader.int16_append _ _), Reader.bind_of_ok (Reader.int16_append _ _),
      Reader.pure_run]

theorem built_reader : reader.Built := by
  refine Reader.built_int32.bind fun length => Reader.Built.unless rfl ?_
  exact Reader.built_int16.bind fun key => Reader.built_int16.map _

/-- **Peeking sees what reading sees.** Reading the head of a frame and looking at its first eight
bytes alone succeed together. -/
theorem peek_eq_ok {frame : Bytes} {head : FrameHead} :
    peek frame = .ok head ↔ ∃ rest, reader frame = .ok (head, rest) := by
  constructor
  · intro h
    rw [peek] at h
    split at h
    · obtain ⟨hlong, htake⟩ := reader_eq_ok.mp (Reader.all_eq_ok.mp h)
      rw [List.append_nil] at htake
      refine ⟨frame.drop size, reader_eq_ok.mpr ⟨hlong, ?_⟩⟩
      rw [← htake, List.take_append_drop]
    · cases h
  · rintro ⟨rest, h⟩
    obtain ⟨hlong, rfl⟩ := reader_eq_ok.mp h
    have hsize : size ≤ (head.bytes ++ rest).length := by
      rw [List.length_append, length_bytes]
      omega
    have htake : (head.bytes ++ rest).take size = head.bytes ++ [] := by
      rw [List.append_nil, List.take_left' head.length_bytes]
    rw [peek, if_pos (hasAtLeast_iff.mpr hsize), htake]
    exact Reader.all_eq_ok.mpr (reader_eq_ok.mpr ⟨hlong, rfl⟩)

/-- Fewer than eight bytes of a frame are too few, even if the length is among them. -/
theorem reader_of_truncated {head : FrameHead} {after front back : Bytes} (hlong : 4 < head.length)
    (hcut : head.bytes ++ after = front ++ back) (hfront : front.length < size) :
    reader front = .error .insufficientData := by
  cases hread : reader front with
  | error e =>
    by_cases he : e = .insufficientData
    · rw [he]
    · -- any other refusal would have stayed when the frame was completed
      have hstays := built_reader.steady.error hread he back
      rw [← hcut, reader_eq_ok.mpr ⟨hlong, rfl⟩] at hstays
      cases hstays
  | ok p =>
    obtain ⟨-, hp⟩ := reader_eq_ok.mp hread
    have hlength := congrArg List.length hp
    rw [List.length_append, length_bytes] at hlength
    omega

end FrameHead

/-! ### The body that a head announces -/

theorem Api.code_of_ofCode {code : Int16} {api : Api} (h : Api.ofCode code = .ok api) :
    api.code = code := by
  rw [ofCode] at h
  split at h
  · rename_i hfind
    cases h
    have hcode := List.find?_some hfind
    exact beq_iff_eq.mp hcode
  · cases h

theorem Api.mem_all (api : Api) : api ∈ all := by
  cases api <;> decide

theorem Api.supports_iff (api : Api) {version : Int16} :
    api.supports version = true ↔ version ∈ api.versions :=
  List.contains_iff_mem

namespace Body

/-- The body to start from is of the key and version it was asked for. -/
theorem of_empty {code version : Int16} {body : Body} (h : empty code version = .ok body) :
    body.api.code = code ∧ body.version = version := by
  rw [empty] at h
  cases hcode : Api.ofCode code with
  | error e =>
    rw [hcode] at h
    cases h
  | ok api =>
    rw [hcode] at h
    change emptyOf api code version = .ok body at h
    rw [emptyOf] at h
    split at h
    · cases h
    · split at h
      · cases h
        exact ⟨Api.code_of_ofCode hcode, rfl⟩
      · cases h

/-- Reading changes the contents of a body alone. -/
theorem of_reader {empty body : Body} {bs rest : Bytes} (h : empty.reader bs = .ok (body, rest)) :
    body.api = empty.api ∧ body.version = empty.version := by
  obtain ⟨layout, -, rfl⟩ := Reader.bind_pure_eq_ok.mp h
  exact ⟨rfl, rfl⟩

theorem write_normal (body : Body) : body.normal.write = body.write := by
  have hwrite := body.format.write_normal body.layout
  rw [format, Api.normal_format] at hwrite
  exact hwrite

end Body

namespace Request

/-- **No body is of another key or version than its frame begins with**: the last check of reading
a frame never refuses one. -/
theorem readBody_eq (head : FrameHead) : readBody head = (do
    (← MonadExcept.ofExcept (Body.empty head.apiKey head.apiVersion)).reader : Reader Body) := by
  funext bs
  rw [readBody]
  cases hempty : Body.empty head.apiKey head.apiVersion with
  | error e => rfl
  | ok empty =>
    obtain ⟨hkey, hversion⟩ := Body.of_empty hempty
    have hstart : (MonadExcept.ofExcept (.ok empty : Except Error Body) : Reader Body) bs =
        .ok (empty, bs) := rfl
    rw [Reader.bind_of_ok hstart, Reader.bind_of_ok hstart]
    cases hread : empty.reader bs with
    | error e => rw [Reader.bind_of_error hread]
    | ok p =>
      obtain ⟨body, rest⟩ := p
      obtain ⟨hapi, hsame⟩ := Body.of_reader hread
      have hcheck : ¬ (body.api.code ≠ head.apiKey ∨ body.version ≠ head.apiVersion) := by
        rw [hapi, hsame, hkey, hversion]
        simp
      rw [Reader.bind_of_ok hread, if_neg hcheck]
      rfl

/-- A body that was read behind a head is of the key and version that the head declares. -/
theorem of_readBody {head : FrameHead} {bs rest : Bytes} {body : Body}
    (h : readBody head bs = .ok (body, rest)) :
    head.apiKey = body.api.code ∧ head.apiVersion = body.version := by
  rw [readBody_eq] at h
  obtain ⟨empty, mid, hempty, hread⟩ := Reader.bind_eq_ok.mp h
  obtain ⟨hapi, hversion⟩ := Body.of_reader hread
  obtain ⟨hkey, hsame⟩ := Body.of_empty (Reader.ofExcept_eq_ok.mp hempty).1
  exact ⟨by rw [hapi, hkey], by rw [hversion, hsame]⟩

/-- A body that was written is read back behind a head of its key and version. -/
theorem readBody_write {head : FrameHead} {body : Body} {bs : Bytes}
    (hkey : head.apiKey = body.api.code) (hversion : head.apiVersion = body.version)
    (limits : body.WithinLimits) (h : body.write.Writes bs) (rest : Bytes) :
    readBody head (bs ++ rest) = .ok (body.normal, rest) := by
  have hselect : (MonadExcept.ofExcept (Body.empty body.api.code body.version) : Reader Body)
      (bs ++ rest) = .ok (body.withLayout body.api.emptyLayout, bs ++ rest) := by
    rw [Body.empty_eq]
    rfl
  rw [readBody_eq, hkey, hversion, Reader.bind_of_ok hselect]
  exact Body.reader_write h limits rest

/-! ### Whole frames -/

/-- A frame of the declared length is read by reading what follows its head. -/
theorem reader_of_length {flexible : Bool} {head : FrameHead} {bs after : Bytes}
    (hhead : FrameHead.reader bs = .ok (head, after))
    (hlength : head.length.toInt = (after.length + 4 : Nat)) :
    reader flexible bs = readAfterHead flexible head after := by
  have hget : (get : Reader Bytes) after = .ok (after, after) := rfl
  rw [reader, Reader.bind_of_ok hhead, Reader.bind_of_ok hget, if_neg (not_not_intro hlength)]

/-- Any other frame is refused for its length. -/
theorem reader_of_length_ne {flexible : Bool} {head : FrameHead} {bs after : Bytes}
    (hhead : FrameHead.reader bs = .ok (head, after))
    (hlength : head.length.toInt ≠ (after.length + 4 : Nat)) : reader flexible bs =
      .error (.packetDecoding (.frameLength head.length (after.length + 4))) := by
  have hget : (get : Reader Bytes) after = .ok (after, after) := rfl
  rw [reader, Reader.bind_of_ok hhead, Reader.bind_of_ok hget, if_pos hlength]
  exact Reader.bind_of_error (Reader.throw_run _ _) _

/-- **The steps of reading a frame**: its head, the length of what follows, and what follows. -/
theorem reader_eq_ok {flexible : Bool} {bs rest : Bytes} {r : Request} :
    reader flexible bs = .ok (r, rest) ↔ ∃ head after, FrameHead.reader bs = .ok (head, after) ∧
      head.length.toInt = (after.length + 4 : Nat) ∧
      readAfterHead flexible head after = .ok (r, rest) := by
  constructor
  · intro h
    obtain ⟨head, after, hhead, -⟩ := Reader.bind_eq_ok.mp h
    by_cases hlength : head.length.toInt = (after.length + 4 : Nat)
    · rw [reader_of_length hhead hlength] at h
      exact ⟨head, after, hhead, hlength, h⟩
    · rw [reader_of_length_ne hhead hlength] at h
      cases h
  · rintro ⟨head, after, hhead, hlength, h⟩
    rw [reader_of_length hhead hlength]
    exact h

/-- **A frame of another length than it declares is refused for that**, whatever it holds. -/
theorem decode_of_length_ne {flexible : Bool} {head : FrameHead} {after : Bytes}
    (hlong : 4 < head.length) (hlength : head.length.toInt ≠ (after.length + 4 : Nat)) :
    decode flexible (head.bytes ++ after) = .error
      (.packetDecoding (.frameLength head.length ((head.bytes ++ after).length - 4))) := by
  have hreceived : (head.bytes ++ after).length - 4 = after.length + 4 := by
    rw [List.length_append, head.length_bytes, FrameHead.size]
    omega
  have hhead : FrameHead.reader (head.bytes ++ after) = .ok (head, after) :=
    FrameHead.reader_eq_ok.mpr ⟨hlong, rfl⟩
  rw [hreceived]
  exact Reader.all_of_error (reader_of_length_ne hhead hlength)

/-! ### Frames that were written -/

/-- A request as it is read back: what it says of itself, and its body in normal form. -/
def normal (r : Request) : Request := { r with body := r.body.normal }

theorem write_normal (r : Request) : r.normal.write = r.write := by
  have hafter : r.normal.writeAfterLength = r.writeAfterLength := by
    show _ ++ r.body.normal.write = _ ++ r.body.write
    rw [Body.write_normal]
    rfl
  rw [write, write, hafter]

/-- In front of what a frame says stands its length, which was counted before. -/
theorem exists_of_writes {r : Request} {frame : Bytes} (h : r.write.Writes frame) :
    ∃ rest, r.writeAfterLength.Writes rest ∧ rest.length < 0x80000000 ∧
      frame = (Chunk.int32 (Int32.ofNat rest.length)).bytes ++ rest := by
  have hcount : (r.writeAfterLength.feed ({} : Counter)).length = r.writeAfterLength.size := by
    rw [Output.length_feed_counter]
    exact Nat.zero_add _
  simp only [write, hcount, Output.result] at h
  cases hfault : r.writeAfterLength.fault with
  | some e =>
    simp only [hfault] at h
    exact absurd h Output.not_writes_fail
  | none =>
    simp only [hfault] at h
    split at h
    · exact absurd h Output.not_writes_fail
    · obtain ⟨front, rest, hfront, hrest, rfl⟩ := Output.writes_append.mp h
      obtain rfl := Output.writes_chunk.mp hfront
      have hsize : rest.length = r.writeAfterLength.size := by
        rw [← Output.length_bytes, hrest.bytes]
      exact ⟨rest, hrest, by omega, by rw [hsize]⟩

/-- What stands behind the length: the rest of the head, and four parts behind the head. -/
theorem exists_of_writes_afterLength {r : Request} {rest : Bytes}
    (h : r.writeAfterLength.Writes rest) : ∃ client tags body,
      ((Primitive.nullableString .classic).write r.clientId).Writes client ∧
      (r.headerTags.elim .empty TagBuffer.write).Writes tags ∧ r.body.write.Writes body ∧
      rest = (Chunk.int16 r.body.api.code).bytes ++ ((Chunk.int16 r.body.version).bytes ++
        ((Chunk.int32 r.correlationId).bytes ++ (client ++ (tags ++ body)))) := by
  obtain ⟨_, body, h₅, hbody, rfl⟩ := Output.writes_append.mp h
  obtain ⟨_, tags, h₄, htags, rfl⟩ := Output.writes_append.mp h₅
  obtain ⟨_, client, h₃, hclient, rfl⟩ := Output.writes_append.mp h₄
  obtain ⟨_, _, h₂, hcorrelation, rfl⟩ := Output.writes_append.mp h₃
  obtain ⟨_, _, hkey, hversion, rfl⟩ := Output.writes_append.mp h₂
  obtain rfl := Output.writes_chunk.mp hcorrelation
  obtain rfl := Output.writes_chunk.mp hkey
  obtain rfl := Output.writes_chunk.mp hversion
  refine ⟨client, tags, body, hclient, ?_, hbody, by simp only [List.append_assoc]⟩
  cases htag : r.headerTags <;> simpa [htag] using htags

theorem readTags_write {tags : Option TagBuffer} {bs : Bytes}
    (limits : ∀ t ∈ tags, t.WithinLimits) (h : (tags.elim .empty TagBuffer.write).Writes bs)
    (rest : Bytes) : readTags tags.isSome (bs ++ rest) = .ok (tags, rest) := by
  cases tags with
  | none =>
    obtain rfl := Output.writes_empty.mp h
    rfl
  | some tags =>
    show (TagBuffer.read >>= fun t => pure (some t)) (bs ++ rest) = _
    rw [Reader.bind_of_ok (TagBuffer.read_write (limits tags rfl) h rest), Reader.pure_run]

/-- **A frame that was written can be read**: it begins with a head of the right length, and what
follows the head comes back. -/
theorem exists_read_of_writes {r : Request} {frame : Bytes} (h : r.write.Writes frame)
    (tags : ∀ t ∈ r.headerTags, t.WithinLimits) (limits : r.body.WithinLimits) :
    ∃ head after, FrameHead.reader frame = .ok (head, after) ∧
      head.length.toInt = (after.length + 4 : Nat) ∧
      readAfterHead r.headerTags.isSome head after = .ok (r.normal, []) := by
  obtain ⟨rest, hrest, hshort, rfl⟩ := exists_of_writes h
  have hval : (Int32.ofNat rest.length).toInt = rest.length := Int32.toInt_ofNat_of_lt hshort
  obtain ⟨client, tagBytes, body, hclient, htags, hbody, hparts⟩ :=
    exists_of_writes_afterLength hrest
  let head : FrameHead := ⟨Int32.ofNat rest.length, r.body.api.code, r.body.version⟩
  have hlength : rest.length = ((Chunk.int32 r.correlationId).bytes ++
      (client ++ (tagBytes ++ body))).length + 4 := by
    have hrest_length := congrArg List.length hparts
    simp only [List.length_append, Chunk.length_bytes, Chunk.size] at hrest_length ⊢
    omega
  have hlong : 4 < head.length := by
    rw [Int32.lt_iff_toInt_lt]
    show (4 : Int) < (Int32.ofNat rest.length).toInt
    rw [hval, hlength, List.length_append, Chunk.length_bytes, Chunk.size]
    omega
  refine ⟨head, _, FrameHead.reader_eq_ok.mpr ⟨hlong, ?_⟩, hval.trans (congrArg _ hlength), ?_⟩
  · rw [hparts, FrameHead.bytes]
    simp only [head, hparts, List.append_assoc]
  · have hcorrelation := Reader.int32_append r.correlationId (client ++ (tagBytes ++ body))
    have hname := Primitive.read_write (p := .nullableString .classic) trivial hclient
      (tagBytes ++ body)
    have hbodyRead : readBody head (body ++ []) = .ok (r.body.normal, []) :=
      readBody_write rfl rfl limits hbody []
    rw [List.append_nil] at hbodyRead
    rw [readAfterHead, Reader.bind_of_ok hcorrelation, Reader.bind_of_ok hname,
      Reader.bind_of_ok (readTags_write tags htags body), Reader.bind_of_ok hbodyRead]
    rfl

/-- What was written is read back as a complete frame. -/
theorem decode_encode {r : Request} {frame : Bytes} (encoded : r.encode = .ok frame)
    (tags : ∀ t ∈ r.headerTags, t.WithinLimits) (limits : r.body.WithinLimits) :
    decode r.headerTags.isSome frame = .ok r.normal := by
  have hwrites : r.write.Writes frame := Output.encode_eq_ok.mp encoded
  have hread := reader_eq_ok.mpr (exists_read_of_writes hwrites tags limits)
  exact Reader.all_eq_ok.mpr hread

/-- **The round trip of whole requests**, with either header version. A frame begins with its own
length, and reading it gives back the correlation id, the client's name, where null is not the
empty name, and the tags, with the body as it would be read back alone. That request is written as
the same frame. -/
theorem decode_encode_frame {r : Request} {frame : Bytes} (encoded : r.encode = .ok frame)
    (tags : ∀ t ∈ r.headerTags, t.WithinLimits) (limits : r.body.WithinLimits) :
    (4 ≤ frame.length ∧ frame.length - 4 < 0x80000000 ∧
      frame.take 4 = toBigEndian 4 (frame.length - 4)) ∧
    (∃ alone, r.body.encode = .ok alone ∧
      Body.decode r.body.api.code r.body.version alone = .ok r.body.normal) ∧
    decode r.headerTags.isSome frame = .ok r.normal ∧
    r.normal.encode = .ok frame := by
  have hwrites : r.write.Writes frame := Output.encode_eq_ok.mp encoded
  refine ⟨?_, ?_, decode_encode encoded tags limits, ?_⟩
  · obtain ⟨rest, -, hshort, rfl⟩ := exists_of_writes hwrites
    rw [Chunk.bytes_int32_ofNat hshort]
    have hlength : (toBigEndian 4 rest.length ++ rest).length - 4 = rest.length := by
      rw [List.length_append, length_toBigEndian]
      omega
    refine ⟨?_, by omega, ?_⟩
    · rw [List.length_append, length_toBigEndian]
      omega
    · rw [hlength, List.take_left' (length_toBigEndian 4 rest.length)]
  · obtain ⟨rest, hrest, -, -⟩ := exists_of_writes hwrites
    obtain ⟨_, _, alone, -, -, halone, -⟩ := exists_of_writes_afterLength hrest
    have hbody : r.body.encode = .ok alone := Output.encode_eq_ok.mpr halone
    exact ⟨alone, hbody, Body.decode_encode hbody limits⟩
  · rw [encode, write_normal]
    exact encoded

/-- A request to delete topics in version 4, which has names but no topics with identifiers. -/
def forgetfulDeletion : Request where
  correlationId := -2
  clientId := some ""
  headerTags := some { fields := [⟨3, [7]⟩] }
  body := {
    api := .deleteTopics
    version := 4
    layout := ({ topics := [{ name := some "u" }], names := ["t"], timeoutMs := 9 } :
      DeleteTopics.Request)
    supported := by decide }

/-- The empty name stays a name; the topics are gone, alone as well as in the frame. -/
theorem decode_encode_forgetfulDeletion :
    let frame : Bytes := [0, 0, 0, 0x16, 0, 0x14, 0, 4, 0xff, 0xff, 0xff, 0xfe, 0, 0, 1, 3, 1, 7,
      2, 2, 0x74, 0, 0, 0, 9, 0]
    let normal : Request := { forgetfulDeletion with
      body := forgetfulDeletion.body.withLayout
        ({ names := ["t"], timeoutMs := 9 } : DeleteTopics.Request) }
    forgetfulDeletion.encode = .ok frame ∧ (∀ t ∈ forgetfulDeletion.headerTags, t.WithinLimits) ∧
      forgetfulDeletion.body.WithinLimits ∧ frame.take 4 = toBigEndian 4 (frame.length - 4) ∧
      decode true frame = .ok normal ∧ normal.encode = .ok frame := by
  intro frame normal
  have encoded : forgetfulDeletion.encode = .ok frame := rfl
  have tags : ∀ t ∈ forgetfulDeletion.headerTags, t.WithinLimits := by decide
  have limits : forgetfulDeletion.body.WithinLimits := by decide
  obtain ⟨⟨-, -, length⟩, -, decoded, again⟩ := decode_encode_frame encoded tags limits
  exact ⟨encoded, tags, limits, length, decoded, again⟩

/-! ### Frames that were accepted -/

/-- What follows the head begins with the correlation id and ends with a body of its key and
version. -/
theorem of_readAfterHead {flexible : Bool} {head : FrameHead} {bs rest : Bytes} {r : Request}
    (h : readAfterHead flexible head bs = .ok (r, rest)) :
    (head.apiKey = r.body.api.code ∧ head.apiVersion = r.body.version) ∧
      ∃ mid, bs = (Chunk.int32 r.correlationId).bytes ++ mid := by
  obtain ⟨id, mid, hid, h⟩ := Reader.bind_eq_ok.mp h
  obtain ⟨client, mid', -, h⟩ := Reader.bind_eq_ok.mp h
  obtain ⟨tags, mid'', -, h⟩ := Reader.bind_eq_ok.mp h
  obtain ⟨body, hbody, rfl⟩ := Reader.bind_pure_eq_ok.mp h
  exact ⟨of_readBody hbody, mid, Reader.int32_exact hid⟩

section Cut

variable {flexible : Bool} {head : FrameHead} {after : Bytes} (hlong : 4 < head.length)
  (hlength : head.length.toInt = (after.length + 4 : Nat))

include hlong hlength

/-- The front of a frame is short of data as long as its head is, and then shorter than it says. -/
theorem decode_of_truncated {front back : Bytes} (hcut : head.bytes ++ after = front ++ back)
    (hback : back ≠ []) : decode flexible front = .error
      (if front.length < FrameHead.size then .insufficientData
      else .packetDecoding (.frameLength head.length (front.length - 4))) := by
  have hlengths := congrArg List.length hcut
  rw [List.length_append, List.length_append, head.length_bytes] at hlengths
  have hpos : 0 < back.length := List.length_pos_iff.mpr hback
  by_cases hfront : front.length < FrameHead.size
  · rw [if_pos hfront]
    have hhead := FrameHead.reader_of_truncated hlong hcut hfront
    exact Reader.all_of_error (Reader.bind_of_error hhead _)
  · rw [if_neg hfront]
    -- the cut is behind the head, so the front begins with the same head
    have hle : head.bytes.length ≤ front.length := by
      rw [head.length_bytes]
      omega
    obtain ⟨middle, rfl⟩ : head.bytes <+: front :=
      List.prefix_of_prefix_length_le ⟨after, hcut⟩ ⟨back, rfl⟩ hle
    have hshorter : head.length.toInt ≠ (middle.length + 4 : Nat) := by
      rw [List.length_append, head.length_bytes] at hlengths
      omega
    exact decode_of_length_ne hlong hshorter

/-- A frame with something behind it is longer than it says. -/
theorem decode_of_extended {more : Bytes} (hmore : more ≠ []) :
    decode flexible (head.bytes ++ after ++ more) = .error (.packetDecoding
      (.frameLength head.length ((head.bytes ++ after ++ more).length - 4))) := by
  have hpos : 0 < more.length := List.length_pos_iff.mpr hmore
  have hlonger : head.length.toInt ≠ ((after ++ more).length + 4 : Nat) := by
    rw [hlength, List.length_append]
    omega
  rw [List.append_assoc]
  exact decode_of_length_ne hlong hlonger

end Cut

/-- **What the first bytes say of an accepted frame.** Looking at the head alone gives its true
length, the key and version of the body, which are supported ones, and behind the head stands the
correlation id. No frame that begins it or continues it is accepted: one with less than a head is
short of data, and every other one is refused for its length. -/
theorem peek_of_decode {flexible : Bool} {frame : Bytes} {r : Request}
    (accepted : decode flexible frame = .ok r) : ∃ head : FrameHead,
    (FrameHead.peek frame = .ok head ∧ (frame.length : Int) = head.length.toInt + 4 ∧
      head.apiKey = r.body.api.code ∧ head.apiVersion = r.body.version) ∧
    (r.body.api ∈ Api.all ∧ r.body.version ∈ r.body.api.versions) ∧
    (frame.drop FrameHead.size).take 4 = (Chunk.int32 r.correlationId).bytes ∧
    (∀ front back, frame = front ++ back → back ≠ [] → decode flexible front = .error
      (if front.length < FrameHead.size then .insufficientData
      else .packetDecoding (.frameLength head.length (front.length - 4)))) ∧
    (∀ more, more ≠ [] → decode flexible (frame ++ more) = .error
      (.packetDecoding (.frameLength head.length ((frame ++ more).length - 4)))) := by
  have hread : reader flexible frame = .ok (r, []) := Reader.all_eq_ok.mp accepted
  obtain ⟨head, after, hhead, hlength, hafter⟩ := reader_eq_ok.mp hread
  obtain ⟨hlong, rfl⟩ := FrameHead.reader_eq_ok.mp hhead
  obtain ⟨hbody, mid, hid⟩ := of_readAfterHead hafter
  have hsize : head.bytes.length = FrameHead.size := head.length_bytes
  refine ⟨head, ⟨FrameHead.peek_eq_ok.mpr ⟨after, hhead⟩, ?_, hbody⟩, ?_, ?_, ?_, ?_⟩
  · rw [List.length_append, hsize, hlength, FrameHead.size]
    omega
  · exact ⟨Api.mem_all _, List.contains_iff_mem.mp r.body.supported⟩
  · have hwidth : (Chunk.int32 r.correlationId).bytes.length = 4 := Chunk.length_bytes _
    rw [List.drop_left' hsize, hid, List.take_left' hwidth]
  · intro front back hcut hback
    exact decode_of_truncated hlong hlength hcut hback
  · intro more hmore
    exact decode_of_extended hlong hlength hmore

/-- The frame of the deletion above, cut within its head, cut behind it, and continued. -/
theorem peek_of_decode_forgetfulDeletion :
    let front : Bytes := [0, 0, 0, 0x16, 0, 0x14, 0]
    let middle : Bytes := [4, 0xff, 0xff]
    let back : Bytes := [0xff, 0xfe, 0, 0, 1, 3, 1, 7, 2, 2, 0x74, 0, 0, 0, 9, 0]
    let frame := front ++ (middle ++ back)
    decode true frame = .ok forgetfulDeletion.normal ∧
      FrameHead.peek frame = .ok ⟨22, 20, 4⟩ ∧
      decode true front = .error .insufficientData ∧
      decode true (front ++ middle) = .error (.packetDecoding (.frameLength 22 6)) ∧
      decode true (frame ++ [0]) = .error (.packetDecoding (.frameLength 22 23)) := by
  intro front middle back frame
  have encoded : forgetfulDeletion.encode = .ok frame := rfl
  have tags : ∀ t ∈ forgetfulDeletion.headerTags, t.WithinLimits := by decide
  have limits : forgetfulDeletion.body.WithinLimits := by decide
  have accepted := decode_encode encoded tags limits
  change decode true frame = .ok forgetfulDeletion.normal at accepted
  obtain ⟨head, ⟨hpeek, -, -⟩, -, -, truncated, extended⟩ := peek_of_decode accepted
  have hhead : FrameHead.reader frame = .ok (⟨22, 20, 4⟩, frame.drop 8) :=
    FrameHead.reader_eq_ok.mpr ⟨by decide, by decide⟩
  obtain rfl : head = ⟨22, 20, 4⟩ :=
    Except.ok.inj (hpeek.symm.trans (FrameHead.peek_eq_ok.mpr ⟨_, hhead⟩))
  refine ⟨accepted, hpeek, ?_, ?_, ?_⟩
  · have hfront := truncated front (middle ++ back) rfl (by decide)
    rwa [if_pos (by decide)] at hfront
  · have hfront := truncated (front ++ middle) back rfl (by decide)
    rwa [if_neg (by decide)] at hfront
  · exact extended [0] (by decide)

end Request

end KafkaWire
