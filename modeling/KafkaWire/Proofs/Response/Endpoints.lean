import KafkaWire.Proofs.Response.Schemas

/-!
# The endpoints of a response

Where a redirector looks for endpoints, as plain functions on a decoded response: the values
that hold them, in the order of the response, the endpoints themselves, and the response with
others in their place. Redirecting asks the mapping for each of the endpoints and puts the
answers there.

That the replacement never fails half-way is due to the schemas. Each of these has a text called
`host` and a 32-bit integer called `port`, so both are found, and an answer has the right kind for
either.

## Main definitions

* `Struct.endpoint?`, `Struct.withEndpoint` — the endpoint of one struct
* `Redirector.held`, `Redirector.endpoints`, `Redirector.place` — those of a response
* `Redirector.Located` — where they are

## Main results

* `Redirector.Decoded.located` — a decoded response has its endpoints where they are looked for
* `Redirector.replaceEndpoint_eq`, `Redirector.replaceEndpoints_eq` — replacing is asking and
  placing
-/

namespace KafkaWire

/-! ### Single structs -/

namespace Struct

variable {s : Struct} {e new : Endpoint}

/-- The endpoint in a struct, if it has a host and a port. -/
def endpoint? (s : Struct) : Option Endpoint :=
  match s.getText "host", s.getInt32 "port" with
  | .ok host, .ok port => some ⟨host, port⟩
  | _, _ => none

/-- The struct with another host and another port. -/
def withEndpoint (s : Struct) (e : Endpoint) : Struct :=
  (s.put "host" (.string e.host)).put "port" (.int32 e.port)

/-- The endpoint is in the struct. -/
structure Holds (s : Struct) (e : Endpoint) : Prop where
  host : s.get "host" = .ok (.string e.host)
  port : s.get "port" = .ok (.int32 e.port)

theorem Holds.endpoint_eq (h : s.Holds e) : s.endpoint? = some e := by
  rw [endpoint?, getText_of_get h.host, getInt32_of_get h.port]

theorem Holds.port_put (h : s.Holds e) (host : String) :
    (s.put "host" (.string host)).get "port" = .ok (.int32 e.port) :=
  (get_put_of_ne (by decide)).trans h.port

theorem Holds.withEndpoint (h : s.Holds e) (new : Endpoint) : (s.withEndpoint new).Holds new := by
  have hhost : (s.put "host" (.string new.host)).get "host" = .ok (.string new.host) :=
    get_put_self h.host
  exact ⟨(get_put_of_ne (by decide)).trans hhost, get_put_self (h.port_put new.host)⟩

theorem Holds.withEndpoint_self (h : s.Holds e) : s.withEndpoint e = s := by
  rw [Struct.withEndpoint, put_self h.host, put_self h.port]

theorem withEndpoint_withEndpoint (s : Struct) (first second : Endpoint) :
    (s.withEndpoint first).withEndpoint second = s.withEndpoint second := by
  have hne : "host" ≠ "port" := by decide
  rw [withEndpoint, withEndpoint, withEndpoint, put_comm hne, put_put, put_put]

@[simp] theorem withEndpoint_schema : (s.withEndpoint e).schema = s.schema := by
  rw [Struct.withEndpoint, put_schema, put_schema]

end Struct

theorem Struct.Conforms.holds {s : Struct} (h : s.Conforms) (hs : s.schema.HasEndpoint) :
    ∃ e, s.Holds e := by
  obtain ⟨form, htext⟩ := hs.host
  obtain ⟨_, hhost, htakes⟩ := h.get_of_typeOf htext
  obtain ⟨_, hport, htakes'⟩ := h.get_of_typeOf hs.port
  cases htakes with
  | @primitive _ host _ =>
    cases htakes' with
    | @primitive _ port _ => exact ⟨⟨host, port⟩, hhost, hport⟩

theorem Struct.Conforms.withEndpoint {s : Struct} (h : s.Conforms) (hs : s.schema.HasEndpoint)
    (e : Endpoint) : (s.withEndpoint e).Conforms := by
  obtain ⟨form, htext⟩ := hs.host
  have hhost : (s.put "host" (.string e.host)).Conforms :=
    h.put htext (.primitive (p := .string form) trivial)
  refine hhost.put ?_ (.primitive (p := .int32) trivial)
  rw [put_schema]
  exact hs.port

/-! ### Lists of structs -/

/-- The endpoint in a value, if it is a struct with a host and a port. -/
def Value.endpoint? : Value → Option Endpoint
  | .struct s => s.endpoint?
  | _ => none

/-- The value with another endpoint, if it is a struct. -/
def Value.withEndpoint (v : Value) (e : Endpoint) : Value :=
  match v with
  | .struct s => .struct (s.withEndpoint e)
  | other => other

/-- The value is a struct that holds the endpoint. -/
def Value.Holds (v : Value) (e : Endpoint) : Prop := ∃ s, v = .struct s ∧ s.Holds e

/-- The endpoints of the structs in a list. -/
def Value.endpoints (items : List Value) : List Endpoint := items.filterMap endpoint?

theorem Value.Holds.endpoint_eq {v : Value} {e : Endpoint} (h : v.Holds e) :
    v.endpoint? = some e := by
  obtain ⟨s, rfl, hs⟩ := h
  exact hs.endpoint_eq

theorem Value.endpoints_cons {v : Value} {e : Endpoint} (h : v.Holds e) (items : List Value) :
    endpoints (v :: items) = e :: endpoints items :=
  List.filterMap_cons_some h.endpoint_eq

theorem Value.Holds.withEndpoint_self {v : Value} {e : Endpoint} (h : v.Holds e) :
    v.withEndpoint e = v := by
  obtain ⟨s, rfl, hs⟩ := h
  rw [withEndpoint, hs.withEndpoint_self]

theorem Value.withEndpoint_withEndpoint (v : Value) (first second : Endpoint) :
    (v.withEndpoint first).withEndpoint second = v.withEndpoint second := by
  cases v with
  | struct s => simp only [withEndpoint, s.withEndpoint_withEndpoint]
  | primitive kind value => rfl
  | array items => rfl

theorem Value.Holds.withEndpoint {v : Value} {e : Endpoint} (h : v.Holds e) (new : Endpoint) :
    (v.withEndpoint new).Holds new := by
  obtain ⟨s, rfl, hs⟩ := h
  exact ⟨s.withEndpoint new, rfl, hs.withEndpoint new⟩

section Lists

variable {items : List Value} (h : ∀ v ∈ items, ∃ e, v.Holds e)

include h

theorem Value.length_endpoints : (endpoints items).length = items.length := by
  induction items with
  | nil => rfl
  | cons v items ih =>
    obtain ⟨e, hv⟩ := h v List.mem_cons_self
    rw [endpoints_cons hv, List.length_cons, List.length_cons,
      ih fun w hw => h w (List.mem_cons_of_mem v hw)]

/-- A list with its own endpoints stays as it is. -/
theorem Value.zipWith_endpoints : List.zipWith withEndpoint items (endpoints items) = items := by
  induction items with
  | nil => rfl
  | cons v items ih =>
    obtain ⟨e, hv⟩ := h v List.mem_cons_self
    rw [endpoints_cons hv, List.zipWith_cons_cons, hv.withEndpoint_self,
      ih fun w hw => h w (List.mem_cons_of_mem v hw)]

/-- A list with other endpoints has these. -/
theorem Value.endpoints_zipWith {answers : List Endpoint}
    (hlength : answers.length = items.length) :
    endpoints (List.zipWith withEndpoint items answers) = answers := by
  induction items generalizing answers with
  | nil =>
    obtain rfl := List.length_eq_zero_iff.mp hlength
    rfl
  | cons v items ih =>
    cases answers with
    | nil => cases hlength
    | cons answer answers =>
      obtain ⟨e, hv⟩ := h v List.mem_cons_self
      rw [List.zipWith_cons_cons, endpoints_cons (hv.withEndpoint answer),
        ih (fun w hw => h w (List.mem_cons_of_mem v hw)) (Nat.succ.inj hlength)]

end Lists

/-- Endpoints put in place twice might as well have been put there once. -/
theorem Value.zipWith_zipWith {items : List Value} {first : List Endpoint}
    (hlength : first.length = items.length) (second : List Endpoint) :
    List.zipWith withEndpoint (List.zipWith withEndpoint items first) second =
      List.zipWith withEndpoint items second := by
  induction items generalizing first second with
  | nil => rfl
  | cons v items ih =>
    cases first with
    | nil => cases hlength
    | cons answer first =>
      cases second with
      | nil => rfl
      | cons answer' second =>
        rw [List.zipWith_cons_cons, List.zipWith_cons_cons, List.zipWith_cons_cons,
          withEndpoint_withEndpoint, ih (Nat.succ.inj hlength)]

namespace Redirector

variable {m : Type → Type} [Monad m]

@[simp] theorem ofExcept_ok {α : Type} (a : α) :
    (MonadExcept.ofExcept (.ok a : Except Error α) : ExceptT Error m α) = pure a := rfl

variable [LawfulMonad m]

/-- **Replacing an endpoint is asking for one and putting it in place.** What is not changed
because it stays the same might as well be. -/
theorem replaceEndpoint_eq (mapping : AddressMapping m) {s : Struct} {e : Endpoint}
    (h : s.Holds e) : replaceEndpoint mapping s = do return s.withEndpoint (← mapping e) := by
  rw [replaceEndpoint, Struct.getText_of_get h.host, Struct.getInt32_of_get h.port]
  simp only [ofExcept_ok, pure_bind]
  refine bind_congr fun new => ?_
  have hhost : s.replace "host" (.string new.host) =
      .ok (.string e.host, s.put "host" (.string new.host)) := Struct.replace_eq_put h.host rfl
  have hport : (s.put "host" (.string new.host)).replace "port" (.int32 new.port) =
      .ok (.int32 e.port, s.withEndpoint new) := Struct.replace_eq_put (h.port_put new.host) rfl
  have hsame : new.host = e.host → s.put "host" (.string new.host) = s :=
    fun heq => Struct.put_self (heq ▸ h.host)
  have hsame' : new.port = e.port → s.withEndpoint new = s.put "host" (.string new.host) :=
    fun heq => Struct.put_self (heq ▸ h.port_put new.host)
  by_cases hh : new.host = e.host
  · rw [hsame hh] at hport hsame'
    by_cases hp : new.port = e.port
    · simp [hh, hp, hsame' hp]
    · simp [hh, hp, hport]
  · by_cases hp : new.port = e.port
    · simp [hh, hp, hhost, hsame' hp]
    · simp [hh, hp, hhost, hport]

/-- The same for a list of structs, one after the other. -/
theorem replaceEndpoints_eq (mapping : AddressMapping m) {items : List Value}
    (h : ∀ v ∈ items, ∃ e, v.Holds e) : replaceEndpoints mapping items = do
      return List.zipWith Value.withEndpoint items
        (← (Value.endpoints items).mapM mapping) := by
  induction items with
  | nil => simp [replaceEndpoints, Value.endpoints]
  | cons v items ih =>
    obtain ⟨e, hv⟩ := h v List.mem_cons_self
    rw [Value.endpoints_cons hv, List.mapM_cons]
    obtain ⟨s, rfl, hs⟩ := hv
    rw [replaceEndpoints, replaceEndpoint_eq mapping hs,
      ih fun w hw => h w (List.mem_cons_of_mem _ hw)]
    simp [Value.withEndpoint]

end Redirector

/-! ### Whole responses -/

namespace Redirector

/-- The values in which the endpoints are, in the order of the response. Null has none. -/
def held (r : Redirector) (response : Struct) : List Value :=
  match response.get r.field with
  | .ok (.array items) => items.getD []
  | .ok (.struct s) => [.struct s]
  | _ => []

/-- The endpoints of a response, in its order. -/
def endpoints (r : Redirector) (response : Struct) : List Endpoint :=
  Value.endpoints (r.held response)

/-- The response with other endpoints, one for each that it has. -/
def place (r : Redirector) (response : Struct) (answers : List Endpoint) : Struct :=
  match response.get r.field, answers with
  | .ok (.array (some items)), answers =>
    response.put r.field (.array (some (List.zipWith Value.withEndpoint items answers)))
  | .ok (.struct s), [answer] => response.put r.field (.struct (s.withEndpoint answer))
  | _, _ => response

variable {r : Redirector} {response : Struct}

/-- A decoded response: it fits the schema of its version. -/
structure Decoded (r : Redirector) (response : Struct) : Prop where
  schema_eq : response.schema = r.schema
  conforms : response.Conforms

theorem decoded_of_decode {bs : Bytes} (h : r.schema.decode bs = .ok response) :
    r.Decoded response := by
  obtain ⟨hschema, hconforms⟩ := Schema.conforms_of_read (Schema.decode_eq_ok.mp h)
  exact ⟨hschema, hconforms⟩

/-- Values that fit the item schema are structs that hold an endpoint. -/
theorem holds_of_takes {v : Value} (h : (FieldType.struct r.item).Takes v) :
    ∃ e, v.Holds e := by
  cases v with
  | primitive kind x => cases h
  | array items => cases h
  | struct s =>
    obtain ⟨hschema, hconforms⟩ := FieldType.takes_struct.mp h
    obtain ⟨e, he⟩ := hconforms.holds (hschema ▸ r.item_hasEndpoint)
    exact ⟨e, s, rfl, he⟩

theorem takes_withEndpoint {v : Value} (h : (FieldType.struct r.item).Takes v) (e : Endpoint) :
    (FieldType.struct r.item).Takes (v.withEndpoint e) := by
  cases v with
  | primitive kind x => cases h
  | array items => cases h
  | struct s =>
    obtain ⟨hschema, hconforms⟩ := FieldType.takes_struct.mp h
    refine FieldType.takes_struct.mpr ⟨Struct.withEndpoint_schema.trans hschema, ?_⟩
    exact hconforms.withEndpoint (hschema ▸ r.item_hasEndpoint) e

/-- Where the endpoints of a response are: nowhere, in an array or in a single struct. -/
inductive Located (r : Redirector) (response : Struct) : Prop
  | null (lists : r.lists = true) (get : response.get r.field = .ok (.array none))
  | array (items : List Value) (form : Form) (lists : r.lists = true)
    (type : response.schema.typeOf? r.field = some (.array form (.struct r.item)))
    (get : response.get r.field = .ok (.array (some items))) (length_le : items.length ≤ maxItems)
    (takes : ∀ v ∈ items, (FieldType.struct r.item).Takes v) (holds : ∀ v ∈ items, ∃ e, v.Holds e)
  | single (s : Struct) (e : Endpoint) (lists : r.lists = false)
    (type : response.schema.typeOf? r.field = some (.struct r.item))
    (get : response.get r.field = .ok (.struct s))
    (takes : (FieldType.struct r.item).Takes (.struct s)) (holds : s.Holds e)

/-- **The endpoints of a decoded response are found.** -/
theorem Decoded.located (h : r.Decoded response) : r.Located response := by
  have htype := r.typeOf_field
  rw [← h.schema_eq] at htype
  cases hlists : r.lists with
  | true =>
    simp only [hlists, if_true] at htype
    obtain ⟨form, htype⟩ := htype
    obtain ⟨v, hget, htakes⟩ := h.conforms.get_of_typeOf htype
    cases htakes with
    | null => exact .null hlists hget
    | array length_le each =>
      exact .array _ form hlists htype hget length_le each fun v hv => holds_of_takes (each v hv)
  | false =>
    simp only [hlists, Bool.false_eq_true, if_false] at htype
    obtain ⟨v, hget, htakes⟩ := h.conforms.get_of_typeOf htype
    obtain ⟨e, s, rfl, hs⟩ := holds_of_takes htakes
    exact .single s e hlists htype hget htakes hs

theorem Decoded.holds_of_held (h : r.Decoded response) :
    ∀ v ∈ r.held response, ∃ e, v.Holds e := by
  intro v hv
  cases h.located with
  | null _ hget =>
    rw [held, hget] at hv
    cases hv
  | array items _ _ _ hget _ _ hholds =>
    rw [held, hget] at hv
    exact hholds v hv
  | single s e _ _ hget _ hholds =>
    rw [held, hget] at hv
    obtain rfl := List.mem_singleton.mp hv
    exact ⟨e, s, rfl, hholds⟩

/-- All values where endpoints are looked for hold one. -/
theorem Decoded.map_endpoint (h : r.Decoded response) :
    (r.held response).map Value.endpoint? = (r.endpoints response).map some := by
  have hall := h.holds_of_held
  rw [endpoints]
  generalize r.held response = items at hall
  induction items with
  | nil => rfl
  | cons v items ih =>
    obtain ⟨e, hv⟩ := hall v List.mem_cons_self
    rw [Value.endpoints_cons hv, List.map_cons, List.map_cons, hv.endpoint_eq,
      ih fun w hw => hall w (List.mem_cons_of_mem v hw)]

theorem place_of_null (h : response.get r.field = .ok (.array none)) (answers : List Endpoint) :
    r.place response answers = response := by
  simp only [place, h]

theorem place_of_items {items : List Value} (h : response.get r.field = .ok (.array (some items)))
    (answers : List Endpoint) : r.place response answers =
      response.put r.field (.array (some (List.zipWith Value.withEndpoint items answers))) := by
  simp only [place, h]

theorem place_of_struct {s : Struct} (h : response.get r.field = .ok (.struct s))
    (answer : Endpoint) : r.place response [answer] =
      response.put r.field (.struct (s.withEndpoint answer)) := by
  simp only [place, h]

/-- The response with other endpoints is as well formed as before. -/
theorem Decoded.place (h : r.Decoded response) (answers : List Endpoint) :
    r.Decoded (r.place response answers) := by
  cases h.located with
  | null _ hget =>
    rw [place_of_null hget]
    exact h
  | array items form _ htype hget hlen htakes _ =>
    rw [place_of_items hget]
    refine ⟨Struct.put_schema.trans h.schema_eq, h.conforms.put htype (.array ?_ fun v hv => ?_)⟩
    · rw [List.length_zipWith]
      omega
    · obtain ⟨i, hi, rfl⟩ := List.mem_iff_getElem.mp hv
      rw [List.getElem_zipWith]
      exact takes_withEndpoint (htakes _ (List.getElem_mem _)) _
  | single s e _ htype hget htakes _ =>
    cases answers with
    | nil =>
      simp only [Redirector.place, hget]
      exact h
    | cons answer more =>
      cases more with
      | nil =>
        rw [place_of_struct hget]
        refine ⟨Struct.put_schema.trans h.schema_eq, h.conforms.put htype ?_⟩
        exact takes_withEndpoint htakes answer
      | cons another more =>
        simp only [Redirector.place, hget]
        exact h

/-! ### The laws of placing -/

theorem endpoints_of_null (h : response.get r.field = .ok (.array none)) :
    r.endpoints response = [] := by
  rw [endpoints, held, h]
  rfl

theorem endpoints_of_items {items : List Value}
    (h : response.get r.field = .ok (.array (some items))) :
    r.endpoints response = Value.endpoints items := by
  rw [endpoints, held, h]
  rfl

theorem endpoints_of_struct {s : Struct} {e : Endpoint}
    (h : response.get r.field = .ok (.struct s)) (hs : s.Holds e) :
    r.endpoints response = [e] := by
  rw [endpoints, held, h]
  exact Value.endpoints_cons ⟨s, rfl, hs⟩ []

/-- A response with its own endpoints stays as it is. -/
theorem Decoded.place_endpoints (h : r.Decoded response) :
    r.place response (r.endpoints response) = response := by
  cases h.located with
  | null _ hget => exact place_of_null hget _
  | array items _ _ _ hget _ _ hholds =>
    rw [place_of_items hget, endpoints_of_items hget, Value.zipWith_endpoints hholds,
      Struct.put_self hget]
  | single s e _ _ hget _ hholds =>
    rw [endpoints_of_struct hget hholds, place_of_struct hget, hholds.withEndpoint_self,
      Struct.put_self hget]

/-- A response with other endpoints has these. -/
theorem Decoded.endpoints_place (h : r.Decoded response) {answers : List Endpoint}
    (hlength : answers.length = (r.endpoints response).length) :
    r.endpoints (r.place response answers) = answers := by
  cases h.located with
  | null _ hget =>
    rw [endpoints_of_null hget] at hlength
    obtain rfl := List.length_eq_zero_iff.mp hlength
    rw [place_of_null hget, endpoints_of_null hget]
  | array items _ _ _ hget _ _ hholds =>
    rw [endpoints_of_items hget, Value.length_endpoints hholds] at hlength
    rw [place_of_items hget, endpoints_of_items (Struct.get_put_self hget),
      Value.endpoints_zipWith hholds hlength]
  | single s e _ _ hget _ hholds =>
    rw [endpoints_of_struct hget hholds] at hlength
    obtain ⟨answer, rfl⟩ := List.length_eq_one_iff.mp hlength
    rw [place_of_struct hget,
      endpoints_of_struct (Struct.get_put_self hget) (hholds.withEndpoint answer)]

/-- **Nothing but endpoints is changed**: with its first endpoints back in place, a response is
what it was. -/
theorem Decoded.place_place_endpoints (h : r.Decoded response) {answers : List Endpoint}
    (hlength : answers.length = (r.endpoints response).length) :
    r.place (r.place response answers) (r.endpoints response) = response := by
  cases h.located with
  | null _ hget => rw [place_of_null hget, place_of_null hget]
  | array items _ _ _ hget _ _ hholds =>
    rw [endpoints_of_items hget, Value.length_endpoints hholds] at hlength
    rw [place_of_items hget, place_of_items (Struct.get_put_self hget), Struct.put_put,
      Value.zipWith_zipWith hlength, endpoints_of_items hget,
      Value.zipWith_endpoints hholds, Struct.put_self hget]
  | single s e _ _ hget _ hholds =>
    rw [endpoints_of_struct hget hholds] at hlength ⊢
    obtain ⟨answer, rfl⟩ := List.length_eq_one_iff.mp hlength
    rw [place_of_struct hget, place_of_struct (Struct.get_put_self hget), Struct.put_put,
      Struct.withEndpoint_withEndpoint, hholds.withEndpoint_self, Struct.put_self hget]

/-! ### Asking for replacements -/

variable {m : Type → Type} [Monad m]

theorem replaceAll_of_lists (mapping : AddressMapping m) (h : r.lists = true) :
    replaceAll mapping r response = do
      return (← response.modifyArray r.field fun items => do
        return ((), ← replaceEndpoints mapping items)).2 := by
  cases hsource : r.source with
  | metadata => simp only [replaceAll, field, hsource]
  | findCoordinator =>
    have hversion : FindCoordinatorResponse.firstListing ≤ r.version := by
      simpa [lists, hsource] using h
    simp only [replaceAll, field, hsource, hversion, if_true, Int16.not_lt.mpr hversion, if_false]

theorem replaceAll_of_not_lists (mapping : AddressMapping m) (h : r.lists = false) :
    replaceAll mapping r response = do
      return (← response.modifyStruct r.field fun s => do
        return ((), ← replaceEndpoint mapping s)).2 := by
  cases hsource : r.source with
  | metadata => simp [lists, hsource] at h
  | findCoordinator =>
    have hversion : ¬ FindCoordinatorResponse.firstListing ≤ r.version := by
      simpa [lists, hsource] using h
    simp only [replaceAll, field, hsource, hversion, if_false, Int16.not_le.mp hversion, if_true]

variable [LawfulMonad m]

theorem modifyArray_of_null {α : Type} {s : Struct} {name : String}
    {change : List Value → ExceptT Error m (α × List Value)} (h : s.get name = .ok (.array none)) :
    s.modifyArray name change = do return ((← change []).1, s) := by
  simp only [Struct.modifyArray, h, ofExcept_ok, pure_bind]

theorem modifyArray_of_items {α : Type} {s : Struct} {name : String} {items : List Value}
    {change : List Value → ExceptT Error m (α × List Value)}
    (h : s.get name = .ok (.array (some items))) :
    s.modifyArray name change = do
      let (a, items) ← change items
      return (a, s.put name (.array (some items))) := by
  simp only [Struct.modifyArray, h, ofExcept_ok, pure_bind, Struct.set_eq_put h]

theorem modifyStruct_of_get {α : Type} {s inner : Struct} {name : String}
    {change : Struct → ExceptT Error m (α × Struct)} (h : s.get name = .ok (.struct inner)) :
    s.modifyStruct name change = do
      let (a, inner) ← change inner
      return (a, s.put name (.struct inner)) := by
  simp only [Struct.modifyStruct, h, ofExcept_ok, pure_bind, Struct.set_eq_put h]

/-- **Redirecting is asking and placing**: the mapping is asked for each endpoint in turn, and
its answers take their places. -/
theorem Decoded.replaceAll_eq (h : r.Decoded response) (mapping : AddressMapping m) :
    replaceAll mapping r response = do
      return r.place response (← (r.endpoints response).mapM mapping) := by
  cases h.located with
  | null hlists hget =>
    rw [replaceAll_of_lists mapping hlists, modifyArray_of_null hget]
    simp [endpoints_of_null hget, place_of_null hget, replaceEndpoints]
  | array items _ hlists _ hget _ _ hholds =>
    rw [replaceAll_of_lists mapping hlists, modifyArray_of_items hget,
      replaceEndpoints_eq mapping hholds]
    simp [endpoints_of_items hget, place_of_items hget]
  | single s e hlists _ hget _ hholds =>
    rw [replaceAll_of_not_lists mapping hlists, modifyStruct_of_get hget,
      replaceEndpoint_eq mapping hholds]
    simp [endpoints_of_struct hget hholds, place_of_struct hget]

end Redirector

end KafkaWire
