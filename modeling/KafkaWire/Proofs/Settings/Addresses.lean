import KafkaWire.Proofs.Outcome
import KafkaWire.Settings

/-!
# Mappings as a table of endpoints

The mappings of the settings are texts, and they are looked through twice: once to check them and
once to make a table of them. A proxy that has checked its settings relies on the table being there.
It is, because **both passes are the same pass** over the endpoints that the texts denote, and what
they do with the endpoints cannot fail.

The table goes by endpoints, and not by texts. Of several mappings for one endpoint, in whatever
spelling, the last one holds.

## Main definitions

* `BrokerMapping.endpoints` — the two endpoints of a mapping
* `AddressTable.insertAll` — a table with more entries

## Main results

* `Settings.validateMappings_eq`, `Settings.addMappings_eq` — the two passes
* `Settings.ofJson_validate`, `Settings.ofVariables_validate` — which settings were checked
* `Settings.addressTable_outcome` — when there is a table, and what it says
-/

namespace KafkaWire

/-! ### Tables -/

namespace AddressTable

variable {table : AddressTable} {e broker advertised : Endpoint}

theorem lookup_cons (entry : Endpoint × Endpoint) (entries : List (Endpoint × Endpoint))
    (e : Endpoint) : (entry :: entries).lookup e =
      if e = entry.1 then some entry.2 else entries.lookup e := by
  by_cases he : e = entry.1
  · rw [if_pos he, he, List.lookup_cons, beq_self_eq_true]
  · rw [if_neg he, List.lookup_cons, beq_false_of_ne he]

/-- An entry that is removed is not found, and all others are. -/
theorem lookup_filter (entries : List (Endpoint × Endpoint)) (e broker : Endpoint) :
    (entries.filter (·.1 ≠ broker)).lookup e = if e = broker then none else entries.lookup e := by
  induction entries with
  | nil => simp
  | cons entry entries ih =>
    rw [List.filter_cons, lookup_cons]
    by_cases hentry : entry.1 = broker
    · have hdropped : ¬ decide (entry.1 ≠ broker) = true := by simp [hentry]
      rw [if_neg hdropped, ih, hentry]
      split <;> rfl
    · have hkept : decide (entry.1 ≠ broker) = true := by simp [hentry]
      rw [if_pos hkept, lookup_cons, ih]
      by_cases he : e = entry.1
      · rw [if_pos he, if_neg (he ▸ hentry), if_pos he]
      · rw [if_neg he, if_neg he]

theorem lookup_insert (table : AddressTable) (e broker advertised : Endpoint) :
    (table.insert broker advertised).entries.lookup e =
      if e = broker then some advertised else table.entries.lookup e := by
  rw [insert, List.lookup_append, lookup_filter]
  by_cases he : e = broker
  · rw [if_pos he, if_pos he, Option.none_or, lookup_cons, if_pos he]
  · rw [if_neg he, if_neg he, lookup_cons, if_neg he, List.lookup_nil, Option.or_none]

/-- More entries, later ones over earlier ones. -/
def insertAll (table : AddressTable) (entries : List (Endpoint × Endpoint)) : AddressTable :=
  entries.foldl (fun table entry => table.insert entry.1 entry.2) table

/-- Entries for other endpoints change nothing. -/
theorem lookup_insertAll_of_forall_ne {entries : List (Endpoint × Endpoint)}
    (h : ∀ entry ∈ entries, entry.1 ≠ e) (table : AddressTable) :
    (table.insertAll entries).entries.lookup e = table.entries.lookup e := by
  induction entries generalizing table with
  | nil => rfl
  | cons entry entries ih =>
    obtain ⟨hentry, hentries⟩ := List.forall_mem_cons.mp h
    have hstep : (table.insert entry.1 entry.2).entries.lookup e = table.entries.lookup e := by
      rw [lookup_insert, if_neg (Ne.symm hentry)]
    exact (ih hentries _).trans hstep

/-- **The last entry for an endpoint holds.** -/
theorem lookup_insertAll_of_last {front back : List (Endpoint × Endpoint)}
    (h : ∀ entry ∈ back, entry.1 ≠ e) (table : AddressTable) :
    (table.insertAll (front ++ (e, advertised) :: back)).entries.lookup e = some advertised := by
  have hcut : table.insertAll (front ++ (e, advertised) :: back) =
      ((table.insertAll front).insert e advertised).insertAll back := by
    rw [insertAll, List.foldl_append, List.foldl_cons]
    rfl
  rw [hcut, lookup_insertAll_of_forall_ne h, lookup_insert, if_pos rfl]

theorem map_of_empty (h : e.host = "") : table.map e = .ok e := if_pos h

theorem map_of_lookup (hhost : e.host ≠ "") (h : table.entries.lookup e = some advertised) :
    table.map e = .ok advertised := by
  rw [map, if_neg hhost, h]

theorem map_of_lookup_none (hhost : e.host ≠ "") (h : table.entries.lookup e = none) :
    table.map e = .error (.addressMapping (.unmapped e.host e.port)) := by
  rw [map, if_neg hhost, h]

end AddressTable

/-! ### Mappings -/

namespace BrokerMapping

/-- The endpoints of a mapping, of which the broker's is read first. -/
def endpoints (m : BrokerMapping) : Except Error (Endpoint × Endpoint) := do
  let broker ← Endpoint.parse m.broker
  let advertised ← Endpoint.parse m.advertised
  return (broker, advertised)

theorem endpoints_eq_ok {m : BrokerMapping} {entry : Endpoint × Endpoint} :
    m.endpoints = .ok entry ↔
      Endpoint.parse m.broker = .ok entry.1 ∧ Endpoint.parse m.advertised = .ok entry.2 := by
  rw [endpoints, bind_outcome_eq_ok]
  constructor
  · rintro ⟨broker, hbroker, h⟩
    obtain ⟨advertised, hadvertised, hpure⟩ := bind_outcome_eq_ok.mp h
    cases hpure
    exact ⟨hbroker, hadvertised⟩
  · rintro ⟨hbroker, hadvertised⟩
    exact ⟨_, hbroker, bind_outcome_eq_ok.mpr ⟨_, hadvertised, rfl⟩⟩

end BrokerMapping

namespace Settings

variable {s : Settings} {table : AddressTable}

/-! ### The two passes -/

/-- **Checking the mappings** is reading all their endpoints. -/
theorem validateMappings_eq (mappings : List BrokerMapping) :
    validateMappings mappings = mappings.mapM BrokerMapping.endpoints >>= fun _ => .ok () := by
  induction mappings with
  | nil => rfl
  | cons m mappings ih =>
    rw [List.mapM_cons, validateMappings, BrokerMapping.endpoints]
    cases Endpoint.parse m.broker with
    | error e => rfl
    | ok broker =>
      cases Endpoint.parse m.advertised with
      | error e => rfl
      | ok advertised =>
        show validateMappings mappings = _
        rw [ih]
        cases mappings.mapM BrokerMapping.endpoints <;> rfl

/-- **Making a table of the mappings** is the same, and then putting the endpoints in. -/
theorem addMappings_eq (mappings : List BrokerMapping) (table : AddressTable) :
    addMappings table mappings = mappings.mapM BrokerMapping.endpoints >>= fun entries =>
      .ok (table.insertAll entries) := by
  induction mappings generalizing table with
  | nil => rfl
  | cons m mappings ih =>
    rw [List.mapM_cons, addMappings, BrokerMapping.endpoints]
    cases Endpoint.parse m.broker with
    | error e => rfl
    | ok broker =>
      cases Endpoint.parse m.advertised with
      | error e => rfl
      | ok advertised =>
        show addMappings (table.insert broker advertised) mappings = _
        rw [ih]
        cases mappings.mapM BrokerMapping.endpoints <;> rfl

/-- All mappings have their endpoints exactly if all their texts denote some. -/
theorem exists_entries_iff {mappings : List BrokerMapping} :
    (∃ entries, mappings.mapM BrokerMapping.endpoints = .ok entries) ↔
      ∀ m ∈ mappings, (∃ e, Endpoint.parse m.broker = .ok e) ∧
        ∃ e, Endpoint.parse m.advertised = .ok e := by
  rw [exists_mapM_outcome_iff]
  refine forall₂_congr fun m _ => ?_
  constructor
  · rintro ⟨entry, h⟩
    obtain ⟨hbroker, hadvertised⟩ := BrokerMapping.endpoints_eq_ok.mp h
    exact ⟨⟨_, hbroker⟩, _, hadvertised⟩
  · rintro ⟨⟨broker, hbroker⟩, advertised, hadvertised⟩
    exact ⟨(broker, advertised), BrokerMapping.endpoints_eq_ok.mpr ⟨hbroker, hadvertised⟩⟩

theorem addressTable_eq_ok : s.addressTable = .ok table ↔ ∃ entries,
    s.mappings.mapM BrokerMapping.endpoints = .ok entries ∧
      AddressTable.insertAll {} entries = table := by
  rw [addressTable, addMappings_eq, bind_outcome_eq_ok]
  simp only [Except.ok.injEq]

theorem exists_addressTable_iff : (∃ table, s.addressTable = .ok table) ↔
    ∃ entries, s.mappings.mapM BrokerMapping.endpoints = .ok entries := by
  simp only [addressTable_eq_ok]
  constructor
  · rintro ⟨_, entries, h, -⟩
    exact ⟨entries, h⟩
  · rintro ⟨entries, h⟩
    exact ⟨_, entries, h, rfl⟩

/-- **Settings are sound** if both limits are positive and all mappings are endpoints. -/
theorem validate_eq_ok : s.validate = .ok () ↔
    (0 < s.maxRequestSize ∧ 0 < s.maxResponseSize) ∧
      ∃ entries, s.mappings.mapM BrokerMapping.endpoints = .ok entries := by
  rw [validate, validateMappings_eq]
  split
  · rename_i hzero
    constructor
    · intro h
      cases h
    · rintro ⟨hpos, -⟩
      omega
  · rename_i hpos
    rw [bind_outcome_eq_ok]
    constructor
    · rintro ⟨entries, h, -⟩
      exact ⟨by omega, entries, h⟩
    · rintro ⟨-, entries, h⟩
      exact ⟨entries, h, rfl⟩

/-- **With positive limits both passes fail alike.** -/
theorem addressTable_eq_error (hrequest : 0 < s.maxRequestSize) (hresponse : 0 < s.maxResponseSize)
    {e : Error} : s.addressTable = .error e ↔ s.validate = .error e := by
  have hpos : ¬ (s.maxRequestSize = 0 ∨ s.maxResponseSize = 0) := by omega
  rw [validate, if_neg hpos, validateMappings_eq, addressTable, addMappings_eq,
    bind_outcome_eq_error, bind_outcome_eq_error]
  simp only [reduceCtorEq, and_false, exists_false]

/-! ### Settings that were checked -/

theorem ofJson_validate {text : String} (h : ofJson text = .ok s) : s.validate = .ok () := by
  rw [ofJson] at h
  split at h
  · cases h
  · obtain ⟨_, hvalid, hpure⟩ := bind_outcome_eq_ok.mp h
    cases hpure
    exact hvalid

/-- The size that a variable gives, or the default. -/
def sizeOf (lookup : String → Option String) (key : String) (default : Nat) : Except Error Nat :=
  match lookup key with
  | some text => parseSize key text
  | none => .ok default

/-- The mappings that the variable gives, if it is set. -/
def mappingsOf (lookup : String → Option String) : Except Error (List BrokerMapping) :=
  match lookup mappingsVariable with
  | some text => parseMappings text
  | none => .ok []

/-- The settings are put together from the three variables, and then checked. -/
theorem ofVariables_eq (lookup : String → Option String) : ofVariables lookup = (do
    let maxRequestSize ← sizeOf lookup requestSizeVariable ({} : Settings).maxRequestSize
    let maxResponseSize ← sizeOf lookup responseSizeVariable ({} : Settings).maxResponseSize
    let mappings ← mappingsOf lookup
    let s : Settings := { maxRequestSize, maxResponseSize, mappings }
    s.validate
    return s) := by
  rw [ofVariables, sizeOf, sizeOf, mappingsOf]
  cases lookup requestSizeVariable <;> cases lookup responseSizeVariable <;>
    cases lookup mappingsVariable <;> rfl

theorem ofVariables_eq_ok {lookup : String → Option String} : ofVariables lookup = .ok s ↔
    sizeOf lookup requestSizeVariable ({} : Settings).maxRequestSize = .ok s.maxRequestSize ∧
    sizeOf lookup responseSizeVariable ({} : Settings).maxResponseSize = .ok s.maxResponseSize ∧
    mappingsOf lookup = .ok s.mappings ∧ s.validate = .ok () := by
  rw [ofVariables_eq]
  simp only [bind_outcome_eq_ok]
  constructor
  · rintro ⟨request, hrequest, response, hresponse, mappings, hmappings, _, hvalid, hpure⟩
    cases hpure
    exact ⟨hrequest, hresponse, hmappings, hvalid⟩
  · rintro ⟨hrequest, hresponse, hmappings, hvalid⟩
    exact ⟨_, hrequest, _, hresponse, _, hmappings, (), hvalid, rfl⟩

theorem ofVariables_validate {lookup : String → Option String} (h : ofVariables lookup = .ok s) :
    s.validate = .ok () :=
  (ofVariables_eq_ok.mp h).2.2.2

/-! ### What the table says -/

section Table

variable {e : Endpoint} (h : s.addressTable = .ok table)

include h

/-- **An endpoint is mapped as the last of its mappings says.** -/
theorem map_of_last {m : BrokerMapping} {front back : List BrokerMapping} (hhost : e.host ≠ "")
    (hcut : s.mappings = front ++ m :: back) (hbroker : Endpoint.parse m.broker = .ok e)
    (hlast : ∀ later ∈ back, Endpoint.parse later.broker ≠ .ok e) :
    ∃ advertised, Endpoint.parse m.advertised = .ok advertised ∧
      table.map e = .ok advertised := by
  obtain ⟨entries, hentries, rfl⟩ := addressTable_eq_ok.mp h
  rw [hcut] at hentries
  obtain ⟨before, entry, after, hentry, hafter, rfl⟩ := exists_cut_of_mapM_outcome hentries
  obtain ⟨hself, hadvertised⟩ := BrokerMapping.endpoints_eq_ok.mp hentry
  obtain rfl : e = entry.1 := Except.ok.inj (hbroker.symm.trans hself)
  have hothers : ∀ later ∈ after, later.1 ≠ entry.1 := by
    intro later hmem heq
    obtain ⟨m', hm', hlater⟩ := exists_mem_of_mapM_outcome hafter hmem
    exact hlast m' hm' (heq ▸ (BrokerMapping.endpoints_eq_ok.mp hlater).1)
  exact ⟨entry.2, hadvertised,
    AddressTable.map_of_lookup hhost (AddressTable.lookup_insertAll_of_last hothers _)⟩

/-- **An endpoint without a mapping is refused.** -/
theorem map_of_unmapped (hhost : e.host ≠ "")
    (hnone : ∀ m ∈ s.mappings, Endpoint.parse m.broker ≠ .ok e) :
    table.map e = .error (.addressMapping (.unmapped e.host e.port)) := by
  obtain ⟨entries, hentries, rfl⟩ := addressTable_eq_ok.mp h
  have hothers : ∀ entry ∈ entries, entry.1 ≠ e := by
    intro entry hmem heq
    obtain ⟨m, hm, hentry⟩ := exists_mem_of_mapM_outcome hentries hmem
    exact hnone m hm (heq ▸ (BrokerMapping.endpoints_eq_ok.mp hentry).1)
  exact AddressTable.map_of_lookup_none hhost
    (AddressTable.lookup_insertAll_of_forall_ne hothers _)

end Table

/-- **When there is a table, and what it says.**

There is one exactly if both texts of every mapping denote endpoints. So there is one for all
settings that are sound, and settings from a document or from variables are. If the limits are
positive and the settings are not sound, making the table fails for the same reason.

A table maps an endpoint without a host to itself. Every other endpoint is mapped to what the last
mapping says whose broker denotes it, however it is spelled there, and it is refused if there is no
such mapping. -/
theorem addressTable_outcome (s : Settings) :
    ((∃ table, s.addressTable = .ok table) ↔ ∀ m ∈ s.mappings,
      (∃ e, Endpoint.parse m.broker = .ok e) ∧ ∃ e, Endpoint.parse m.advertised = .ok e) ∧
    (s.validate = .ok () → ∃ table, s.addressTable = .ok table) ∧
    (∀ text, ofJson text = .ok s → s.validate = .ok ()) ∧
    (∀ lookup, ofVariables lookup = .ok s → s.validate = .ok ()) ∧
    (0 < s.maxRequestSize → 0 < s.maxResponseSize → ∀ e, s.validate = .error e →
      s.addressTable = .error e) ∧
    (∀ table, s.addressTable = .ok table → ∀ e : Endpoint,
      (e.host = "" → table.map e = .ok e) ∧
      (e.host ≠ "" →
        (∀ front m back, s.mappings = front ++ m :: back → Endpoint.parse m.broker = .ok e →
          (∀ later ∈ back, Endpoint.parse later.broker ≠ .ok e) →
          ∃ advertised, Endpoint.parse m.advertised = .ok advertised ∧
            table.map e = .ok advertised) ∧
        ((∀ m ∈ s.mappings, Endpoint.parse m.broker ≠ .ok e) →
          table.map e = .error (.addressMapping (.unmapped e.host e.port))))) := by
  refine ⟨exists_addressTable_iff.trans exists_entries_iff, fun hvalid => ?_, ?_, ?_, ?_, ?_⟩
  · exact exists_addressTable_iff.mpr (validate_eq_ok.mp hvalid).2
  · exact fun text => ofJson_validate
  · exact fun lookup => ofVariables_validate
  · intro hrequest hresponse e hinvalid
    exact (addressTable_eq_error hrequest hresponse).mpr hinvalid
  · intro table h e
    refine ⟨AddressTable.map_of_empty, fun hhost => ⟨?_, map_of_unmapped h hhost⟩⟩
    intro front m back hcut hbroker hlast
    exact map_of_last h hhost hcut hbroker hlast

/-- An endpoint is mapped twice, in two spellings, with another mapping between them. -/
theorem addressTable_outcome_respelled :
    let s : Settings :=
      { mappings := [⟨"h:80", "a:1"⟩, ⟨"g:80", "c:3"⟩, ⟨"h:+080", "b:2"⟩] }
    s.validate = .ok () ∧ ∃ table, s.addressTable = .ok table ∧
      table.map ⟨"h", 80⟩ = .ok ⟨"b", 2⟩ ∧ table.map ⟨"g", 80⟩ = .ok ⟨"c", 3⟩ ∧
      table.map ⟨"", 7⟩ = .ok ⟨"", 7⟩ ∧
      table.map ⟨"h", 81⟩ = .error (.addressMapping (.unmapped "h" 81)) := by
  intro s
  have hvalid : s.validate = .ok () := rfl
  have first : Endpoint.parse "h:80" = .ok ⟨"h", 80⟩ := rfl
  have middle : Endpoint.parse "g:80" = .ok ⟨"g", 80⟩ := rfl
  have respelled : Endpoint.parse "h:+080" = .ok ⟨"h", 80⟩ := rfl
  obtain ⟨-, exists_table, -, -, -, mapped⟩ := addressTable_outcome s
  obtain ⟨table, h⟩ := exists_table hvalid
  refine ⟨hvalid, table, h, ?_, ?_, ?_, ?_⟩
  · obtain ⟨advertised, hadvertised, hmap⟩ := ((mapped table h ⟨"h", 80⟩).2 (by decide)).1
      [⟨"h:80", "a:1"⟩, ⟨"g:80", "c:3"⟩] ⟨"h:+080", "b:2"⟩ [] rfl respelled
      (List.forall_mem_nil _)
    obtain rfl : ⟨"b", 2⟩ = advertised := Except.ok.inj hadvertised
    exact hmap
  · obtain ⟨advertised, hadvertised, hmap⟩ := ((mapped table h ⟨"g", 80⟩).2 (by decide)).1
      [⟨"h:80", "a:1"⟩] ⟨"g:80", "c:3"⟩ [⟨"h:+080", "b:2"⟩] rfl middle
      (by simp [respelled])
    obtain rfl : ⟨"c", 3⟩ = advertised := Except.ok.inj hadvertised
    exact hmap
  · exact (mapped table h ⟨"", 7⟩).1 rfl
  · refine ((mapped table h ⟨"h", 81⟩).2 (by decide)).2 ?_
    simp [s, first, middle, respelled]

end Settings

end KafkaWire
