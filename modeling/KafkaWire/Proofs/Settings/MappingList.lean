import Mathlib.Data.List.TakeDrop
import KafkaWire.Proofs.Settings.Addresses
import KafkaWire.Proofs.Text.Blank
import KafkaWire.Proofs.Text.Separator

/-!
# Lists of mappings as texts

A variable holds all mappings in one text, `broker,advertised` separated by semicolons. The text is
taken apart twice, at every semicolon and then at the first comma, and trimmed after each time. A
comma or a semicolon is never trimmed away, and so the text can be read in one step: **a segment
gives a mapping by its first comma alone**, and what is trimmed at its ends is trimmed at the ends
of the two sides.

For a mapping to come back from such a text, neither side may hold a semicolon or begin or end with
a blank character, and the broker's side no comma. That the sides are endpoints is asked by the
check of the settings, after all mappings have been read.

## Main definitions

* `BrokerMapping.Listable` — the mappings that can be written in a list
* `Settings.Rendering` — the segments of a list of mappings, with blank characters and segments
* `Settings.segmentsOf`, `Settings.Gives` — the segments of a text that count, and what they give

## Main results

* `Settings.parseMappings_eq_ok` — what a text is read as
* `Settings.parseMappings_of_rendering` — mappings that were written come back
* `Settings.ofVariables_mappings` — the same for the settings that variables give
-/

namespace KafkaWire

/-- A mapping whose texts can be told apart in a list. -/
structure BrokerMapping.Listable (m : BrokerMapping) : Prop where
  broker_trimmed : Text.IsTrimmed m.broker.toList
  advertised_trimmed : Text.IsTrimmed m.advertised.toList
  comma_notMem_broker : ',' ∉ m.broker.toList
  semicolon_notMem_broker : ';' ∉ m.broker.toList
  semicolon_notMem_advertised : ';' ∉ m.advertised.toList

namespace Settings

open Text

variable {segment left right : List Char} {m : BrokerMapping} {ms : List BrokerMapping}

/-! ### One segment -/

/-- What a segment gives: its first comma separates the two sides, which are trimmed. -/
def Gives (segment : List Char) (m : BrokerMapping) : Prop :=
  ∃ broker advertised, segment = broker ++ ',' :: advertised ∧ ',' ∉ broker ∧
    m = ⟨.ofList (trimChars broker), .ofList (trimChars advertised)⟩

theorem parseMapping_append_cons (h : ',' ∉ left) (right : List Char) :
    parseMapping (left ++ ',' :: right) =
      .ok ⟨.ofList (trimChars left), .ofList (trimChars right)⟩ := by
  have hspan : (left ++ ',' :: right).span (· ≠ ',') = (left, ',' :: right) := by
    rw [List.span_eq_takeWhile_dropWhile, takeWhile_ne_append_cons h, dropWhile_ne_append_cons h]
  rw [parseMapping, hspan]

theorem parseMapping_of_notMem (h : ',' ∉ segment) : parseMapping segment =
    .error (.settings (.noAdvertised mappingsVariable (.ofList segment))) := by
  rw [parseMapping, List.span_eq_takeWhile_dropWhile, dropWhile_ne_of_notMem h]

/-- **A segment is read by its first comma**, whatever is trimmed before. -/
theorem parseMapping_trimChars_eq_ok : parseMapping (trimChars segment) = .ok m ↔
    Gives segment m := by
  have hboth (left right : List Char) (h : ',' ∉ left) :
      parseMapping (trimChars (left ++ ',' :: right)) =
        .ok ⟨.ofList (trimChars left), .ofList (trimChars right)⟩ := by
    obtain ⟨left', right', htrim, hsubset, hleft, hright⟩ :=
      exists_trimChars_append_cons (by decide : isBlank ',' = false) left right
    rw [htrim, parseMapping_append_cons (fun hmem => h (hsubset hmem)), hleft, hright]
  constructor
  · intro h
    by_cases hmem : ',' ∈ segment
    · obtain ⟨left, right, rfl, hleft⟩ := List.eq_append_cons_of_mem hmem
      rw [hboth left right hleft] at h
      exact ⟨left, right, rfl, hleft, (Except.ok.inj h).symm⟩
    · rw [parseMapping_of_notMem fun h => hmem (subset_trimChars _ h)] at h
      cases h
  · rintro ⟨left, right, rfl, hleft, rfl⟩
    exact hboth left right hleft

/-! ### All segments -/

theorem splitAt_eq_splitOn (c : Char) (cs : List Char) : splitAt c cs = cs.splitOn c := by
  induction cs with
  | nil => rfl
  | cons d cs ih =>
    rw [splitAt, ih, List.splitOn_cons_eq_if_modifyHead]
    cases hsegments : cs.splitOn c with
    | nil => exact absurd hsegments (List.splitOn_ne_nil c cs)
    | cons segment segments => simp only [List.modifyHead_cons, beq_iff_eq]

/-- The segments of a text between semicolons, as far as they are not blank. -/
def segmentsOf (text : String) : List (List Char) := (text.toList.splitOn ';').filter (¬ Blank ·)

/-- **What a text is read as**: each segment that counts gives a mapping, in order. -/
theorem parseMappings_eq_ok {text : String} :
    parseMappings text = .ok ms ↔ List.Forall₂ Gives (segmentsOf text) ms := by
  have hfilter : ((text.toList.splitOn ';').map trimChars).filter (· ≠ []) =
      (segmentsOf text).map trimChars := by
    rw [List.filter_map, segmentsOf]
    refine congrArg _ (List.filter_congr fun segment _ => ?_)
    simp only [Function.comp_apply, ne_eq, trimChars_eq_nil]
  rw [parseMappings, splitAt_eq_splitOn, hfilter, mapM_outcome_eq_ok, List.forall₂_map_left_iff]
  simp only [parseMapping_trimChars_eq_ok]

/-! ### Mappings that were written -/

/-- The segments in which mappings are written. There may be blank ones among them, and blank
characters on both sides of each text. -/
inductive Rendering : List (List Char) → List BrokerMapping → Prop
  | nil : Rendering [] []
  | blank {segment segments ms} (h : Blank segment) (rest : Rendering segments ms) :
      Rendering (segment :: segments) ms
  | entry {m : BrokerMapping} {broker advertised segments ms}
      (hbroker : Padded m.broker.toList broker)
      (hadvertised : Padded m.advertised.toList advertised) (rest : Rendering segments ms) :
      Rendering ((broker ++ ',' :: advertised) :: segments) (m :: ms)

section Rendering

variable {segments : List (List Char)} (rendered : Rendering segments ms)
  (listable : ∀ m ∈ ms, m.Listable)

include rendered listable

/-- The semicolons between the segments are the only ones. -/
theorem Rendering.semicolon_notMem : ∀ segment ∈ segments, ';' ∉ segment := by
  have hc : isBlank ';' = false := by decide
  induction rendered with
  | nil => exact List.forall_mem_nil _
  | blank h rest ih =>
    refine List.forall_mem_cons.mpr ⟨fun hmem => ?_, ih listable⟩
    rw [h _ hmem] at hc
    cases hc
  | entry hbroker hadvertised rest ih =>
    obtain ⟨self, others⟩ := List.forall_mem_cons.mp listable
    refine List.forall_mem_cons.mpr ⟨fun hmem => ?_, ih others⟩
    rcases List.mem_append.mp hmem with hleft | hright
    · exact self.semicolon_notMem_broker (mem_of_mem_padded hc hbroker hleft)
    · rcases List.mem_cons.mp hright with heq | hright
      · exact absurd heq (by decide)
      · exact self.semicolon_notMem_advertised (mem_of_mem_padded hc hadvertised hright)

/-- **Each segment that counts gives back the mapping** that was written there. -/
theorem Rendering.forall₂_gives : List.Forall₂ Gives (segments.filter (¬ Blank ·)) ms := by
  have hc : isBlank ',' = false := by decide
  induction rendered with
  | nil => exact .nil
  | blank h rest ih =>
    rw [List.filter_cons_of_neg (by simpa using h)]
    exact ih listable
  | @entry m broker advertised segments ms hbroker hadvertised rest ih =>
    obtain ⟨self, others⟩ := List.forall_mem_cons.mp listable
    have counts : ¬ Blank (broker ++ ',' :: advertised) := by
      intro h
      rw [h ',' (by simp)] at hc
      cases hc
    have hfirst : ',' ∉ broker := fun hmem =>
      self.comma_notMem_broker (mem_of_mem_padded hc hbroker hmem)
    rw [List.filter_cons_of_pos (by simpa using counts)]
    refine .cons ⟨broker, advertised, rfl, hfirst, ?_⟩ (ih others)
    rw [trimChars_padded self.broker_trimmed hbroker,
      trimChars_padded self.advertised_trimmed hadvertised, String.ofList_toList,
      String.ofList_toList]

/-- **Mappings that were written come back**, all of them and in their order. -/
theorem parseMappings_of_rendering {text : String}
    (htext : text.toList = [';'].intercalate segments) : parseMappings text = .ok ms := by
  rw [parseMappings_eq_ok, segmentsOf, htext]
  by_cases hempty : segments = []
  · -- A text without segments still has a blank one.
    subst hempty
    cases rendered
    exact .nil
  · rw [List.splitOn_intercalate ';' (rendered.semicolon_notMem listable) hempty]
    exact rendered.forall₂_gives listable

end Rendering

/-! ### Settings -/

section Variables

variable {lookup : String → Option String}

/-- A size that is positive if it is given is positive. -/
theorem exists_sizeOf {key : String} {default : Nat} (hdefault : 0 < default)
    (h : ∀ text, lookup key = some text → ∃ n, parseSize key text = .ok n ∧ 0 < n) :
    ∃ n, sizeOf lookup key default = .ok n ∧ 0 < n := by
  rw [sizeOf]
  cases htext : lookup key with
  | none => exact ⟨default, rfl, hdefault⟩
  | some text => exact h text htext

/-- **Variables give the settings** that they are read as, if these are sound. -/
theorem exists_ofVariables (hms : mappingsOf lookup = .ok ms)
    (hsizes : ∀ key ∈ [requestSizeVariable, responseSizeVariable], ∀ text,
      lookup key = some text → ∃ n, parseSize key text = .ok n ∧ 0 < n)
    (hendpoints : ∀ m ∈ ms, (∃ e, Endpoint.parse m.broker = .ok e) ∧
      ∃ e, Endpoint.parse m.advertised = .ok e) :
    ∃ s, ofVariables lookup = .ok s ∧ s.mappings = ms := by
  have hdefault : 0 < ({} : Settings).maxRequestSize ∧ 0 < ({} : Settings).maxResponseSize := by
    decide
  obtain ⟨request, hrequest, hrequest_pos⟩ :=
    exists_sizeOf hdefault.1 (hsizes requestSizeVariable (by simp))
  obtain ⟨response, hresponse, hresponse_pos⟩ :=
    exists_sizeOf hdefault.2 (hsizes responseSizeVariable (by simp))
  have hvalid : validate ⟨request, response, ms⟩ = .ok () :=
    validate_eq_ok.mpr ⟨⟨hrequest_pos, hresponse_pos⟩, exists_entries_iff.mpr hendpoints⟩
  exact ⟨⟨request, response, ms⟩, ofVariables_eq_ok.mpr ⟨hrequest, hresponse, hms, hvalid⟩, rfl⟩

end Variables

/-- **The mappings that variables give.**

Mappings that are written into the variable come back, all of them and in their order, whatever
blank characters stand around their texts and whatever blank segments between them. Their texts must
be endpoints that can be told apart in a list, and the sizes, where they are given, be positive.

Whenever variables give settings, the mappings are those of the segments that are not blank, in
order, each cut at its first comma. Without the variable there are none. -/
theorem ofVariables_mappings (lookup : String → Option String) :
    (∀ ms segments text, (∀ m ∈ ms, m.Listable) →
      (∀ m ∈ ms, (∃ e, Endpoint.parse m.broker = .ok e) ∧
        ∃ e, Endpoint.parse m.advertised = .ok e) →
      Rendering segments ms → text.toList = [';'].intercalate segments →
      lookup mappingsVariable = some text →
      (∀ key ∈ [requestSizeVariable, responseSizeVariable], ∀ size, lookup key = some size →
        ∃ n, parseSize key size = .ok n ∧ 0 < n) →
      ∃ s, ofVariables lookup = .ok s ∧ s.mappings = ms) ∧
    ∀ s, ofVariables lookup = .ok s →
      (∀ text, lookup mappingsVariable = some text →
        List.Forall₂ Gives (segmentsOf text) s.mappings) ∧
      (lookup mappingsVariable = none → s.mappings = []) := by
  constructor
  · intro ms segments text listable hendpoints rendered htext hlookup hsizes
    have hms : mappingsOf lookup = .ok ms := by
      rw [mappingsOf, hlookup]
      exact parseMappings_of_rendering rendered listable htext
    exact exists_ofVariables hms hsizes hendpoints
  · intro s h
    have hms : mappingsOf lookup = .ok s.mappings := (ofVariables_eq_ok.mp h).2.2.1
    rw [mappingsOf] at hms
    refine ⟨fun text hlookup => ?_, fun hlookup => ?_⟩
    · rw [hlookup] at hms
      exact parseMappings_eq_ok.mp hms
    · rw [hlookup] at hms
      exact (Except.ok.inj hms).symm

/-- Two mappings among blank segments, with a comma in an advertised host and blank characters of
several widths around the texts. -/
theorem ofVariables_mappings_spaced :
    let ms : List BrokerMapping := [⟨"h:80", "a,b:1"⟩, ⟨"[::1]:+09", "c:2"⟩]
    let text := " h:80\u3000,\u00a0a,b:1;;\u2003;[::1]:+09, c:2\n"
    let lookup (key : String) : Option String :=
      if key = mappingsVariable then some text
      else if key = requestSizeVariable then some " 7 " else none
    ∃ s, ofVariables lookup = .ok s ∧ s.mappings = ms ∧
      List.Forall₂ Gives (segmentsOf text) s.mappings := by
  intro ms text lookup
  have padded : Padded "h:80".toList " h:80\u3000".toList ∧
      Padded "a,b:1".toList "\u00a0a,b:1".toList ∧ Padded "c:2".toList " c:2\n".toList :=
    ⟨⟨[' '], ['\u3000'], by decide, by decide, rfl⟩, ⟨['\u00a0'], [], by decide, by decide, rfl⟩,
      ⟨[' '], ['\n'], by decide, by decide, rfl⟩⟩
  have unpadded : Padded "[::1]:+09".toList "[::1]:+09".toList :=
    ⟨[], [], by decide, by decide, rfl⟩
  have rendered : Rendering [" h:80\u3000".toList ++ ',' :: "\u00a0a,b:1".toList, [], ['\u2003'],
      "[::1]:+09".toList ++ ',' :: " c:2\n".toList] ms :=
    .entry padded.1 padded.2.1 <| .blank (by decide) <| .blank (by decide) <|
      .entry unpadded padded.2.2 .nil
  have listable : ∀ m ∈ ms, m.Listable := by
    refine List.forall_mem_cons.mpr ⟨?_, List.forall_mem_singleton.mpr ?_⟩
    · exact ⟨by decide, by decide, by decide, by decide, by decide⟩
    · exact ⟨by decide, by decide, by decide, by decide, by decide⟩
  have endpoints : ∀ m ∈ ms, (∃ e, Endpoint.parse m.broker = .ok e) ∧
      ∃ e, Endpoint.parse m.advertised = .ok e := by
    refine List.forall_mem_cons.mpr ⟨?_, List.forall_mem_singleton.mpr ?_⟩
    · exact ⟨⟨⟨"h", 80⟩, rfl⟩, ⟨"a,b", 1⟩, rfl⟩
    · exact ⟨⟨⟨"[::1]", 9⟩, rfl⟩, ⟨"c", 2⟩, rfl⟩
  have sizes : ∀ key ∈ [requestSizeVariable, responseSizeVariable], ∀ size,
      lookup key = some size → ∃ n, parseSize key size = .ok n ∧ 0 < n := by
    refine List.forall_mem_cons.mpr ⟨?_, List.forall_mem_singleton.mpr ?_⟩
    · intro size hsize
      cases hsize
      exact ⟨7, rfl, by decide⟩
    · intro size hsize
      cases hsize
  obtain ⟨come_back, given⟩ := ofVariables_mappings lookup
  obtain ⟨s, h, hms⟩ := come_back ms _ text listable endpoints rendered (by decide) rfl sizes
  exact ⟨s, h, hms, (given s h).1 text rfl⟩

end Settings

end KafkaWire
