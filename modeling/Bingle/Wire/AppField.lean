import Bingle.Wire.Marshal

/-!
# The `app` of an object and the family it is read as

`from_json_value` (`bingle_core/src/messages/marshal.rs`) reads an object by its `app` first.  Where
that does not give a message, it goes on to a relay message by its `type`, whose `app` may be any
string (`nullable_app::deserialize_null`, `messages/types.rs`), and to a plain text.
-/

namespace Bingle.Wire

open Lib (Json Fields Slot)

/-! ## What can be read -/

def StringOrNull (v : Option Json) : Prop := ∀ j ∈ v, j ≠ .null → ∃ s, j = .str s

variable {v : Option Json}

lemma isSome_decOption_string :
    (Slot.decOption Lib.Codec.string.dec v).isSome ↔ StringOrNull v := by
  rw [Slot.isSome_decOption]
  refine forall₃_congr fun j _ _ => ?_
  cases j <;> simp [Lib.Codec.string]

lemma isSome_nullable_dec : (Slot.nullable.dec v).isSome ↔ StringOrNull v :=
  isSome_decOption_string

lemma isSome_optString_dec : (optString.dec v).isSome ↔ StringOrNull v :=
  isSome_decOption_string

lemma isSome_optOptString_dec : (optOptString.dec v).isSome ↔ StringOrNull v := by
  have h : (optOptString.dec v).isSome ↔
      ∀ j ∈ v, j ≠ .null → ((Lib.Codec.string.dec j).map some).isSome := Slot.isSome_decOption
  rw [h, ← isSome_decOption_string, Slot.isSome_decOption]
  simp only [Option.isSome_map]

lemma isSome_relay_dec {get : String → Option Json} (h : (RelayMessage.dec get).isSome) :
    StringOrNull (get "app") := by
  obtain ⟨v, hv, hsome⟩ := Fields.exists_variant_of_decTagged h
  simp only [List.mem_cons, List.not_mem_nil, or_false] at hv
  rcases hv with rfl | rfl | rfl | rfl | rfl | rfl | rfl | rfl | rfl | rfl | rfl | rfl
  all_goals
    simp only [Fields.variant, Option.isSome_map, RelayCall.fields, RelayResponse.fields,
      RelayTriangleTest1.fields, RelayTriangleTest2.fields, RelayTriangleTest3.fields,
      RelayTriangleTest1Response.fields, RelayListen.fields, RelayCheck.fields,
      RelayListenResponse.fields, RelayCheckResponse.fields, RelayKeepAlive.fields,
      RelayCalled.fields, Fields.isSome_dec_field, isSome_nullable_dec] at hsome
    tauto

/-- An object that is read as a plain text: a string for its `text`, and what may be missing is of
its type where it is there. -/
structure PlainShape (get : String → Option Json) : Prop where
  text : ∃ s, get "text" = some (.str s)
  app : StringOrNull (get "app")
  type : StringOrNull (get "type")
  cipherSuite : StringOrNull (get "cipher_suite")
  sentTime : ∀ j ∈ get "sent_time", j ≠ .null → ∃ t : Int64, j = .int t.toInt
  signature : StringOrNull (get "signature")

lemma isSome_required_string_dec {v : Option Json} :
    ((Slot.required Lib.Codec.string).dec v).isSome ↔ ∃ s, v = some (.str s) := by
  rcases v with _ | j
  · simp [Slot.required]
  · cases j <;> simp [Slot.required, Lib.Codec.string]

lemma isSome_optI64_dec {v : Option Json} :
    (optI64.dec v).isSome ↔ ∀ j ∈ v, j ≠ .null → ∃ t : Int64, j = .int t.toInt := by
  have h : (optI64.dec v).isSome ↔ ∀ j ∈ v, j ≠ .null → (Lib.Codec.i64.dec j).isSome :=
    Slot.isSome_decOption
  rw [h]
  refine forall₃_congr fun j _ _ => ⟨fun hj => ?_, ?_⟩
  · obtain ⟨t, ht⟩ := Option.isSome_iff_exists.mp hj
    exact ⟨t, Lib.Codec.eq_int_of_dec_integer ht⟩
  · rintro ⟨t, rfl⟩
    rw [show (Json.int t.toInt) = Lib.Codec.i64.enc t from rfl, Lib.Codec.i64.dec_enc]
    rfl

lemma isSome_plainText_dec_iff {get : String → Option Json} :
    (PlainTextMessage.fields.dec get).isSome ↔ PlainShape get := by
  simp only [PlainTextMessage.fields, Fields.isSome_dec_field, Fields.isSome_dec_make,
    isSome_required_string_dec, isSome_optOptString_dec, isSome_optString_dec, isSome_optI64_dec,
    true_and]
  constructor
  · rintro ⟨⟨⟨⟨⟨htext, happ⟩, htype⟩, hcipher⟩, hsent⟩, hsig⟩
    exact ⟨htext, happ, htype, hcipher, hsent, hsig⟩
  · rintro ⟨htext, happ, htype, hcipher, hsent, hsig⟩
    exact ⟨⟨⟨⟨⟨htext, happ⟩, htype⟩, hcipher⟩, hsent⟩, hsig⟩

/-! ## The attempts -/

def familyOfApp (app : String) : Option Family :=
  if app = "ping" then some .ping
  else if app = "ddb" then some .ddb
  else if app = "mutex" then some .mutex
  else if app = "reportFail" then some .reportFail
  else none

section

variable {it : Iteration} {entries : List (String × Json)}

lemma family_of_decByApp {get : String → Option Json} {m : Message} (h : decByApp it get = some m) :
    ∃ app, get "app" = some (.str app) ∧ m.family = familyOfApp app ∧
      (familyOfApp app).isSome ∧ m.family ≠ some .relay := by
  unfold decByApp at h
  split at h
  next app happ =>
    refine ⟨app, happ, ?_⟩
    rw [familyOfApp]
    split_ifs at h ⊢
    all_goals
      obtain ⟨_, -, rfl⟩ := Option.map_eq_some_iff.mp h
      exact ⟨rfl, rfl, nofun⟩
  next => cases h

lemma fromJsonValue_of_decByApp_none (h : decByApp it (fun k => entries.lookup k) = none) :
    fromJsonValue it (.obj entries) =
      match RelayMessage.dec fun k => entries.lookup k with
      | some m => .relay m
      | none =>
        match PlainTextMessage.fields.dec fun k => entries.lookup k with
        | some m => .plainText m
        | none => .unknown (.obj entries) := by
  simp only [fromJsonValue, h]
  cases hrelay : RelayMessage.dec fun k => entries.lookup k with
  | some m =>
    have htype : (entries.lookup "type").isSome := Fields.isSome_tag_of_decTagged hrelay
    simp [htype]
  | none =>
    cases hplain : PlainTextMessage.fields.dec fun k => entries.lookup k with
    | some m => cases (entries.lookup "app").isNone && (entries.lookup "type").isNone <;> simp
    | none => simp

lemma familyOfApp_ne_plainText (app : String) : familyOfApp app ≠ some .plainText := by
  rw [familyOfApp]
  split_ifs <;> simp

/-! ## Reading by `app` -/

/-- An object with an `app` that is not `null` is not read as a relay message, and one whose `app`
names a family as a message of that family or as an unknown one. -/
def RespectsApp (entries : List (String × Json)) (m : Message) : Prop :=
  (∀ v, entries.lookup "app" = some v → v ≠ .null → m.family ≠ some .relay) ∧
    ∀ app family, entries.lookup "app" = some (.str app) → familyOfApp app = some family →
      m.family = some family ∨ m.family = none

/-- An object whose `app` is a string and that is not a message of the family it names has neither
the shape of a relay message nor, where `app` does name a family, that of a plain text. -/
def ReadByApp (it : Iteration) (entries : List (String × Json)) : Prop :=
  ∀ app, entries.lookup "app" = some (.str app) →
    decByApp it (fun k => entries.lookup k) = none →
      RelayMessage.dec (fun k => entries.lookup k) = none ∧
        ((familyOfApp app).isSome → ¬ PlainShape fun k => entries.lookup k)

/-- **Decoding respects `app`** exactly where an object that is not a message of the family its
`app` names does not have the shape of another one. -/
theorem decoding_respects_app_iff (it : Iteration) (entries : List (String × Json)) :
    RespectsApp entries (fromJsonValue it (.obj entries)) ↔ ReadByApp it entries := by
  cases hby : decByApp it fun k => entries.lookup k with
  | some m =>
    obtain ⟨app, happ, hfamily, -, hrelay⟩ := family_of_decByApp hby
    rw [fromJsonValue_of_decByApp it hby]
    refine iff_of_true ⟨fun _ _ _ => hrelay, fun app' family happ' hnamed => Or.inl ?_⟩ ?_
    · obtain rfl : app = app' := by simpa [happ] using happ'
      exact hfamily.trans hnamed
    · intro _ _ hnone
      exact absurd (hby.symm.trans hnone) nofun
  | none =>
    rw [fromJsonValue_of_decByApp_none hby]
    cases hrelay : RelayMessage.dec fun k => entries.lookup k with
    | some m =>
      -- read as a relay message: wrong where there is an `app`, which is a string then
      have hshape : StringOrNull (entries.lookup "app") :=
        isSome_relay_dec (Option.isSome_of_eq_some hrelay)
      constructor
      · rintro ⟨hnot, -⟩ app happ -
        exact absurd rfl (hnot (.str app) happ nofun)
      · intro h
        have hstring (app : String) : entries.lookup "app" ≠ some (.str app) := by
          intro happ
          exact absurd (hrelay.symm.trans (h app happ hby).1) nofun
        refine ⟨fun v hv hnull => ?_, fun app family happ _ => absurd happ (hstring app)⟩
        obtain ⟨app, rfl⟩ := hshape v hv hnull
        exact absurd hv (hstring app)
    | none =>
      cases hplain : PlainTextMessage.fields.dec fun k => entries.lookup k with
      | some m =>
        -- read as a plain text: wrong where `app` names a family
        have hshape : PlainShape fun k => entries.lookup k :=
          isSome_plainText_dec_iff.mp (Option.isSome_of_eq_some hplain)
        constructor
        · rintro ⟨-, h⟩ app happ -
          refine ⟨hrelay, fun hnamed _ => ?_⟩
          obtain ⟨family, hfamily⟩ := Option.isSome_iff_exists.mp hnamed
          rcases h app family happ hfamily with hread | hread
          · exact familyOfApp_ne_plainText app (hfamily.trans hread.symm)
          · cases hread
        · intro h
          refine ⟨fun _ _ _ => nofun, fun app family happ hfamily => ?_⟩
          exact absurd hshape ((h app happ hby).2 (Option.isSome_of_eq_some hfamily))
      | none =>
        refine iff_of_true ⟨fun _ _ _ => nofun, fun _ _ _ _ => Or.inr rfl⟩ ?_
        intro app _ _
        refine ⟨hrelay, fun _ hshape => ?_⟩
        have hsome := isSome_plainText_dec_iff.mpr hshape
        rw [hplain] at hsome
        cases hsome

theorem app_ignored :
    fromJsonValue sorted (.obj [("app", .str "chat"), ("type", .str "KeepAlive")]) =
        .relay (.keepAlive ⟨some "chat"⟩) ∧
      ¬ RespectsApp [("app", .str "chat"), ("type", .str "KeepAlive")]
        (.relay (.keepAlive ⟨some "chat"⟩)) ∧
      fromJsonValue sorted (.obj [("app", .str "ping"), ("text", .str "hello")]) =
        .plainText ⟨"hello", some (some "ping"), none, none, none, none⟩ ∧
      ¬ RespectsApp [("app", .str "ping"), ("text", .str "hello")]
        (.plainText ⟨"hello", some (some "ping"), none, none, none, none⟩) := by
  refine ⟨rfl, fun h => ?_, rfl, fun h => ?_⟩
  · exact h.1 (.str "chat") rfl nofun rfl
  · rcases h.2 "ping" .ping rfl rfl with hread | hread <;> cases hread

end

end Bingle.Wire
