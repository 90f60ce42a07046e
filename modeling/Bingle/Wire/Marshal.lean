import Bingle.Wire.Messages

/-!
# Marshalling

`from_json_value` and `to_json_value` (`bingle_core/src/messages/marshal.rs`).  A message is written
by its family; reading tries the families in turn, first by the value of `app`.
-/

namespace Bingle.Wire

open Lib (Json Fields Slot)

/-! ## The families -/

inductive RelayMessage
  | call (m : RelayCall)
  | relayResponse (m : RelayResponse)
  | triangleTest1 (m : RelayTriangleTest1)
  | triangleTest2 (m : RelayTriangleTest2)
  | triangleTest3 (m : RelayTriangleTest3)
  | triangleTest1Response (m : RelayTriangleTest1Response)
  | listen (m : RelayListen)
  | check (m : RelayCheck)
  | listenResponse (m : RelayListenResponse)
  | checkResponse (m : RelayCheckResponse)
  | keepAlive (m : RelayKeepAlive)
  | relayCalled (m : RelayCalled)

namespace RelayMessage

def app : RelayMessage → Option String
  | .call m | .relayResponse m | .triangleTest1 m | .triangleTest2 m | .triangleTest3 m
  | .triangleTest1Response m | .listen m | .check m | .listenResponse m | .checkResponse m
  | .keepAlive m | .relayCalled m => m.app

def entries : RelayMessage → List (String × Json)
  | .call m => RelayCall.fields.tagged "type" "Call" m
  | .relayResponse m => RelayResponse.fields.tagged "type" "RelayResponse" m
  | .triangleTest1 m => RelayTriangleTest1.fields.tagged "type" "TriangleTest1" m
  | .triangleTest2 m => RelayTriangleTest2.fields.tagged "type" "TriangleTest2" m
  | .triangleTest3 m => RelayTriangleTest3.fields.tagged "type" "TriangleTest3" m
  | .triangleTest1Response m =>
    RelayTriangleTest1Response.fields.tagged "type" "TriangleTest1Response" m
  | .listen m => RelayListen.fields.tagged "type" "Listen" m
  | .check m => RelayCheck.fields.tagged "type" "Check" m
  | .listenResponse m => RelayListenResponse.fields.tagged "type" "ListenResponse" m
  | .checkResponse m => RelayCheckResponse.fields.tagged "type" "CheckResponse" m
  | .keepAlive m => RelayKeepAlive.fields.tagged "type" "KeepAlive" m
  | .relayCalled m => RelayCalled.fields.tagged "type" "RelayCalled" m

def dec : (String → Option Json) → Option RelayMessage :=
  Fields.decTagged "type"
    [RelayCall.fields.variant "Call" .call,
      RelayResponse.fields.variant "RelayResponse" .relayResponse,
      RelayTriangleTest1.fields.variant "TriangleTest1" .triangleTest1,
      RelayTriangleTest2.fields.variant "TriangleTest2" .triangleTest2,
      RelayTriangleTest3.fields.variant "TriangleTest3" .triangleTest3,
      RelayTriangleTest1Response.fields.variant "TriangleTest1Response" .triangleTest1Response,
      RelayListen.fields.variant "Listen" .listen,
      RelayCheck.fields.variant "Check" .check,
      RelayListenResponse.fields.variant "ListenResponse" .listenResponse,
      RelayCheckResponse.fields.variant "CheckResponse" .checkResponse,
      RelayKeepAlive.fields.variant "KeepAlive" .keepAlive,
      RelayCalled.fields.variant "RelayCalled" .relayCalled]

lemma dec_entries (m : RelayMessage) :
    dec (fun k => m.entries.lookup k) = some m := by
  cases m <;> exact Fields.decTagged_tagged _ rfl (by decide) _

lemma lookup_type_entries (m : RelayMessage) : (m.entries.lookup "type").isSome := by
  cases m <;> rfl

lemma lookup_app_entries (m : RelayMessage) :
    m.entries.lookup "app" = some (m.app.elim .null .str) := by
  cases m <;> rfl

end RelayMessage

inductive DdbMessage
  | upsertResolve (m : DdbUpsertResolve)
  | deleteResolve (m : DdbDeleteResolve)
  | signoff (m : DdbSignoff)
  | queryResolve (m : DdbQueryResolve)
  | queryResponse (m : DdbQueryResponse)
  | updateResponse (m : DdbUpdateResponse)
  | signon (m : DdbSignon)
  | signonResponse (m : DdbSignonResponse)
  | getRelaysStatus (m : DdbGetRelaysStatus)
  | relaysStatusResponse (m : DdbRelaysStatusResponse)
  | initResolve (m : DdbInitResolve)
  | initResponse (m : DdbInitResponse)
  | dumpResolve (m : DdbDumpResolve)

namespace DdbMessage

def app : DdbMessage → String
  | .upsertResolve m | .deleteResolve m | .signoff m | .queryResolve m | .queryResponse m
  | .updateResponse m | .signon m | .signonResponse m | .getRelaysStatus m
  | .relaysStatusResponse m | .initResolve m | .initResponse m | .dumpResolve m => m.app

def entries : DdbMessage → List (String × Json)
  | .upsertResolve m => DdbUpsertResolve.fields.tagged "type" "upsertResolve" m
  | .deleteResolve m => DdbDeleteResolve.fields.tagged "type" "deleteResolve" m
  | .signoff m => DdbSignoff.fields.tagged "type" "signoff" m
  | .queryResolve m => DdbQueryResolve.fields.tagged "type" "queryResolve" m
  | .queryResponse m => DdbQueryResponse.fields.tagged "type" "queryResponse" m
  | .updateResponse m => DdbUpdateResponse.fields.tagged "type" "updateResponse" m
  | .signon m => DdbSignon.fields.tagged "type" "signon" m
  | .signonResponse m => DdbSignonResponse.fields.tagged "type" "signonResponse" m
  | .getRelaysStatus m => DdbGetRelaysStatus.fields.tagged "type" "getRelaysStatus" m
  | .relaysStatusResponse m => DdbRelaysStatusResponse.fields.tagged "type" "relaysStatusResponse" m
  | .initResolve m => DdbInitResolve.fields.tagged "type" "initResolve" m
  | .initResponse m => DdbInitResponse.fields.tagged "type" "initResponse" m
  | .dumpResolve m => DdbDumpResolve.fields.tagged "type" "dumpResolve" m

def dec : (String → Option Json) → Option DdbMessage :=
  Fields.decTagged "type"
    [DdbUpsertResolve.fields.variant "upsertResolve" .upsertResolve,
      DdbDeleteResolve.fields.variant "deleteResolve" .deleteResolve,
      DdbSignoff.fields.variant "signoff" .signoff,
      DdbQueryResolve.fields.variant "queryResolve" .queryResolve,
      DdbQueryResponse.fields.variant "queryResponse" .queryResponse,
      DdbUpdateResponse.fields.variant "updateResponse" .updateResponse,
      DdbSignon.fields.variant "signon" .signon,
      DdbSignonResponse.fields.variant "signonResponse" .signonResponse,
      DdbGetRelaysStatus.fields.variant "getRelaysStatus" .getRelaysStatus,
      DdbRelaysStatusResponse.fields.variant "relaysStatusResponse" .relaysStatusResponse,
      DdbInitResolve.fields.variant "initResolve" .initResolve,
      DdbInitResponse.fields.variant "initResponse" .initResponse,
      DdbDumpResolve.fields.variant "dumpResolve" .dumpResolve]

def data : DdbMessage → Option Json
  | .upsertResolve m | .deleteResolve m | .signoff m | .queryResolve m | .queryResponse m
  | .updateResponse m | .signon m | .signonResponse m | .getRelaysStatus m
  | .relaysStatusResponse m | .initResolve m | .initResponse m | .dumpResolve m => m.data

def withData (d : Option Json) : DdbMessage → DdbMessage
  | .upsertResolve m => .upsertResolve { m with data := d }
  | .deleteResolve m => .deleteResolve { m with data := d }
  | .signoff m => .signoff { m with data := d }
  | .queryResolve m => .queryResolve { m with data := d }
  | .queryResponse m => .queryResponse { m with data := d }
  | .updateResponse m => .updateResponse { m with data := d }
  | .signon m => .signon { m with data := d }
  | .signonResponse m => .signonResponse { m with data := d }
  | .getRelaysStatus m => .getRelaysStatus { m with data := d }
  | .relaysStatusResponse m => .relaysStatusResponse { m with data := d }
  | .initResolve m => .initResolve { m with data := d }
  | .initResponse m => .initResponse { m with data := d }
  | .dumpResolve m => .dumpResolve { m with data := d }

variable (m : DdbMessage)

lemma dec_entries :
    dec (fun k => m.entries.lookup k) = some (m.withData (Slot.dropNull m.data)) := by
  cases m <;> exact Fields.decTagged_tagged _ rfl (by decide) _

lemma lookup_app_entries : m.entries.lookup "app" = some (.str m.app) := by
  cases m <;> rfl

lemma data_withData (d : Option Json) : (m.withData d).data = d := by
  cases m <;> rfl

lemma withData_data : m.withData m.data = m := by
  cases m <;> rfl

end DdbMessage

inductive PingMessage
  | ping (m : PingPing)
  | response (m : PingResponse)

namespace PingMessage

def app : PingMessage → String
  | .ping m | .response m => m.app

def entries : PingMessage → List (String × Json)
  | .ping m => PingPing.fields.tagged "type" "ping" m
  | .response m => PingResponse.fields.tagged "type" "response" m

def dec : (String → Option Json) → Option PingMessage :=
  Fields.decTagged "type"
    [PingPing.fields.variant "ping" .ping,
      PingResponse.fields.variant "response" .response]

def data : PingMessage → Option Json
  | .ping m | .response m => m.data

def withData (d : Option Json) : PingMessage → PingMessage
  | .ping m => .ping { m with data := d }
  | .response m => .response { m with data := d }

variable (m : PingMessage)

lemma dec_entries :
    dec (fun k => m.entries.lookup k) = some (m.withData (Slot.dropNull m.data)) := by
  cases m <;> exact Fields.decTagged_tagged _ rfl (by decide) _

lemma lookup_app_entries : m.entries.lookup "app" = some (.str m.app) := by
  cases m <;> rfl

lemma data_withData (d : Option Json) : (m.withData d).data = d := by
  cases m <;> rfl

lemma withData_data : m.withData m.data = m := by
  cases m <;> rfl

end PingMessage

inductive MutexMessage
  | request (m : MutexRequest)
  | response (m : MutexResponse)
  | release (m : MutexRelease)

namespace MutexMessage

def app : MutexMessage → String
  | .request m | .response m | .release m => m.app

def entries (it : Iteration) : MutexMessage → List (String × Json)
  | .request m => (MutexRequest.fields it).tagged "type" "request" m
  | .response m => (MutexResponse.fields it).tagged "type" "response" m
  | .release m => (MutexRelease.fields it).tagged "type" "release" m

def dec (it : Iteration) : (String → Option Json) → Option MutexMessage :=
  Fields.decTagged "type"
    [(MutexRequest.fields it).variant "request" .request,
      (MutexResponse.fields it).variant "response" .response,
      (MutexRelease.fields it).variant "release" .release]

lemma dec_entries (it : Iteration) (m : MutexMessage) :
    dec it (fun k => (m.entries it).lookup k) = some m := by
  cases m with
  | request m => exact Fields.decTagged_tagged _ rfl (by simp [MutexRequest.fields]) m
  | response m => exact Fields.decTagged_tagged _ rfl (by simp [MutexResponse.fields]) m
  | release m => exact Fields.decTagged_tagged _ rfl (by simp [MutexRelease.fields]) m

lemma lookup_app_entries (it : Iteration) (m : MutexMessage) :
    (m.entries it).lookup "app" = some (.str m.app) := by
  cases m <;> rfl

end MutexMessage

inductive ReportFailMessage
  | relayReportFailed (m : RelayReportFailed)
  | reportFailedRipple (m : ReportFailedRipple)
  | reportFailedRippleResponse (m : ReportFailedRippleResponse)
  | reportFailedComplete (m : ReportFailedComplete)

namespace ReportFailMessage

def app : ReportFailMessage → String
  | .relayReportFailed m | .reportFailedRipple m | .reportFailedRippleResponse m
  | .reportFailedComplete m => m.app

def entries : ReportFailMessage → List (String × Json)
  | .relayReportFailed m => RelayReportFailed.fields.tagged "type" "relayReportFailed" m
  | .reportFailedRipple m => ReportFailedRipple.fields.tagged "type" "reportFailedRipple" m
  | .reportFailedRippleResponse m =>
    ReportFailedRipple.fields.tagged "type" "reportFailedRippleResponse" m
  | .reportFailedComplete m => ReportFailedRipple.fields.tagged "type" "reportFailedComplete" m

def dec : (String → Option Json) → Option ReportFailMessage :=
  Fields.decTagged "type"
    [RelayReportFailed.fields.variant "relayReportFailed" .relayReportFailed,
      ReportFailedRipple.fields.variant "reportFailedRipple" .reportFailedRipple,
      ReportFailedRipple.fields.variant "reportFailedRippleResponse" .reportFailedRippleResponse,
      ReportFailedRipple.fields.variant "reportFailedComplete" .reportFailedComplete]

lemma dec_entries (m : ReportFailMessage) :
    dec (fun k => m.entries.lookup k) = some m := by
  cases m <;> exact Fields.decTagged_tagged _ rfl (by decide) _

lemma lookup_app_entries (m : ReportFailMessage) :
    m.entries.lookup "app" = some (.str m.app) := by
  cases m <;> rfl

end ReportFailMessage

/-! ## Messages -/

inductive Message
  | plainText (m : PlainTextMessage)
  | relay (m : RelayMessage)
  | ddb (m : DdbMessage)
  | ping (m : PingMessage)
  | mutex (m : MutexMessage)
  | reportFail (m : ReportFailMessage)
  | unknown (v : Json)

section Marshal

variable (it : Iteration)

def toJsonValue : Message → Json
  | .plainText m => .obj (PlainTextMessage.fields.enc m)
  | .relay m => .obj m.entries
  | .ddb m => .obj m.entries
  | .ping m => .obj m.entries
  | .mutex m => .obj (m.entries it)
  | .reportFail m => .obj m.entries
  | .unknown v => v

def decByApp (get : String → Option Json) : Option Message :=
  match get "app" with
  | some (.str app) =>
    if app = "ping" then (PingMessage.dec get).map .ping
    else if app = "ddb" then (DdbMessage.dec get).map .ddb
    else if app = "mutex" then (MutexMessage.dec it get).map .mutex
    else if app = "reportFail" then (ReportFailMessage.dec get).map .reportFail
    else none
  | _ => none

/-- `from_json_value`, which has no error.  (The order of iteration is the writer's: reading does
not depend on it.) -/
def fromJsonValue : Json → Message
  | .obj entries =>
    let get k := entries.lookup k
    let relay := if (get "type").isSome then (RelayMessage.dec get).map .relay else none
    let plain := (PlainTextMessage.fields.dec get).map .plainText
    let plainIfBare := if (get "app").isNone && (get "type").isNone then plain else none
    -- the last resort is a plain text with an explicit `app` or `type`
    (decByApp it get <|> relay <|> plainIfBare <|> plain).getD (.unknown (.obj entries))
  | other => .unknown other

inductive Family
  | plainText
  | relay
  | ddb
  | ping
  | mutex
  | reportFail
deriving DecidableEq, Repr

namespace Message

def family : Message → Option Family
  | .plainText _ => some .plainText
  | .relay _ => some .relay
  | .ddb _ => some .ddb
  | .ping _ => some .ping
  | .mutex _ => some .mutex
  | .reportFail _ => some .reportFail
  | .unknown _ => none

/-- A message of a family, with the `app` of its family; a plain text without `app` and `type`. -/
def Typed : Message → Prop
  | .plainText m => m.app = none ∧ m.type = none
  | .relay m => m.app = none
  | .ddb m => m.app = "ddb"
  | .ping m => m.app = "ping"
  | .mutex m => m.app = "mutex"
  | .reportFail m => m.app = "reportFail"
  | .unknown _ => False

def data : Message → Option Json
  | .ddb m => m.data
  | .ping m => m.data
  | _ => none

def withData (d : Option Json) : Message → Message
  | .ddb m => .ddb (m.withData d)
  | .ping m => .ping (m.withData d)
  | m => m

lemma family_withData (d : Option Json) (m : Message) : (m.withData d).family = m.family := by
  cases m <;> rfl

lemma withData_dropNull_eq_self_iff (m : Message) :
    m.withData (Slot.dropNull m.data) = m ↔ m.data ≠ some .null := by
  rw [← Slot.dropNull_eq_self_iff]
  cases m with
  | ddb m =>
    refine ⟨fun h => ?_, fun h => ?_⟩
    · exact (m.data_withData _).symm.trans (congrArg data h)
    · exact (congrArg (withData · (.ddb m)) h).trans (congrArg ddb m.withData_data)
  | ping m =>
    refine ⟨fun h => ?_, fun h => ?_⟩
    · exact (m.data_withData _).symm.trans (congrArg data h)
    · exact (congrArg (withData · (.ping m)) h).trans (congrArg ping m.withData_data)
  | _ => exact iff_of_true rfl rfl

end Message

/-! ## The round trip -/

lemma PlainTextMessage.lookup_app (m : PlainTextMessage) :
    (PlainTextMessage.fields.enc m).lookup "app" = optOptString.enc m.app := by
  rw [PlainTextMessage.fields, Fields.lookup_field_of_ne _ (by decide),
    Fields.lookup_field_of_ne _ (by decide), Fields.lookup_field_of_ne _ (by decide),
    Fields.lookup_field_of_ne _ (by decide), Fields.lookup_field_self]

lemma PlainTextMessage.lookup_type (m : PlainTextMessage) :
    (PlainTextMessage.fields.enc m).lookup "type" = optOptString.enc m.type := by
  rw [PlainTextMessage.fields, Fields.lookup_field_of_ne _ (by decide),
    Fields.lookup_field_of_ne _ (by decide), Fields.lookup_field_of_ne _ (by decide),
    Fields.lookup_field_self]

lemma PlainTextMessage.norm_of_bare (m : PlainTextMessage) (happ : m.app = none)
    (htype : m.type = none) : PlainTextMessage.fields.norm m = m := by
  obtain ⟨text, app, type, cipherSuite, sentTime, signature⟩ := m
  subst happ htype
  rfl

lemma fromJsonValue_of_decByApp {entries : List (String × Json)} {m : Message}
    (h : decByApp it (fun k => entries.lookup k) = some m) : fromJsonValue it (.obj entries) = m := by
  simp only [fromJsonValue, h]
  rfl

lemma decByApp_of_not_string {get : String → Option Json} (h : ∀ s, get "app" ≠ some (.str s)) :
    decByApp it get = none := by
  rw [decByApp]
  split
  · exact absurd ‹_› (h _)
  · rfl

/-- **A message reads back as itself, with a `null` for its data dropped.** -/
lemma fromJsonValue_toJsonValue {m : Message} (h : m.Typed) :
    fromJsonValue it (toJsonValue it m) = m.withData (Slot.dropNull m.data) := by
  cases m with
  | plainText m =>
    obtain ⟨happ, htype⟩ : (PlainTextMessage.fields.enc m).lookup "app" = none ∧
        (PlainTextMessage.fields.enc m).lookup "type" = none := by
      rw [m.lookup_app, m.lookup_type, h.1, h.2]
      exact ⟨rfl, rfl⟩
    have hbyApp : decByApp it (fun k => (PlainTextMessage.fields.enc m).lookup k) = none :=
      decByApp_of_not_string it (by simp [happ])
    have hdec : PlainTextMessage.fields.dec (fun k => (PlainTextMessage.fields.enc m).lookup k) =
        some (PlainTextMessage.fields.norm m) :=
      PlainTextMessage.fields.dec_enc m _ fun _ _ => rfl
    simp only [toJsonValue, fromJsonValue, hbyApp, happ, htype, hdec, m.norm_of_bare h.1 h.2]
    rfl
  | relay m =>
    have happ : m.entries.lookup "app" = some .null := by
      rw [m.lookup_app_entries, show m.app = none from h]
      rfl
    have hbyApp : decByApp it (fun k => m.entries.lookup k) = none :=
      decByApp_of_not_string it (by simp [happ])
    simp only [toJsonValue, fromJsonValue, hbyApp, m.lookup_type_entries, m.dec_entries, if_true]
    rfl
  | ddb m =>
    refine fromJsonValue_of_decByApp it ?_
    simp only [decByApp, m.lookup_app_entries, show m.app = "ddb" from h, m.dec_entries]
    rfl
  | ping m =>
    refine fromJsonValue_of_decByApp it ?_
    simp only [decByApp, m.lookup_app_entries, show m.app = "ping" from h, m.dec_entries]
    rfl
  | mutex m =>
    refine fromJsonValue_of_decByApp it ?_
    simp only [decByApp, m.lookup_app_entries, show m.app = "mutex" from h, m.dec_entries]
    rfl
  | reportFail m =>
    refine fromJsonValue_of_decByApp it ?_
    simp only [decByApp, m.lookup_app_entries, show m.app = "reportFail" from h, m.dec_entries]
    rfl
  | unknown v => exact absurd h id

/-- **The round trip.**  Every message of a family reads back as one of that family, and as itself
exactly where its `data` is not a `null`. -/
theorem wire_round_trip_iff {m : Message} (h : m.Typed) :
    (fromJsonValue it (toJsonValue it m)).family = m.family ∧
      (fromJsonValue it (toJsonValue it m) = m ↔ m.data ≠ some .null) := by
  rw [fromJsonValue_toJsonValue it h]
  exact ⟨m.family_withData _, m.withData_dropNull_eq_self_iff⟩

def sorted : Iteration where
  toList s := s.sort (· ≤ ·)
  toFinset_toList s := s.sort_toFinset (· ≤ ·)

def pingWith (data : Option Json) : Message :=
  .ping (.ping ⟨"ping", some "tag", none, none, data⟩)

theorem ping_round_trip :
    fromJsonValue sorted (toJsonValue sorted (pingWith none)) = pingWith none :=
  (wire_round_trip_iff sorted (m := pingWith none) rfl).2.mpr nofun

theorem null_data_is_lost :
    fromJsonValue sorted (toJsonValue sorted (pingWith (some .null))) = pingWith none ∧
      pingWith none ≠ pingWith (some .null) :=
  ⟨rfl, fun h => nomatch h⟩

end Marshal

end Bingle.Wire
