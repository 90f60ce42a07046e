import Bingle.Lib.Json
import Bingle.Outgoing.Store

/-!
# A message of the mobile bindings, as JSON and back

The bindings (`bingle_jsi/src/api/bingle_jsi_api_impl.rs`) hand a message to the engine as JSON, and
a received one to the application as a record.  The data of a message is a text.  It is parsed on
the way to the engine, or becomes a JSON string; on the way back it is printed.
-/

namespace Bingle.Wire

open Lib (Json)
open Lib.Fields (entry lookup_entry_self lookup_entry_of_ne)
open Outgoing (DeliveryRoute)

/-- What the JSON crate makes of a text and of a value.  A string that it prints, it reads. -/
structure SerdeJson where
  fromStr : String → Option Json
  toString : Json → String
  fromStr_str : ∀ s, fromStr (toString (.str s)) = some (.str s)

structure BingleMessage where
  app : Option String := none
  type : Option String := none
  tag : Option String := none
  responseTag : Option String := none
  text : Option String := none
  data : Option String := none
  cipherSuite : Option String := none
  id : Option String := none
  deliveryRoute : Option DeliveryRoute := none
  deliveredTime : Option ℤ := none
deriving DecidableEq

variable (serde : SerdeJson)

def dataToJson (data : String) : Json := (serde.fromStr data).getD (.str data)

def messageToJson (msg : BingleMessage) : Json :=
  .obj (entry "app" (msg.app.map .str) ++ entry "type" (msg.type.map .str) ++
    entry "tag" (msg.tag.map .str) ++ entry "responseTag" (msg.responseTag.map .str) ++
    entry "text" (msg.text.map .str) ++ entry "data" (msg.data.map (dataToJson serde)) ++
    entry "cipherSuite" (msg.cipherSuite.map .str))

def jsonToMessage (val : Json) : BingleMessage where
  app := (val.get "app").bind Json.asStr
  type := (val.get "type").bind Json.asStr
  tag := (val.get "tag").bind Json.asStr
  responseTag := (val.get "responseTag").bind Json.asStr
  text := (val.get "text").bind Json.asStr
  data := (val.get "data").map serde.toString
  cipherSuite := (val.get "cipherSuite").bind Json.asStr

lemma map_str_bind_asStr (o : Option String) : (o.map Json.str).bind Json.asStr = o := by
  cases o <;> rfl

lemma jsonToMessage_messageToJson (msg : BingleMessage) :
    jsonToMessage serde (messageToJson serde msg) =
      { msg with
        data := msg.data.map fun d => serde.toString (dataToJson serde d)
        id := none
        deliveryRoute := none
        deliveredTime := none } := by
  simp [jsonToMessage, messageToJson, List.lookup_append, lookup_entry_self, lookup_entry_of_ne,
    map_str_bind_asStr, Function.comp_def]

lemma toString_dataToJson_iff (d : String) :
    serde.toString (dataToJson serde d) = d ↔ ∃ v ∈ serde.fromStr d, serde.toString v = d := by
  rw [dataToJson]
  cases hd : serde.fromStr d with
  | none =>
    refine iff_of_false (fun h => ?_) (by simp)
    have hstr := serde.fromStr_str d
    rw [Option.getD_none] at h
    rw [h, hd] at hstr
    exact nomatch hstr
  | some v => simp

/-- **What comes back.**  Whatever the texts of a message with no id, route or time: it comes back
as it was exactly if its data is JSON, and JSON as the crate prints it. -/
theorem message_comes_back_iff (msg : BingleMessage) (hid : msg.id = none)
    (hroute : msg.deliveryRoute = none) (htime : msg.deliveredTime = none) :
    jsonToMessage serde (messageToJson serde msg) = msg ↔
      ∀ d ∈ msg.data, ∃ v ∈ serde.fromStr d, serde.toString v = d := by
  obtain ⟨app, type, tag, responseTag, text, data, cipherSuite, id, route, time⟩ := msg
  obtain rfl : id = none := hid
  obtain rfl : route = none := hroute
  obtain rfl : time = none := htime
  rw [jsonToMessage_messageToJson]
  cases data with
  | none => simp
  | some d => simpa using toString_dataToJson_iff serde d

def quoting : SerdeJson where
  fromStr text :=
    match text.toList with
    | '"' :: cs => if cs.getLast? = some '"' then some (.str (.ofList cs.dropLast)) else none
    | _ => none
  toString
    | .str s => "\"" ++ s ++ "\""
    | _ => "null"
  fromStr_str s := by simp

theorem quoted_data_comes_back :
    jsonToMessage quoting (messageToJson quoting { data := some "\"hello\"" }) =
      { data := some "\"hello\"" } := by
  refine (message_comes_back_iff quoting _ rfl rfl rfl).mpr fun d hd => ?_
  obtain rfl := Option.mem_some_iff.mp hd
  exact ⟨.str "hello", rfl, rfl⟩

theorem plain_data_quoted :
    jsonToMessage quoting (messageToJson quoting { data := some "hello" }) ≠
      { data := some "hello" } := by
  decide

end Bingle.Wire
