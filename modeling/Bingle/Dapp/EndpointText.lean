import Bingle.Dapp.Endpoints
import Bingle.Dapp.Flags
import Bingle.Lib.Framing

/-!
# A static endpoint, written and read back

`register_endpoint` stores 64 bytes of an endpoint record under one key of the account's local state
and the rest under another; `static_endpoint_from_local_state` joins what the two keys hold, each
decoded to text by itself.
`migrate_local` copies each of the two keys if the ancestor has it.
-/

namespace Bingle.Reader

open Dapp

def staticEndpointFromLocalState (entries : List (String × String)) : Option String :=
  let field (key : String) := ((entries.find? fun kv => kv.1 = key).map Prod.snd).getD ""
  let fullVal := field "static_endpoint" ++ field "static_endpoint_x"
  if fullVal = "" then none else some fullVal

def utf8 (s : String) : Bytes := Lib.Frame.text.enc s

def Decodes (decode : Bytes → String) : Prop := ∀ s, decode (utf8 s) = s

def ListsEndpoint (decode : Bytes → String) (entries : List (String × String)) (l : Local) : Prop :=
  (entries.find? fun kv => kv.1 = "static_endpoint").map Prod.snd = l.staticEndpoint.map decode ∧
    (entries.find? fun kv => kv.1 = "static_endpoint_x").map Prod.snd =
      l.staticEndpointX.map decode

def decodeValue (bytes : Bytes) : String :=
  (Lib.Frame.text.dec bytes).getD ("0x" ++ String.ofList
    (bytes.flatMap fun b => [Nat.digitChar (b.toNat / 16), Nat.digitChar (b.toNat % 16)]))

end Bingle.Reader

namespace Bingle.Dapp

open Reader (utf8 Decodes ListsEndpoint staticEndpointFromLocalState decodeValue)

def shown (decode : Bytes → String) (v : Option Bytes) : String := (v.map decode).getD ""

def Local.joined (decode : Bytes → String) (l : Local) : String :=
  shown decode l.staticEndpoint ++ shown decode l.staticEndpointX

/-- The cut after 64 bytes, if there is one, is between two characters. -/
def CutsBetween (e : String) : Prop :=
  (utf8 e).length ≤ 64 ∨ ∃ s t, e = s ++ t ∧ (utf8 s).length = 64

def Local.NothingLeft (decode : Bytes → String) (l o : Local) : Prop :=
  (o.staticEndpoint = none → shown decode l.staticEndpoint = "") ∧
    (o.staticEndpointX = none → shown decode l.staticEndpointX = "")

/-! ## Text and its bytes -/

lemma utf8_append (s t : String) : utf8 (s ++ t) = utf8 s ++ utf8 t := by
  simp [utf8, Lib.Frame.text]

lemma utf8_injective : Function.Injective utf8 := Lib.Frame.text.enc_injective

lemma utf8_eq_nil {s : String} : utf8 s = [] ↔ s = "" :=
  ⟨fun h => utf8_injective (h.trans rfl), fun h => h ▸ rfl⟩

lemma length_le_utf8 (s : String) : s.length ≤ (utf8 s).length := by
  have hchars : ∀ cs : List Char, cs.length ≤ String.utf8Len cs := by
    intro cs
    induction cs with
    | nil => rfl
    | cons c cs ih =>
      have hc := c.utf8Size_pos
      rw [List.length_cons, String.utf8Len_cons]
      omega
  have hbytes : (utf8 s).length = String.utf8Len s.toList := by
    rw [← String.utf8ByteSize_ofList, String.ofList_toList]
    rfl
  rw [hbytes]
  exact hchars s.toList

lemma decodes_decodeValue : Decodes decodeValue := by
  intro s
  have hdec : Lib.Frame.text.dec (utf8 s) = some s := (Lib.Frame.text.dec_eq_some_iff _ _).mpr rfl
  rw [decodeValue, hdec, Option.getD_some]

lemma length_decodeValue (bytes : Bytes) :
    bytes.length ≤ (utf8 (decodeValue bytes)).length ∧
      ((utf8 (decodeValue bytes)).length = bytes.length → ∃ s, bytes = utf8 s) := by
  cases hdec : Lib.Frame.text.dec bytes with
  | some s =>
    have hs : utf8 s = bytes := (Lib.Frame.text.dec_eq_some_iff _ _).mp hdec
    rw [decodeValue, hdec, Option.getD_some, hs]
    exact ⟨le_rfl, fun _ => ⟨s, hs.symm⟩⟩
  | none =>
    have hlong : bytes.length < (utf8 (decodeValue bytes)).length := by
      refine lt_of_lt_of_le ?_ (length_le_utf8 _)
      rw [decodeValue, hdec, Option.getD_none]
      have hhex : (bytes.flatMap fun b =>
          [Nat.digitChar (b.toNat / 16), Nat.digitChar (b.toNat % 16)]).length =
          2 * bytes.length := by
        simp [List.length_flatMap, Nat.mul_comm]
      have hmark : "0x".length = 2 := rfl
      rw [String.length_append, hmark, String.length_ofList, hhex]
      omega
    exact ⟨hlong.le, fun h => absurd h hlong.ne'⟩

/-! ## What the reader makes of a record -/

lemma staticEndpointFromLocalState_eq {decode : Bytes → String} {entries : List (String × String)}
    {l : Local} (h : ListsEndpoint decode entries l) :
    staticEndpointFromLocalState entries =
      if l.joined decode = "" then none else some (l.joined decode) := by
  simp only [staticEndpointFromLocalState, h.1, h.2]
  rfl

lemma staticEndpointFromLocalState_inj {decode : Bytes → String}
    {entries entries' : List (String × String)} {l l' : Local} (h : ListsEndpoint decode entries l)
    (h' : ListsEndpoint decode entries' l') :
    staticEndpointFromLocalState entries = staticEndpointFromLocalState entries' ↔
      l.joined decode = l'.joined decode := by
  rw [staticEndpointFromLocalState_eq h, staticEndpointFromLocalState_eq h']
  split_ifs <;> simp_all

lemma exists_listsEndpoint (decode : Bytes → String) (l : Local) :
    ∃ entries, ListsEndpoint decode entries l := by
  refine ⟨(l.staticEndpoint.map fun v => ("static_endpoint", decode v)).toList ++
    (l.staticEndpointX.map fun v => ("static_endpoint_x", decode v)).toList, ?_⟩
  cases hs : l.staticEndpoint <;> cases hx : l.staticEndpointX <;> simp [ListsEndpoint, hs, hx]

/-! ## `register_endpoint` -/

lemma registerEndpoint_of_granted {a : App} {c : Ctx} {l : Local} (e : Bytes)
    (ha : ¬ a.isSuperseded) (hl : a.locals c.sender = some l)
    (hstatic : granted l.packed BIT_STATIC = true) :
    a.registerEndpoint c e = some (a.setLocal c.sender (l.writeEndpoint e)) := by
  by_cases he : e = [] <;>
    simp [App.registerEndpoint, App.packedAllowBits, App.clearEndpoint, App.modifyLocal,
      Local.writeEndpoint, guard, ha, hl, hstatic, he]

lemma joined_writeEndpoint_of_lt (decode : Bytes → String) (l : Local) {e : Bytes}
    (h : 64 < e.length) :
    (l.writeEndpoint e).joined decode = decode (e.take 64) ++ decode (e.drop 64) := by
  have hne : e ≠ [] := by
    rintro rfl
    exact absurd h (by simp)
  rw [Local.writeEndpoint, if_pos hne, Local.storeEndpoint, if_pos h]
  rfl

lemma joined_writeEndpoint_of_le {decode : Bytes → String} (hd : Decodes decode) (l : Local)
    {e : String} (h : (utf8 e).length ≤ 64) : (l.writeEndpoint (utf8 e)).joined decode = e := by
  by_cases he : e = ""
  · subst he
    rfl
  · have hne : utf8 e ≠ [] := mt utf8_eq_nil.mp he
    rw [Local.writeEndpoint, if_pos hne, Local.storeEndpoint, if_neg (not_lt.mpr h)]
    simp [Local.joined, shown, hd e]

/-- **Reading back.**  A text comes back under every decoding exactly when it is cut between two
characters, or not at all. -/
lemma readBack_iff (l : Local) (e : String) :
    (∀ decode, Decodes decode → (l.writeEndpoint (utf8 e)).joined decode = e) ↔ CutsBetween e := by
  constructor
  · intro h
    by_cases hshort : (utf8 e).length ≤ 64
    · exact Or.inl hshort
    · -- under the hexadecimal fallback a piece that is no text would have become longer
      have hjoin := h decodeValue decodes_decodeValue
      rw [joined_writeEndpoint_of_lt _ _ (not_le.mp hshort)] at hjoin
      have hlen := congrArg (fun s => (utf8 s).length) hjoin
      simp only [utf8_append, List.length_append] at hlen
      obtain ⟨h1, h1'⟩ := length_decodeValue ((utf8 e).take 64)
      obtain ⟨h2, h2'⟩ := length_decodeValue ((utf8 e).drop 64)
      rw [List.length_take] at h1 h1'
      rw [List.length_drop] at h2 h2'
      obtain ⟨s, hs⟩ := h1' (by omega)
      obtain ⟨t, ht⟩ := h2' (by omega)
      refine Or.inr ⟨s, t, utf8_injective ?_, ?_⟩
      · rw [utf8_append, ← hs, ← ht, List.take_append_drop]
      · rw [← hs, List.length_take]
        omega
  · intro h decode hd
    by_cases hshort : (utf8 e).length ≤ 64
    · exact joined_writeEndpoint_of_le hd l hshort
    · rw [joined_writeEndpoint_of_lt _ _ (not_le.mp hshort)]
      rcases h with h | ⟨s, t, rfl, hs⟩
      · exact absurd h hshort
      · have htake : (utf8 (s ++ t)).take 64 = utf8 s := by
          rw [utf8_append, ← hs, List.take_left]
        have hdrop : (utf8 (s ++ t)).drop 64 = utf8 t := by
          rw [utf8_append, ← hs, List.drop_left]
        rw [htake, hdrop, hd s, hd t]

/-! ## `migrate_local` -/

lemma joined_migrated_iff (decode : Bytes → String) {l o : Local} (ho : o.joined decode ≠ "")
    (hstatic : granted (l.copyAllow o).packed BIT_STATIC = true) :
    (l.migrated o).joined decode = o.joined decode ↔ l.NothingLeft decode o := by
  obtain ⟨hs, hrest⟩ := Prod.mk.inj (l.migrated_endpoints o)
  obtain ⟨hx, -⟩ := Prod.mk.inj hrest
  rw [if_pos hstatic] at hs hx
  unfold Local.joined at ho ⊢
  unfold Local.NothingLeft
  rw [hs, hx]
  cases hos : o.staticEndpoint with
  | none =>
    cases hox : o.staticEndpointX with
    | none => simp [shown, hos, hox] at ho
    | some x => simp [shown]
  | some s =>
    cases hox : o.staticEndpointX with
    | none => simp [shown]
    | some x => simp [shown]

lemma granted_static_migrated (l o : Local) :
    granted (l.migrated o).packed BIT_STATIC = granted (l.copyAllow o).packed BIT_STATIC := by
  rw [Local.granted_static, Local.granted_static, Local.getLsbD_packed_migrated]
  simp

/-! ## Both -/

/-- **When a static endpoint is read back.**  After `register_endpoint`, exactly when it has at most
64 bytes or its 64th byte ends a character.  After `migrate_local` of a static-allowed account with
an endpoint on the old app, exactly when the account had no text under a key that it lacks there. -/
theorem endpoint_read_back_iff (a b : App) (c : Ctx) :
    (∀ e : String, a.registerEndpoint c (utf8 e) = some b →
      ((∀ decode, Decodes decode → ∀ l entries, b.locals c.sender = some l →
          ListsEndpoint decode entries l →
            staticEndpointFromLocalState entries = if e = "" then none else some e) ↔
        CutsBetween e)) ∧
      ∀ (old : App) (id : AppId) (decode : Bytes → String), a.migrateLocal c id old = some b →
          ∀ (l o l' : Local) (entries entries' : List (String × String)),
            a.locals c.sender = some l → old.locals c.sender = some o →
            b.locals c.sender = some l' → granted l'.packed BIT_STATIC = true →
            ListsEndpoint decode entries o → ListsEndpoint decode entries' l' →
            (staticEndpointFromLocalState entries).isSome →
              (staticEndpointFromLocalState entries' = staticEndpointFromLocalState entries ↔
                l.NothingLeft decode o) := by
  constructor
  · intro e hb
    obtain ⟨l, -, -, rfl⟩ := App.registerEndpoint_eq_some hb
    rw [← readBack_iff l e]
    have hread : ∀ x : String, (if x = "" then none else some x) =
        (if e = "" then none else some e) ↔ x = e := by
      intro x
      split_ifs <;> simp_all
    constructor
    · intro h decode hd
      obtain ⟨entries, hlists⟩ := exists_listsEndpoint decode (l.writeEndpoint (utf8 e))
      have hx := h decode hd _ entries (App.setLocal_self _ _ _) hlists
      rwa [staticEndpointFromLocalState_eq hlists, hread] at hx
    · intro h decode hd l' entries hl' hlists
      obtain rfl := Option.some.inj ((App.setLocal_self _ _ _).symm.trans hl')
      rw [staticEndpointFromLocalState_eq hlists, hread]
      exact h decode hd
  · intro old id decode hb l o l' entries entries' hl ho hl' hstatic hlists hlists' hsome
    obtain ⟨o₀, l₀, m, assigned, ho₀, hl₀, hm, rfl⟩ := App.migrateLocal_eq_some hb
    obtain rfl := Option.some.inj (ho.symm.trans ho₀)
    obtain rfl := Option.some.inj (hl.symm.trans hl₀)
    obtain rfl := Option.some.inj ((App.setLocal_self _ _ _).symm.trans hl')
    have hjoined : o.joined decode ≠ "" := by
      intro h
      rw [staticEndpointFromLocalState_eq hlists, if_pos h] at hsome
      exact absurd hsome (by simp)
    rw [granted_static_migrated] at hstatic
    rw [staticEndpointFromLocalState_inj hlists' hlists, joined_migrated_iff decode hjoined hstatic]
    -- the handle half of the migration leaves the endpoints alone
    rw [← Local.migrateHandle_frame hm]
    rfl

def staticRecord : Local := { configBitfield := some 1#64 }

def staticApp : App :=
  { creator := "C", ancestorApps := some [7], locals := fun _ => some staticRecord }

def longEndpoint (c : Char) : String := String.ofList (List.replicate 63 'a' ++ [c])

theorem long_endpoint_read_back :
    let longer := staticRecord.writeEndpoint (utf8 (longEndpoint 'a' ++ "b"))
    let short := staticRecord.writeEndpoint (utf8 "a")
    (∀ decode, Decodes decode → ∀ l entries, (staticApp.setLocal "X" longer).locals "X" = some l →
      ListsEndpoint decode entries l →
        staticEndpointFromLocalState entries = some (longEndpoint 'a' ++ "b")) ∧
      ∃ b, staticApp.migrateLocal { sender := "X" } 7 (staticApp.setLocal "X" short) = some b ∧
        ∀ entries entries', ListsEndpoint decodeValue entries short →
          (∃ l', b.locals "X" = some l' ∧ ListsEndpoint decodeValue entries' l') →
            staticEndpointFromLocalState entries' = staticEndpointFromLocalState entries := by
  intro longer short
  have hreg : staticApp.registerEndpoint { sender := "X" } (utf8 (longEndpoint 'a' ++ "b")) =
      some (staticApp.setLocal "X" longer) :=
    registerEndpoint_of_granted _ (by decide) rfl (by decide)
  have hcut : CutsBetween (longEndpoint 'a' ++ "b") :=
    Or.inr ⟨longEndpoint 'a', "b", rfl, by decide⟩
  have hmigrated : ((staticApp.migrateLocal { sender := "X" } 7
      (staticApp.setLocal "X" short)).bind fun b => b.locals "X") = some short := by decide
  obtain ⟨b, hb, hlb⟩ := Option.bind_eq_some_iff.mp hmigrated
  refine ⟨((endpoint_read_back_iff _ _ _).1 _ hreg).mpr hcut, b, hb, ?_⟩
  rintro entries entries' hlists ⟨l', hl', hlists'⟩
  obtain rfl := Option.some.inj (hlb.symm.trans hl')
  have hread : staticEndpointFromLocalState entries = some "a" := by
    rw [staticEndpointFromLocalState_eq hlists,
      joined_writeEndpoint_of_le decodes_decodeValue _ (by decide)]
    rfl
  refine ((endpoint_read_back_iff _ b _).2 _ 7 decodeValue hb staticRecord short short entries
    entries' rfl (App.setLocal_self _ _ _) hlb (by decide) hlists hlists'
    (by rw [hread]; rfl)).mpr ?_
  exact ⟨fun _ => rfl, fun _ => rfl⟩

lemma eq_or_eq_of_shared_pieces {α : Type*} {x y z w as : List α} {p q r : α}
    (hp : x ++ y = as ++ [p]) (hq : x ++ z = as ++ [q]) (hr : w ++ y = as ++ [r]) :
    p = q ∨ p = r := by
  rcases y.eq_nil_or_concat with rfl | ⟨y', b, rfl⟩
  · rw [List.append_nil] at hp
    rw [hp, List.append_assoc, List.append_cancel_left_eq] at hq
    exact Or.inl (List.cons.inj hq).1
  · rw [List.concat_eq_append, ← List.append_assoc] at hp hr
    have hbp := (List.append_inj' hp rfl).2
    have hbr := (List.append_inj' hr rfl).2
    exact Or.inr (List.cons.inj (hbp.symm.trans hbr)).1

/-- Whatever the decoding, one of three endpoints of 65 bytes is not read back; and an account with
`a` on the old app, and a long endpoint on the new one, reads `ab` after migrating. -/
theorem endpoint_not_read_back :
    (∀ decode : Bytes → String, ¬ ∀ c ∈ ['é', 'è', 'ĩ'], ∀ entries,
      ListsEndpoint decode entries (staticRecord.writeEndpoint (utf8 (longEndpoint c))) →
        staticEndpointFromLocalState entries = some (longEndpoint c)) ∧
      let old := staticApp.setLocal "X" (staticRecord.writeEndpoint (utf8 "a"))
      let new := staticApp.setLocal "X"
        (staticRecord.writeEndpoint (utf8 (longEndpoint 'a' ++ "b")))
      ((new.migrateLocal { sender := "X" } 7 old).bind fun b => b.locals "X") =
          some { staticRecord with
            staticEndpoint := some (utf8 "a"), staticEndpointX := some (utf8 "b") } ∧
        staticEndpointFromLocalState [("static_endpoint", "a"), ("static_endpoint_x", "b")] =
          some "ab" := by
  refine ⟨fun decode h => ?_, by decide, by decide⟩
  have hpieces : ∀ c ∈ ['é', 'è', 'ĩ'], (decode ((utf8 (longEndpoint c)).take 64)).toList ++
      (decode ((utf8 (longEndpoint c)).drop 64)).toList = List.replicate 63 'a' ++ [c] := by
    intro c hc
    have hlong : 64 < (utf8 (longEndpoint c)).length := by
      fin_cases hc <;> decide
    obtain ⟨entries, hlists⟩ := exists_listsEndpoint decode
      (staticRecord.writeEndpoint (utf8 (longEndpoint c)))
    have hread := h c hc entries hlists
    rw [staticEndpointFromLocalState_eq hlists, joined_writeEndpoint_of_lt _ _ hlong] at hread
    split_ifs at hread
    have hjoin := congrArg String.toList (Option.some.inj hread)
    rwa [String.toList_append, longEndpoint, String.toList_ofList] at hjoin
  -- the first and the second share the piece before the cut, the first and the third the one after
  have hp := hpieces 'é' (by decide)
  have hq := hpieces 'è' (by decide)
  have hr := hpieces 'ĩ' (by decide)
  have hbefore : (utf8 (longEndpoint 'é')).take 64 = (utf8 (longEndpoint 'è')).take 64 := by decide
  have hafter : (utf8 (longEndpoint 'é')).drop 64 = (utf8 (longEndpoint 'ĩ')).drop 64 := by decide
  rw [← hbefore] at hq
  rw [← hafter] at hr
  exact absurd (eq_or_eq_of_shared_pieces hp hq hr) (by decide)

end Bingle.Dapp
