import Bingle.Registration.Group

/-!
# Transactions in Algorand's canonical encoding

A network node checks a signature against the canonical encoding of a transaction: a map with its
keys sorted, numbers and lengths in their shortest form, and no field of a zero value.  So what a
signature over some bytes is worth is what the transaction with that encoding says, and there is at
most one.
-/

namespace Bingle.Registration

open List Option
open Lib.MsgPack (Value pack)

/-! ## Transactions -/

inductive Kind
  | text
  | bytes
  | uint
  | bytesList
  | uintList
deriving DecidableEq, Repr

def kinds : List (String × Kind) :=
  [("type", .text), ("snd", .bytes), ("fee", .uint), ("fv", .uint), ("lv", .uint), ("gen", .text),
    ("gh", .bytes), ("grp", .bytes), ("lx", .bytes), ("note", .bytes), ("rekey", .bytes),
    ("rcv", .bytes), ("amt", .uint), ("close", .bytes), ("xaid", .uint), ("aamt", .uint),
    ("arcv", .bytes), ("aclose", .bytes), ("asnd", .bytes), ("apid", .uint), ("apan", .uint),
    ("apaa", .bytesList), ("apat", .bytesList), ("apfa", .uintList), ("apas", .uintList)]

def Kind.Has : Kind → Value → Prop
  | .text, v => ∃ s, v = .str s
  | .bytes, v => ∃ b, v = .bin b
  | .uint, v => ∃ n, v = .uint n
  | .bytesList, v => ∃ l : List Bytes, v = .arr (l.map .bin)
  | .uintList, v => ∃ l : List ℕ, v = .arr (l.map .uint)

def isBin : Value → Bool
  | .bin _ => true
  | _ => false

def isUint : Value → Bool
  | .uint _ => true
  | _ => false

def Kind.is : Kind → Value → Bool
  | .text, .str _ => true
  | .bytes, v => isBin v
  | .uint, v => isUint v
  | .bytesList, .arr l => l.all isBin
  | .uintList, .arr l => l.all isUint
  | _, _ => false

lemma exists_bin_iff (v : Value) : (∃ b, v = .bin b) ↔ isBin v = true := by
  cases v <;> simp [isBin]

lemma exists_uint_iff (v : Value) : (∃ n, v = .uint n) ↔ isUint v = true := by
  cases v <;> simp [isUint]

lemma exists_arr_map_iff {α : Type} (inj : α → Value) (l : List Value) :
    (∃ l' : List α, Value.arr l = .arr (l'.map inj)) ↔ ∀ v ∈ l, ∃ a, v = inj a := by
  have h := Set.ext_iff.mp (Set.range_list_map inj) l
  simpa [Set.mem_range, eq_comm] using h

lemma Kind.has_iff_is (kind : Kind) (v : Value) : kind.Has v ↔ kind.is v = true := by
  cases kind with
  | text => cases v <;> simp [Has, is]
  | bytes => exact exists_bin_iff v
  | uint => exact exists_uint_iff v
  | bytesList =>
    cases v with
    | arr l => simp only [Has, exists_arr_map_iff, is, List.all_eq_true, exists_bin_iff]
    | _ => simp [Has, is]
  | uintList =>
    cases v with
    | arr l => simp only [Has, exists_arr_map_iff, is, List.all_eq_true, exists_uint_iff]
    | _ => simp [Has, is]

instance (kind : Kind) (v : Value) : Decidable (kind.Has v) :=
  decidable_of_iff _ (kind.has_iff_is v).symm

def isZero : Value → Bool
  | .uint 0 | .bin [] | .str [] | .arr [] => true
  | _ => false

def keyed (fields : List (String × Value)) : Value :=
  .map (fields.map fun e => (.str (utf8 e.1), e.2))

structure Txn where
  fields : List (String × Value)
  sorted : (fields.map fun e => utf8 e.1).Pairwise (· < ·)
  typed : ∀ e ∈ fields, ∀ kind ∈ kinds.lookup e.1, kind.Has e.2
  nonzero : ∀ e ∈ fields, isZero e.2 = false
  fits : (keyed fields).Fits

namespace Txn

def ofFields (fields : List (String × Value))
    (h : (fields.map fun e => utf8 e.1).Pairwise (· < ·) ∧
      (∀ e ∈ fields, ∀ kind ∈ kinds.lookup e.1, kind.Has e.2) ∧
      (∀ e ∈ fields, isZero e.2 = false) ∧ (keyed fields).Fits) : Txn :=
  ⟨fields, h.1, h.2.1, h.2.2.1, h.2.2.2⟩

variable (t : Txn)

def encode : Bytes := pack (keyed t.fields)

def get (name : String) : Option Value := t.fields.lookup name

def uint (name : String) : ℕ :=
  match t.get name with
  | some (.uint n) => n
  | _ => 0

def bin (name : String) : Bytes :=
  match t.get name with
  | some (.bin b) => b
  | _ => []

end Txn

lemma utf8_injective : Function.Injective utf8 := by
  intro s s' h
  have := ofUtf8_eq_some_iff.mpr h
  rw [ofUtf8_eq_some_iff.mpr rfl] at this
  exact some.inj this

lemma Txn.nodup (t : Txn) : (t.fields.map Prod.fst).Nodup := by
  have h := t.sorted.imp (S := (· ≠ ·)) fun hlt heq => List.lt_irrefl _ (heq ▸ hlt)
  rw [show (t.fields.map fun e => utf8 e.1) = (t.fields.map Prod.fst).map utf8 by
    rw [List.map_map]; rfl] at h
  exact List.Nodup.of_map utf8 h

variable {t : Txn} {name : String} {v : Value} {kind : Kind} {raw : RawTransaction}

lemma Txn.mem_of_get (h : t.get name = some v) :
    (name, v) ∈ t.fields := by
  obtain ⟨before, after, heq, -⟩ := lookup_eq_some_iff.mp h
  rw [heq]
  exact mem_append_right before mem_cons_self

/-! ## Reading -/

lemma find_utf8 (names : List String) (name : String) :
    names.find? (fun n => utf8 n = utf8 name) = if name ∈ names then some name else none := by
  induction names with
  | nil => rfl
  | cons n names ih =>
    rw [List.find?_cons]
    by_cases hn : n = name
    · simp [hn]
    · have hutf8 : utf8 n ≠ utf8 name := fun h => hn (utf8_injective h)
      simp [hutf8, ih, Ne.symm hn]

/-- **A map with different keys reads as it is**, the fields that are not known apart. -/
lemma readEntries_keyed {fields : List (String × Value)} (h : (fields.map Prod.fst).Nodup)
    (names : List String) (deny : Bool) :
    readEntries names deny (fields.map fun e => (.str (utf8 e.1), e.2)) =
      if deny ∧ ∃ e ∈ fields, e.1 ∉ names then none
      else some fun name => if name ∈ names then fields.lookup name else none := by
  induction fields with
  | nil => simp [readEntries]
  | cons e fields ih =>
    obtain ⟨k, v⟩ := e
    rw [map_cons, nodup_cons] at h
    have hlookup : fields.lookup k = none := by
      rw [lookup_eq_none_iff]
      intro e he
      simp only [bne_iff_ne, ne_eq]
      rintro rfl
      exact h.1 (List.mem_map.mpr ⟨e, he, rfl⟩)
    rw [map_cons, readEntries, ih h.2]
    simp only [fieldOf, find_utf8, bind_eq_bind]
    by_cases hunknown : deny = true ∧ ∃ e ∈ fields, e.1 ∉ names
    · have hcons : deny = true ∧ ∃ e ∈ (k, v) :: fields, e.1 ∉ names :=
        ⟨hunknown.1, hunknown.2.imp fun e he => ⟨mem_cons_of_mem _ he.1, he.2⟩⟩
      simp only [if_pos hunknown, if_pos hcons, bind_none]
    · simp only [if_neg hunknown, bind_some]
      by_cases hk : k ∈ names
      · have hcons : ¬(deny = true ∧ ∃ e ∈ (k, v) :: fields, e.1 ∉ names) := by
          rintro ⟨hdeny, e, he, hname⟩
          rcases mem_cons.mp he with rfl | he
          · exact hname hk
          · exact hunknown ⟨hdeny, e, he, hname⟩
        simp only [if_neg hcons, hk, if_true, hlookup, isSome_none, Bool.false_eq_true,
          if_false, some.injEq]
        funext name
        by_cases hname : name = k
        · subst hname
          simp [hk]
        · simp [Function.update_of_ne hname, lookup_cons, beq_false_of_ne hname]
      · cases deny with
        | true => simp [hk]
        | false =>
          simp only [hk, if_false, Bool.false_eq_true, false_and, some.injEq]
          funext name
          by_cases hname : name ∈ names
          · have hne : name ≠ k := fun heq => hk (heq ▸ hname)
            simp [hname, lookup_cons, beq_false_of_ne hne]
          · simp [hname]

lemma Txn.has_of_get
    (h : t.get name = some v) (hkind : kinds.lookup name = some kind) : kind.Has v :=
  t.typed (name, v) (t.mem_of_get h) kind hkind

lemma Txn.get_eq_of_optional {α : Type} {read : Value → Option α} {inj : α → Value}
    {o : Option α} (h : optional read (t.get name) = some o)
    (hread : ∀ v a, kind.Has v → read v = some a → v = inj a) (hnil : ¬kind.Has .nil)
    (hkind : kinds.lookup name = some kind) : t.get name = o.map inj := by
  cases hget : t.get name with
  | none =>
    rw [hget] at h
    rw [← some.inj h]
    rfl
  | some v =>
    have hhas := t.has_of_get hget hkind
    have hne : v ≠ .nil := fun heq => hnil (heq ▸ hhas)
    rw [hget, optional] at h
    · obtain ⟨a, ha, rfl⟩ := map_eq_some_iff.mp h
      rw [hread v a hhas ha]
      rfl
    · exact hne

section Kinds

variable {t : Txn} {name : String}

lemma eq_bin_of_asBytes (v : Value) (b : Bytes) (hhas : Kind.bytes.Has v) (h : asBytes v = some b) :
    v = .bin b := by
  obtain ⟨b', rfl⟩ := hhas
  rw [some.inj h]

lemma eq_uint_of_asUint (v : Value) (n : ℕ) (hhas : Kind.uint.Has v) (h : asUint v = some n) :
    v = .uint n := by
  obtain ⟨n', rfl⟩ := hhas
  rw [asUint] at h
  split_ifs at h
  rw [some.inj h]

lemma eq_str_of_asString (v : Value) (s : String) (hhas : Kind.text.Has v)
    (h : asString v = some s) : v = .str (utf8 s) := by
  obtain ⟨b, rfl⟩ := hhas
  rw [ofUtf8_eq_some_iff.mp h]

lemma mapM_map_eq_some {α : Type} {read : Value → Option α} (inj : α → Value)
    (hread : ∀ a a', read (inj a) = some a' → a' = a) {l l' : List α}
    (h : (l.map inj).mapM read = some l') : l' = l := by
  induction l generalizing l' with
  | nil => exact (some.inj h).symm
  | cons a l ih =>
    simp only [map_cons, mapM_cons, bind_eq_bind, bind_eq_some_iff,
      Option.pure_def, some.injEq] at h
    obtain ⟨a', ha, l'', hl, rfl⟩ := h
    rw [hread a a' ha, ih hl]

lemma eq_arr_of_asList_bytes (v : Value) (l : List Bytes) (hhas : Kind.bytesList.Has v)
    (h : asList asBytes v = some l) : v = .arr (l.map .bin) := by
  obtain ⟨l', rfl⟩ := hhas
  rw [mapM_map_eq_some Value.bin (fun _ _ h => (some.inj h).symm) h]

lemma eq_arr_of_asList_uint (v : Value) (l : List ℕ) (hhas : Kind.uintList.Has v)
    (h : asList asUint v = some l) : v = .arr (l.map .uint) := by
  obtain ⟨l', rfl⟩ := hhas
  have hread (n n' : ℕ) (h : asUint (.uint n) = some n') : n' = n := by
    rw [asUint] at h
    split_ifs at h
    exact (some.inj h).symm
  rw [mapM_map_eq_some Value.uint hread h]

lemma get_bytes {o : Option Bytes} (h : optional asBytes (t.get name) = some o)
    (hkind : kinds.lookup name = some .bytes) : t.get name = o.map .bin :=
  Txn.get_eq_of_optional h eq_bin_of_asBytes (by rintro ⟨b, hb⟩; cases hb) hkind

lemma get_uint {o : Option ℕ} (h : optional asUint (t.get name) = some o)
    (hkind : kinds.lookup name = some .uint) : t.get name = o.map .uint :=
  Txn.get_eq_of_optional h eq_uint_of_asUint (by rintro ⟨n, hn⟩; cases hn) hkind

lemma get_bytesList {o : Option (List Bytes)} (h : optional (asList asBytes) (t.get name) = some o)
    (hkind : kinds.lookup name = some .bytesList) :
    t.get name = o.map fun l => .arr (l.map .bin) :=
  Txn.get_eq_of_optional h eq_arr_of_asList_bytes (by rintro ⟨l, hl⟩; cases hl) hkind

lemma get_uintList {o : Option (List ℕ)} (h : optional (asList asUint) (t.get name) = some o)
    (hkind : kinds.lookup name = some .uintList) :
    t.get name = o.map fun l => .arr (l.map .uint) :=
  Txn.get_eq_of_optional h eq_arr_of_asList_uint (by rintro ⟨l, hl⟩; cases hl) hkind

end Kinds

structure ReadAs (t : Txn) (raw : RawTransaction) : Prop where
  known : ∀ e ∈ t.fields, e.1 ∈ fieldNames
  txnType : t.get "type" = some (.str (utf8 raw.txnType))
  snd : t.get "snd" = some (.bin raw.snd)
  fee : t.get "fee" = raw.fee.map .uint
  lx : t.get "lx" = raw.lx.map .bin
  note : t.get "note" = raw.note.map .bin
  rekey : t.get "rekey" = raw.rekey.map .bin
  rcv : t.get "rcv" = raw.rcv.map .bin
  amt : t.get "amt" = raw.amt.map .uint
  close : t.get "close" = raw.close.map .bin
  xaid : t.get "xaid" = raw.xaid.map .uint
  aamt : t.get "aamt" = raw.aamt.map .uint
  arcv : t.get "arcv" = raw.arcv.map .bin
  aclose : t.get "aclose" = raw.aclose.map .bin
  asnd : t.get "asnd" = raw.asnd.map .bin
  apid : t.get "apid" = raw.apid.map .uint
  apan : t.get "apan" = raw.apan.map .uint
  apaa : t.get "apaa" = raw.apaa.map fun l => .arr (l.map .bin)
  apat : t.get "apat" = raw.apat.map fun l => .arr (l.map .bin)
  apfa : t.get "apfa" = raw.apfa.map fun l => .arr (l.map .uint)
  apas : t.get "apas" = raw.apas.map fun l => .arr (l.map .uint)

lemma readStruct_fieldNames {slot : String → Option Value}
    (h : readStruct fieldNames true (keyed t.fields) = some slot) :
    (∀ e ∈ t.fields, e.1 ∈ fieldNames) ∧ slot = t.get := by
  rw [keyed, readStruct, readEntries_keyed t.nodup] at h
  split_ifs at h with hunknown
  have hknown : ∀ e ∈ t.fields, e.1 ∈ fieldNames := by
    intro e he
    by_contra hname
    exact hunknown ⟨rfl, e, he, hname⟩
  refine ⟨hknown, ?_⟩
  rw [← some.inj h]
  funext name
  split_ifs with hname
  · rfl
  · cases hget : t.get name with
    | none => rfl
    | some v => exact absurd (hknown _ (t.mem_of_get hget)) hname

lemma readAs_of_ofValue
    (h : RawTransaction.ofValue (keyed t.fields) = some raw) : ReadAs t raw := by
  obtain ⟨slot, hstruct, hslots⟩ := bind_eq_some_iff.mp h
  obtain ⟨hknown, rfl⟩ := readStruct_fieldNames hstruct
  rw [RawTransaction.ofSlots] at hslots
  obtain ⟨txnType, htype, hslots⟩ := bind_eq_some_iff.mp hslots
  obtain ⟨snd, hsnd, hslots⟩ := bind_eq_some_iff.mp hslots
  obtain ⟨fee, hfee, hslots⟩ := bind_eq_some_iff.mp hslots
  obtain ⟨_, -, hslots⟩ := bind_eq_some_iff.mp hslots
  obtain ⟨_, -, hslots⟩ := bind_eq_some_iff.mp hslots
  obtain ⟨_, -, hslots⟩ := bind_eq_some_iff.mp hslots
  obtain ⟨_, -, hslots⟩ := bind_eq_some_iff.mp hslots
  obtain ⟨_, -, hslots⟩ := bind_eq_some_iff.mp hslots
  obtain ⟨lx, hlx, hslots⟩ := bind_eq_some_iff.mp hslots
  obtain ⟨note, hnote, hslots⟩ := bind_eq_some_iff.mp hslots
  obtain ⟨rekey, hrekey, hslots⟩ := bind_eq_some_iff.mp hslots
  obtain ⟨rcv, hrcv, hslots⟩ := bind_eq_some_iff.mp hslots
  obtain ⟨amt, hamt, hslots⟩ := bind_eq_some_iff.mp hslots
  obtain ⟨close, hclose, hslots⟩ := bind_eq_some_iff.mp hslots
  obtain ⟨xaid, hxaid, hslots⟩ := bind_eq_some_iff.mp hslots
  obtain ⟨aamt, haamt, hslots⟩ := bind_eq_some_iff.mp hslots
  obtain ⟨arcv, harcv, hslots⟩ := bind_eq_some_iff.mp hslots
  obtain ⟨aclose, haclose, hslots⟩ := bind_eq_some_iff.mp hslots
  obtain ⟨asnd, hasnd, hslots⟩ := bind_eq_some_iff.mp hslots
  obtain ⟨apid, hapid, hslots⟩ := bind_eq_some_iff.mp hslots
  obtain ⟨apan, hapan, hslots⟩ := bind_eq_some_iff.mp hslots
  obtain ⟨apaa, hapaa, hslots⟩ := bind_eq_some_iff.mp hslots
  obtain ⟨apat, hapat, hslots⟩ := bind_eq_some_iff.mp hslots
  obtain ⟨apfa, hapfa, hslots⟩ := bind_eq_some_iff.mp hslots
  obtain ⟨apas, hapas, hslots⟩ := bind_eq_some_iff.mp hslots
  obtain ⟨vtype, htype, htype'⟩ := bind_eq_some_iff.mp htype
  obtain ⟨vsnd, hsnd, hsnd'⟩ := bind_eq_some_iff.mp hsnd
  rw [← some.inj hslots]
  exact {
    known := hknown
    txnType := htype.trans
      (congrArg some (eq_str_of_asString vtype _ (t.has_of_get htype rfl) htype'))
    snd := hsnd.trans (congrArg some (eq_bin_of_asBytes vsnd _ (t.has_of_get hsnd rfl) hsnd'))
    fee := get_uint hfee rfl
    lx := get_bytes hlx rfl
    note := get_bytes hnote rfl
    rekey := get_bytes hrekey rfl
    rcv := get_bytes hrcv rfl
    amt := get_uint hamt rfl
    close := get_bytes hclose rfl
    xaid := get_uint hxaid rfl
    aamt := get_uint haamt rfl
    arcv := get_bytes harcv rfl
    aclose := get_bytes haclose rfl
    asnd := get_bytes hasnd rfl
    apid := get_uint hapid rfl
    apan := get_uint hapan rfl
    apaa := get_bytesList hapaa rfl
    apat := get_bytesList hapat rfl
    apfa := get_uintList hapfa rfl
    apas := get_uintList hapas rfl }

lemma readAs_of_decode {Key : Type} {crates : Crates Key} (hreads : crates.ReadsShortest)
    {index : ℕ} (h : decode crates index t.encode = .ok raw) :
    ReadAs t raw := by
  rw [decode, Txn.encode] at h
  cases hread : crates.unpack (pack (keyed t.fields)) >>= RawTransaction.ofValue with
  | none =>
    rw [hread] at h
    cases h
  | some raw' =>
    rw [hread] at h
    cases h
    obtain ⟨v, hunpack, hvalue⟩ := bind_eq_some_iff.mp hread
    rw [hreads _ v t.fits hunpack] at hvalue
    exact readAs_of_ofValue hvalue

end Bingle.Registration
