import Mathlib

/-!
# JSON values, and records written as JSON objects

A field may be left out, may have a default, may be `null`; so it comes with the value that is read
back in its place.

* `Codec` — a value and its JSON, which reads back as the value.
* `Slot` — a value that may be left out of the object, with what comes back in its place, `norm`.
* `Fields` — the fields of a record, built up one by one with different keys.
* `Fields.decTagged_tagged` — **the rule** for values of several kinds, told apart by a tag.
-/

namespace Lib

open List Option

/-- A JSON value.  An object is a list of its entries, read by `List.lookup`. -/
inductive Json
  | null
  | bool (b : Bool)
  | int (n : ℤ)
  | float (bits : UInt64)
  | str (s : String)
  | arr (elements : List Json)
  | obj (entries : List (String × Json))

structure Codec (α : Type) where
  enc : α → Json
  dec : Json → Option α
  dec_enc : ∀ a, dec (enc a) = some a

namespace Codec

variable {α β : Type}

def string : Codec String where
  enc := .str
  dec
    | .str s => some s
    | _ => none
  dec_enc _ := rfl

def bool : Codec Bool where
  enc := .bool
  dec
    | .bool b => some b
    | _ => none
  dec_enc _ := rfl

def integer (toInt : α → ℤ) (ofInt : ℤ → α) (h : ∀ a, ofInt (toInt a) = a) : Codec α where
  enc a := .int (toInt a)
  dec
    | .int n => if toInt (ofInt n) = n then some (ofInt n) else none
    | _ => none
  dec_enc a := by simp [h]

lemma eq_int_of_dec_integer {toInt : α → ℤ} {ofInt : ℤ → α} {h : ∀ a, ofInt (toInt a) = a}
    {v : Json} {a : α} (hv : (integer toInt ofInt h).dec v = some a) : v = .int (toInt a) := by
  cases v with
  | int n =>
    simp only [integer] at hv
    split_ifs at hv with hn
    obtain rfl := some.inj hv
    rw [hn]
  | _ => cases hv

def u16 : Codec UInt16 := integer (fun n => n.toNat) (fun n => .ofNat n.toNat) (by simp)

def u64 : Codec UInt64 := integer (fun n => n.toNat) (fun n => .ofNat n.toNat) (by simp)

def i32 : Codec Int32 := integer Int32.toInt Int32.ofInt (by simp)

def i64 : Codec Int64 := integer Int64.toInt Int64.ofInt (by simp)

lemma mapM_dec_map_enc (c : Codec α) (l : List α) : (l.map c.enc).mapM c.dec = some l := by
  induction l with
  | nil => rfl
  | cons a l ih => simp [c.dec_enc, ih]

def list (c : Codec α) : Codec (List α) where
  enc l := .arr (l.map c.enc)
  dec
    | .arr l => l.mapM c.dec
    | _ => none
  dec_enc := c.mapM_dec_map_enc

def via (c : Codec β) (f : α → β) (g : β → Option α) (h : ∀ a, g (f a) = some a) : Codec α where
  enc a := c.enc (f a)
  dec v := c.dec v >>= g
  dec_enc a := by simp [c.dec_enc, h]

/-- The name of a value, or an object with the name alone and `null` for what it holds. -/
def unitVariant (name : α → String) (ofName : String → Option α) (h : ∀ a, ofName (name a) = some a) :
    Codec α where
  enc a := .str (name a)
  dec
    | .str s | .obj [(s, .null)] => ofName s
    | _ => none
  dec_enc := h

end Codec

namespace Json

def get (key : String) : Json → Option Json
  | .obj entries => entries.lookup key
  | _ => none

@[simp] lemma get_obj (entries : List (String × Json)) (key : String) :
    (obj entries).get key = entries.lookup key := rfl

def asStr : Json → Option String := Codec.string.dec

def asBool : Json → Option Bool := Codec.bool.dec

def asU64 : Json → Option UInt64 := Codec.u64.dec

end Json

/-- What an object has at a key, if anything, for a value. -/
structure Slot (α : Type) where
  enc : α → Option Json
  dec : Option Json → Option α
  norm : α → α
  dec_enc : ∀ a, dec (enc a) = some (norm a)

namespace Slot

variable {α : Type}

def required (c : Codec α) : Slot α where
  enc a := some (c.enc a)
  dec v := v >>= c.dec
  norm := id
  dec_enc a := c.dec_enc a

def withDefault (c : Codec α) (d : α) : Slot α where
  enc a := some (c.enc a)
  dec
    | none => some d
    | some v => c.dec v
  norm := id
  dec_enc a := c.dec_enc a

def nonempty (c : Codec α) : Slot (List α) where
  enc l := if l.isEmpty then none else some (c.list.enc l)
  dec
    | none => some []
    | some v => c.list.dec v
  norm := id
  dec_enc l := by
    cases l with
    | nil => rfl
    | cons a l => exact c.list.dec_enc (a :: l)

def decOption (dec : Json → Option α) : Option Json → Option (Option α)
  | none | some .null => some none
  | some v => (dec v).map some

lemma decOption_some {dec : Json → Option α} {v : Json} {o : Option α}
    (h : decOption dec (some v) = some o) :
    v = .null ∧ o = none ∨ ∃ a, dec v = some a ∧ o = some a := by
  cases v with
  | null => exact .inl ⟨rfl, (some.inj h).symm⟩
  | _ =>
    obtain ⟨a, ha, rfl⟩ := map_eq_some_iff.mp h
    exact .inr ⟨a, ha, rfl⟩

lemma isSome_decOption {dec : Json → Option α} {v : Option Json} :
    (decOption dec v).isSome ↔ ∀ j ∈ v, j ≠ .null → (dec j).isSome := by
  rcases v with _ | j
  · simp [decOption]
  · cases j <;> simp [decOption]

def nullable : Slot (Option String) where
  enc a := some (a.elim .null .str)
  dec := decOption Codec.string.dec
  norm := id
  dec_enc a := by cases a <;> rfl

/-- A value that is left out when it is missing.  What is written for one that is there is not
`null`. -/
def optional (c : Codec α) (h : ∀ a, c.enc a ≠ .null) : Slot (Option α) where
  enc a := a.map c.enc
  dec := decOption c.dec
  norm := id
  dec_enc a := by
    cases a with
    | none => rfl
    | some a =>
      rw [map_some, decOption]
      · rw [c.dec_enc]
        rfl
      · exact h a

def nullOr (c : Codec α) (h : ∀ a, c.enc a ≠ .null) : Slot (Option α) where
  enc a := some (a.elim .null c.enc)
  dec := decOption c.dec
  norm := id
  dec_enc a := by
    cases a with
    | none => rfl
    | some a => exact (optional c h).dec_enc (some a)

def dropNull : Option Json → Option Json
  | some .null => none
  | v => v

lemma dropNull_eq_self_iff (v : Option Json) : dropNull v = v ↔ v ≠ some .null := by
  cases v with
  | none => simp [dropNull]
  | some v => cases v <;> simp [dropNull]

/-- A JSON value that is left out when it is missing.  One that is there and `null` reads back as
missing. -/
def json : Slot (Option Json) where
  enc := id
  dec := decOption some
  norm := dropNull
  dec_enc v := by
    cases v with
    | none => rfl
    | some v => cases v <;> rfl

end Slot

structure Fields (ρ α : Type) where
  keys : List String
  enc : ρ → List (String × Json)
  dec : (String → Option Json) → Option α
  norm : ρ → α
  enc_keys : ∀ r, ∀ entry ∈ enc r, entry.1 ∈ keys
  dec_enc : ∀ r get, (∀ k ∈ keys, get k = (enc r).lookup k) → dec get = some (norm r)

namespace Fields

variable {ρ α β : Type}

def make (ρ : Type) (f : α) : Fields ρ α where
  keys := []
  enc _ := []
  dec _ := some f
  norm _ := f
  enc_keys _ _ h := absurd h not_mem_nil
  dec_enc _ _ _ := rfl

variable {key k tag : String}

lemma lookup_eq_none_of_not_mem (F : Fields ρ α) (h : key ∉ F.keys) (r : ρ) :
    (F.enc r).lookup key = none := by
  rw [lookup_eq_none_iff]
  intro entry hentry
  simp only [bne_iff_ne, ne_eq]
  intro heq
  exact h (heq ▸ F.enc_keys r entry hentry)

def entry (key : String) (v : Option Json) : List (String × Json) := (v.map (key, ·)).toList

lemma lookup_entry_self (key : String) (v : Option Json) : (entry key v).lookup key = v := by
  cases v <;> simp [entry]

lemma lookup_entry_of_ne (h : k ≠ key) (v : Option Json) :
    (entry key v).lookup k = none := by
  cases v with
  | none => rfl
  | some v => simp [entry, lookup_cons, beq_false_of_ne h]

lemma lookup_append_entry_self (F : Fields ρ α) (h : key ∉ F.keys) (r : ρ)
    (v : Option Json) : (F.enc r ++ entry key v).lookup key = v := by
  rw [lookup_append, F.lookup_eq_none_of_not_mem h, none_or, lookup_entry_self]

lemma lookup_append_entry_of_ne (F : Fields ρ α) (h : k ≠ key) (r : ρ)
    (v : Option Json) : (F.enc r ++ entry key v).lookup k = (F.enc r).lookup k := by
  rw [lookup_append, lookup_entry_of_ne h, or_none]

def field (F : Fields ρ (α → β)) (key : String) (x : Slot α) (sel : ρ → α)
    (h : key ∉ F.keys := by first | decide | simp) : Fields ρ β where
  keys := key :: F.keys
  enc r := F.enc r ++ entry key (x.enc (sel r))
  dec get := do
    let f ← F.dec get
    let a ← x.dec (get key)
    return f a
  norm r := F.norm r (x.norm (sel r))
  enc_keys r e he := by
    rcases mem_append.mp he with he | he
    · exact mem_cons_of_mem key (F.enc_keys r e he)
    · obtain ⟨v, -, rfl⟩ := by simpa [entry] using he
      exact mem_cons_self
  dec_enc r get hget := by
    have hF : F.dec get = some (F.norm r) := by
      refine F.dec_enc r get fun k hk => ?_
      rw [hget k (mem_cons_of_mem key hk),
        F.lookup_append_entry_of_ne (ne_of_mem_of_not_mem hk h)]
    have hx : get key = x.enc (sel r) := by
      rw [hget key mem_cons_self, F.lookup_append_entry_self h]
    rw [hF, hx, x.dec_enc]
    rfl

lemma isSome_dec_make (f : α) (get : String → Option Json) : ((make ρ f).dec get).isSome := rfl

lemma isSome_dec_field (F : Fields ρ (α → β)) (x : Slot α) (sel : ρ → α)
    (h : key ∉ F.keys) (get : String → Option Json) :
    ((F.field key x sel h).dec get).isSome ↔ (F.dec get).isSome ∧ (x.dec (get key)).isSome := by
  change (F.dec get >>= fun f => x.dec (get key) >>= fun a => pure (f a)).isSome ↔ _
  cases F.dec get with
  | none => simp
  | some f => cases x.dec (get key) <;> simp

@[simp] lemma keys_make (f : α) : (make ρ f).keys = [] := rfl

variable (F : Fields ρ (α → β))

@[simp] lemma keys_field (key : String) (x : Slot α) (sel : ρ → α) (h : key ∉ F.keys) :
    (F.field key x sel h).keys = key :: F.keys := rfl

lemma lookup_field_self (x : Slot α) (sel : ρ → α) (h : key ∉ F.keys) (r : ρ) :
    ((F.field key x sel h).enc r).lookup key = x.enc (sel r) :=
  F.lookup_append_entry_self h r _

lemma lookup_field_of_ne (hne : k ≠ key) (x : Slot α) (sel : ρ → α)
    (h : key ∉ F.keys) (r : ρ) : ((F.field key x sel h).enc r).lookup k = (F.enc r).lookup k :=
  F.lookup_append_entry_of_ne hne r _

def tagged (tag name : String) (F : Fields ρ ρ) (r : ρ) : List (String × Json) :=
  (tag, .str name) :: F.enc r

lemma dec_tagged (F : Fields ρ ρ) (h : tag ∉ F.keys) (name : String) (r : ρ) :
    F.dec (fun k => (F.tagged tag name r).lookup k) = some (F.norm r) := by
  refine F.dec_enc r _ fun k hk => ?_
  simp only [tagged, lookup_cons, beq_false_of_ne (ne_of_mem_of_not_mem hk h)]

def variant {μ : Type} (F : Fields ρ ρ) (name : String) (mk : ρ → μ) :
    String × ((String → Option Json) → Option μ) :=
  (name, fun get => (F.dec get).map mk)

def decTagged {μ : Type} (tag : String)
    (variants : List (String × ((String → Option Json) → Option μ))) (get : String → Option Json) :
    Option μ :=
  match get tag with
  | some (.str name) => (variants.lookup name).bind (· get)
  | _ => none

lemma isSome_tag_of_decTagged {μ : Type}
    {variants : List (String × ((String → Option Json) → Option μ))} {get : String → Option Json}
    {m : μ} (h : decTagged tag variants get = some m) : (get tag).isSome := by
  unfold decTagged at h
  split at h
  next htag => rw [htag]; rfl
  next => cases h

lemma exists_variant_of_decTagged {μ : Type}
    {variants : List (String × ((String → Option Json) → Option μ))} {get : String → Option Json}
    (h : (decTagged tag variants get).isSome) : ∃ v ∈ variants, (v.2 get).isSome := by
  unfold decTagged at h
  split at h
  next name _ =>
    cases hlookup : variants.lookup name with
    | none => simp [hlookup] at h
    | some dec =>
      rw [hlookup, bind_some] at h
      obtain ⟨_, _, rfl, -⟩ := lookup_eq_some_iff.mp hlookup
      exact ⟨(name, dec), mem_append_right _ mem_cons_self, h⟩
  next => cases h

/-- **The rule.**  A record written with the tag of its kind reads back as one of that kind. -/
lemma decTagged_tagged {μ : Type} {name : String}
    {variants : List (String × ((String → Option Json) → Option μ))} (F : Fields ρ ρ)
    {mk : ρ → μ} (hname : variants.lookup name = some (F.variant name mk).2)
    (htag : tag ∉ F.keys) (r : ρ) :
    decTagged tag variants (fun k => (F.tagged tag name r).lookup k) = some (mk (F.norm r)) := by
  have hself : (F.tagged tag name r).lookup tag = some (.str name) := by
    simp [tagged]
  simp only [decTagged, hself, hname, variant, bind_some, F.dec_tagged htag, map_some]

/-- A record is read from an object, or from an array of its fields in their order.  An array may
end early, after the first `least` fields, where what is left out may be. -/
def ofJson (F : Fields ρ ρ) (least : ℕ) : Json → Option ρ
  | .obj entries => F.dec fun k => entries.lookup k
  | .arr elements =>
    if least ≤ elements.length ∧ elements.length ≤ F.keys.length then
      F.dec fun k => (F.keys.reverse.zip elements).lookup k
    else none
  | _ => none

lemma ofJson_enc (F : Fields ρ ρ) (r : ρ) {least : ℕ} :
    F.ofJson least (.obj (F.enc r)) = some (F.norm r) := F.dec_enc r _ fun _ _ => rfl

def codec (F : Fields ρ ρ) (h : ∀ r, F.norm r = r) : Codec ρ where
  enc r := .obj (F.enc r)
  dec := F.ofJson 0
  dec_enc r := (F.ofJson_enc r).trans (congrArg some (h r))

lemma mapM_ofJson_map_enc (F : Fields ρ ρ) (least : ℕ) (l : List ρ) :
    (l.map fun r => Json.obj (F.enc r)).mapM (F.ofJson least) = some (l.map F.norm) := by
  induction l with
  | nil => rfl
  | cons r l ih =>
    rw [map_cons, mapM_cons, F.ofJson_enc, ih]
    rfl

def list (F : Fields ρ ρ) (least : ℕ) : Slot (List ρ) where
  enc l := some (.arr (l.map fun r => .obj (F.enc r)))
  dec
    | none => some []
    | some (.arr l) => l.mapM (F.ofJson least)
    | some _ => none
  norm := List.map F.norm
  dec_enc := F.mapM_ofJson_map_enc least

end Fields

end Lib
