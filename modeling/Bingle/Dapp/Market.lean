import Bingle.Dapp.Contract

/-!
# Whether every Bingle$ sold is paid for

`buy_bingle` dispenses one unit of Bingle$ if the atomic transaction group it travels in has a
payment of exactly the price to the application.  Each call looks through the whole group, so one
payment serves as many calls as there are.
-/

namespace Bingle.Dapp

open List Option

/-! ## The two methods -/

namespace App

def buyBingle (a : App) (c : Ctx) : Option ℕ := do
  guard (¬ a.isSuperseded)
  let _assetId ← c.assets[0]?
  let price ← a.binglePrice
  guard (c.group.any fun t => t.receiver = c.appAddress ∧ t.amount = price)
  some price

/-- `sell_bingle`: only looks for the transfer and for the payout.  The product fails the call when
it does not fit. -/
def sellBingle (a : App) (c : Ctx) (amount : ℕ) : Option Unit := do
  guard (¬ a.isSuperseded)
  let assetId ← c.assets[0]?
  let price ← a.binglePrice
  guard (price * amount < 2 ^ 64)
  guard (c.group.any fun t => t.receiver = c.sender ∧ t.amount = price * amount)
  guard (c.group.any fun t => t.xferAsset = assetId ∧ t.sender = c.sender ∧
    t.assetReceiver = c.appAddress ∧ t.assetAmount = amount)

end App

/-! ## Groups -/

inductive Action
  /-- nothing, or a call that neither sells nor changes the app's state -/
  | other
  | buyBingle
  | sellBingle (amount : ℕ)
  | method (k : Ctx → Call)

structure Txn extends GTxn where
  assets : List ℕ := []
  action : Action := .other
  /-- what it pays the application besides `amount`: by closing an account out to it, or by inner
  payments of another application -/
  extra : ℕ := 0

structure Chain where
  appAddress : Account
  latestTimestamp : U64 := 0
  /-- signatures, fees, balances and the other applications let the group through -/
  accepts : Bool := true

def Txn.ctx (chain : Chain) (g : List Txn) (t : Txn) : Ctx :=
  { sender := t.sender
    appAddress := chain.appAddress
    assets := t.assets
    group := g.map Txn.toGTxn
    latestTimestamp := chain.latestTimestamp }

def Txn.run (chain : Chain) (g : List Txn) (s : App × List ℕ) (t : Txn) : Option (App × List ℕ) :=
  match t.action with
  | .other => some s
  | .buyBingle => (s.1.buyBingle (t.ctx chain g)).map fun price => (s.1, s.2 ++ [price])
  | .sellBingle amount => (s.1.sellBingle (t.ctx chain g) amount).map fun _ => s
  | .method k => (s.1.call (k (t.ctx chain g))).map fun a => (a, s.2)

namespace App

/-- An atomic group: all its transactions, or none.  Returns the prices it sold at. -/
def runGroup (a : App) (chain : Chain) (g : List Txn) : Option (App × List ℕ) := do
  guard chain.accepts
  g.foldlM (Txn.run chain g) (a, [])

def sold (a : App) (chain : Chain) (g : List Txn) : List ℕ :=
  ((a.runGroup chain g).map Prod.snd).getD []

end App

/-- The Algo that the transactions of the group pay to the application, one by one. -/
def payments (chain : Chain) (g : List Txn) : Multiset ℕ :=
  ((g.filter fun t => t.receiver = chain.appAddress).map fun t => t.amount : List ℕ)

def extras (g : List Txn) : ℕ := (g.map Txn.extra).sum

/-- All that the group pays to the application. -/
def paid (chain : Chain) (g : List Txn) : ℕ := (payments chain g).sum + extras g

def Txn.isBuy (t : Txn) : Bool :=
  match t.action with
  | .buyBingle => true
  | _ => false

/-- How many `buy_bingle` calls the group has. -/
def buys (g : List Txn) : ℕ := g.countP Txn.isBuy

/-- How many payments of exactly the price the group has. -/
def exactPayments (chain : Chain) (g : List Txn) (price : ℕ) : ℕ := (payments chain g).count price

/-- What else is paid to the application. -/
def otherPayments (chain : Chain) (g : List Txn) (price : ℕ) : ℕ :=
  ((payments chain g).filter (· ≠ price)).sum + extras g

/-- The price is one price: no other method that the group calls changes it. -/
def KeepsPrice (chain : Chain) (g : List Txn) : Prop :=
  ∀ t ∈ g, ∀ k, t.action = .method k → ∀ a b : App, a.call (k (t.ctx chain g)) = some b →
    b.binglePrice = a.binglePrice

/-! ## What a group that goes through sells -/

lemma paid_eq (chain : Chain) (g : List Txn) (price : ℕ) :
    paid chain g = exactPayments chain g price * price + otherPayments chain g price := by
  have hsplit := congrArg Multiset.sum (Multiset.filter_add_not (· = price) (payments chain g))
  rw [Multiset.sum_add, Multiset.filter_eq', Multiset.sum_replicate, smul_eq_mul] at hsplit
  rw [paid, exactPayments, otherPayments, ← hsplit, Nat.add_assoc]

/-- **The payment check**: a call that goes through has seen a payment of exactly the price. -/
lemma exactPayments_pos {a : App} {chain : Chain} {g : List Txn} {t : Txn} {price sale : ℕ}
    (hprice : a.binglePrice = some price) (h : a.buyBingle (t.ctx chain g) = some sale) :
    0 < exactPayments chain g price := by
  simp only [App.buyBingle, bind_eq_bind, bind_eq_some_iff, guard_eq_some, hprice,
    some.injEq] at h
  obtain ⟨-, -, -, -, p, rfl, -, hpaid, -⟩ := h
  simp only [Txn.ctx, List.any_map, List.any_eq_true, Function.comp] at hpaid
  obtain ⟨t', ht', hmatch⟩ := hpaid
  obtain ⟨hreceiver, hamount⟩ := of_decide_eq_true hmatch
  rw [exactPayments, payments, Multiset.coe_count, count_pos_iff]
  exact List.mem_map.mpr ⟨t', mem_filter.mpr ⟨ht', decide_eq_true hreceiver⟩, hamount⟩

lemma foldlM_run_eq_some {chain : Chain} {g ts : List Txn} {s s' : App × List ℕ} {price : ℕ}
    (hts : ts ⊆ g) (hkeeps : KeepsPrice chain g) (hprice : s.1.binglePrice = some price)
    (h : ts.foldlM (Txn.run chain g) s = some s') :
    s'.2.length = s.2.length + buys ts ∧ (0 < buys ts → 0 < exactPayments chain g price) := by
  induction ts generalizing s with
  | nil =>
    obtain rfl : s = s' := by simpa using h
    simp [buys]
  | cons t ts ih =>
    rw [foldlM_cons, bind_eq_bind, bind_eq_some_iff] at h
    obtain ⟨u, hu, hrest⟩ := h
    obtain ⟨ht, hts⟩ := cons_subset.mp hts
    unfold Txn.run at hu
    cases haction : t.action <;> rw [haction] at hu
    case other =>
      obtain rfl : s = u := some.inj hu
      simpa [buys, Txn.isBuy, haction] using ih hts hprice hrest
    case buyBingle =>
      obtain ⟨sale, hsale, rfl⟩ := map_eq_some_iff.mp hu
      have hlength := (ih (s := (s.1, s.2 ++ [sale])) hts hprice hrest).1
      simp only [length_append, length_singleton] at hlength
      refine ⟨?_, fun _ => exactPayments_pos hprice hsale⟩
      simp only [buys, Txn.isBuy, haction, countP_cons_of_pos] at hlength ⊢
      omega
    case sellBingle amount =>
      obtain ⟨_, -, rfl⟩ := map_eq_some_iff.mp hu
      simpa [buys, Txn.isBuy, haction] using ih hts hprice hrest
    case method k =>
      obtain ⟨b, hb, rfl⟩ := map_eq_some_iff.mp hu
      have hb' : b.binglePrice = some price := (hkeeps t ht k haction _ b hb).trans hprice
      simpa [buys, Txn.isBuy, haction] using ih hts hb' hrest

/-! ## What is paid for -/

/-- **Every unit sold is paid for** by a group that goes through if and only if it has one
`buy_bingle` call at most, or the calls beyond the payments of exactly the price cost no more than
what else is paid to the application. -/
theorem sold_paid_iff {a : App} {chain : Chain} {g : List Txn} {price : ℕ}
    (hprice : a.binglePrice = some price) (hkeeps : KeepsPrice chain g)
    (hthrough : (a.runGroup chain g).isSome) :
    (a.sold chain g).length * price ≤ paid chain g ↔ buys g ≤ 1 ∨
      (buys g - exactPayments chain g price) * price ≤ otherPayments chain g price := by
  obtain ⟨s, hs⟩ := isSome_iff_exists.mp hthrough
  have hrun : g.foldlM (Txn.run chain g) (a, []) = some s := by
    simp only [App.runGroup, bind_eq_bind, bind_eq_some_iff, guard_eq_some] at hs
    exact hs.choose_spec.2
  obtain ⟨hlength, hexact⟩ := foldlM_run_eq_some (List.Subset.refl g) hkeeps hprice hrun
  have hsold : (a.sold chain g).length = buys g := by
    simpa [App.sold, hs] using hlength
  have hsub : buys g * price ≤ exactPayments chain g price * price + otherPayments chain g price ↔
      (buys g - exactPayments chain g price) * price ≤ otherPayments chain g price := by
    rw [Nat.sub_mul]
    omega
  rw [hsold, paid_eq chain g price, hsub]
  refine ⟨Or.inr, fun h => h.elim (fun hone => ?_) id⟩
  have hnone : buys g - exactPayments chain g price = 0 := by omega
  rw [hnone, Nat.zero_mul]
  exact Nat.zero_le _

def buying (x : Account) : Txn :=
  { sender := x, receiver := "", amount := 0, xferAsset := 0, assetReceiver := "", assetAmount := 0
    assets := [1], action := .buyBingle }

def paying (x : Account) (amount : ℕ) : Txn :=
  { sender := x, receiver := "APP", amount, xferAsset := 0, assetReceiver := "", assetAmount := 0 }

theorem one_payment_for_one :
    let a : App := { creator := "CREATOR", binglePrice := some 1000 }
    (a.runGroup { appAddress := "APP" } [paying "X" 1000, buying "X"]).isSome ∧
      (a.sold { appAddress := "APP" } [paying "X" 1000, buying "X"]).length * 1000 ≤
        paid { appAddress := "APP" } [paying "X" 1000, buying "X"] :=
  ⟨by decide, (sold_paid_iff rfl (by simp [KeepsPrice, paying, buying]) (by decide)).mpr
    (.inl (by decide))⟩

theorem one_payment_for_two :
    ¬ ∀ (a : App) (chain : Chain) (g : List Txn) (price : ℕ), a.binglePrice = some price →
      (∀ t ∈ g, ∀ k, t.action ≠ .method k) →
      (a.sold chain g).length * price ≤ paid chain g := by
  intro h
  have hbad := h { creator := "CREATOR", binglePrice := some 1000 } { appAddress := "APP" }
    [paying "X" 1000, buying "X", buying "X"] 1000 rfl (by simp [buying, paying])
  exact absurd hbad (by decide)

end Bingle.Dapp
