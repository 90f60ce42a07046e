import Bingle.Dapp.Superseded

/-!
# What a payout leaves the application

An inner transaction takes its amount and its fee out of the application's account, and the chain
rejects a call that leaves it below its least balance.  `withdraw` caps the amount without the fee;
`migrate_reserve` transfers the asset also where the account cannot pay for it.
-/

namespace Bingle.Dapp

namespace Funds

variable (funds : Funds)

def cost : InnerTxn → ℕ
  | .payment _ amount => amount + funds.minTxnFee
  | .assetTransfer _ _ _ => funds.minTxnFee

def spent (txns : List InnerTxn) : ℕ := (txns.map funds.cost).sum

/-- The balance stays at the minimum or above, the fees included. -/
def Affordable (txns : List InnerTxn) : Prop := funds.minBalance + funds.spent txns ≤ funds.balance

instance (txns : List InnerTxn) : Decidable (funds.Affordable txns) :=
  inferInstanceAs (Decidable (_ ≤ _))

def transferFee (assetId : ℕ) : ℕ :=
  if assetId ≠ 0 ∧ 0 < (funds.assetBalance assetId).getD 0 then funds.minTxnFee else 0

variable {funds}

@[simp] lemma spent_nil : funds.spent [] = 0 := rfl

@[simp] lemma spent_payment (receiver : Account) (amount : ℕ) (txns : List InnerTxn) :
    funds.spent (.payment receiver amount :: txns) = amount + funds.minTxnFee + funds.spent txns :=
  rfl

@[simp] lemma spent_assetTransfer (assetId : ℕ) (receiver : Account) (amount : ℕ)
    (txns : List InnerTxn) :
    funds.spent (.assetTransfer assetId receiver amount :: txns) =
      funds.minTxnFee + funds.spent txns :=
  rfl

/-! ## `withdraw` -/

variable {a : App} {c : Ctx} {newAppAddress : Account} {assetId : ℕ} {txns : List InnerTxn}

lemma withdraw_eq_some (address : Account) {amount : ℕ} (assetId : ℕ)
    (hsender : a.appWithdrawer = some c.sender) (hamount : 0 < amount)
    (hbalance : funds.minBalance < funds.balance) :
    a.withdraw c funds address amount assetId 0 =
      some [.payment address (min amount (funds.balance - funds.minBalance))] := by
  have hcap : (if amount ≤ funds.balance - funds.minBalance then amount
      else funds.balance - funds.minBalance) = min amount (funds.balance - funds.minBalance) :=
    (min_def _ _).symm
  have hpaid : 0 < min amount (funds.balance - funds.minBalance) := by omega
  simp [App.withdraw, hsender, hamount, hbalance, hcap, hpaid]

lemma withdraw_affordable_iff (address : Account) (amount : ℕ)
    (hbalance : funds.minBalance + funds.minTxnFee < funds.balance) :
    funds.Affordable [.payment address (min amount (funds.balance - funds.minBalance))] ↔
      funds.minTxnFee = 0 ∨ funds.minBalance + (amount + funds.minTxnFee) ≤ funds.balance := by
  simp only [Affordable, spent_payment, spent_nil]
  omega

/-! ## `migrate_reserve` -/

def reservePayment (funds : Funds) (assetId : ℕ) : ℕ :=
  funds.balance - funds.minBalance -
    (funds.minTxnFee + if assetId ≠ 0 then funds.minTxnFee else 0)

lemma spent_migrateReserve (h : a.migrateReserve c funds newAppAddress assetId = some txns) :
    funds.spent txns =
      (if 0 < funds.reservePayment assetId then funds.reservePayment assetId + funds.minTxnFee
        else 0) + funds.transferFee assetId := by
  have hpayment : (if funds.balance > funds.minBalance +
        (funds.minTxnFee + if assetId ≠ 0 then funds.minTxnFee else 0) then
      funds.balance - funds.minBalance -
        (funds.minTxnFee + if assetId ≠ 0 then funds.minTxnFee else 0)
      else 0) = funds.reservePayment assetId := by
    unfold reservePayment
    split_ifs <;> omega
  obtain ⟨_, -, h⟩ := Option.bind_eq_some_iff.mp h
  obtain ⟨_, -, h⟩ := Option.bind_eq_some_iff.mp h
  obtain rfl := Option.some.inj h
  rw [hpayment]
  unfold transferFee
  split_ifs <;> simp_all

lemma migrateReserve_affordable_iff
    (h : a.migrateReserve c funds newAppAddress assetId = some txns) :
    funds.Affordable txns ↔ funds.minBalance + funds.transferFee assetId ≤ funds.balance := by
  have hfee : funds.transferFee assetId ≤ if assetId ≠ 0 then funds.minTxnFee else 0 := by
    unfold transferFee
    split_ifs <;> simp_all
  rw [Affordable, spent_migrateReserve h]
  unfold reservePayment
  split_ifs at hfee ⊢ <;> omega

/-! ## Both -/

/-- **When the least balance is kept.**  Where the balance exceeds it and the fee, a withdrawal of
Algo alone makes a positive payment that leaves the least balance exactly when there is no fee, or
amount and fee fit above it; and `migrate_reserve` exactly when the account can pay for the asset
transfer. -/
theorem least_balance_kept_iff (a : App) (c : Ctx) (funds : Funds) :
    (∀ (address : Account) (amount assetId : ℕ), a.appWithdrawer = some c.sender → 0 < amount →
      funds.minBalance + funds.minTxnFee < funds.balance →
        ((∃ paid, 0 < paid ∧
            a.withdraw c funds address amount assetId 0 = some [.payment address paid] ∧
            funds.Affordable [.payment address paid]) ↔
          funds.minTxnFee = 0 ∨ funds.minBalance + (amount + funds.minTxnFee) ≤ funds.balance)) ∧
      ∀ (newAppAddress : Account) (assetId : ℕ) (txns : List InnerTxn),
        a.migrateReserve c funds newAppAddress assetId = some txns →
          (funds.Affordable txns ↔
            funds.minBalance + funds.transferFee assetId ≤ funds.balance) := by
  refine ⟨?_, fun newAppAddress assetId txns h => migrateReserve_affordable_iff h⟩
  intro address amount assetId hsender hamount hbalance
  have hpays := withdraw_eq_some address assetId hsender hamount
    (lt_of_le_of_lt (Nat.le_add_right _ _) hbalance)
  rw [← withdraw_affordable_iff address amount hbalance, hpays]
  constructor
  · rintro ⟨paid, -, hpaid, haff⟩
    obtain rfl : min amount (funds.balance - funds.minBalance) = paid := by simpa using hpaid
    exact haff
  · intro haff
    exact ⟨_, by omega, rfl, haff⟩

theorem withdrawal_keeps_least_balance :
    let a : App := { creator := "C", appWithdrawer := some "W" }
    let funds : Funds := ⟨110000, 100000, 1000, fun _ => some 7⟩
    (∃ paid, 0 < paid ∧
        a.withdraw { sender := "W" } funds "X" 5000 0 0 = some [.payment "X" paid] ∧
        funds.Affordable [.payment "X" paid]) ∧
      funds.Affordable [.payment "N" 8000, .assetTransfer 3 "N" 7] := by
  intro a funds
  have hwithdraw := (least_balance_kept_iff a { sender := "W" } funds).1 "X" 5000 0 rfl (by decide)
    (by decide)
  have hreserve := (least_balance_kept_iff a { sender := "C" } funds).2 "N" 3
    [.payment "N" 8000, .assetTransfer 3 "N" 7] (by decide)
  exact ⟨hwithdraw.mpr (by decide), hreserve.mpr (by decide)⟩

/-- The cap takes all above the least balance, and the fee is taken from that; so is the fee of
moving an asset out of an account that holds its least balance only. -/
theorem cap_leaves_no_fee :
    let a : App := { creator := "C", appWithdrawer := some "W" }
    let full : Funds := ⟨110000, 100000, 1000, fun _ => none⟩
    let bare : Funds := ⟨100000, 100000, 1000, fun _ => some 7⟩
    a.withdraw { sender := "W" } full "X" 50000 0 0 = some [.payment "X" 10000] ∧
      ¬ full.Affordable [.payment "X" 10000] ∧
      a.migrateReserve { sender := "C" } bare "N" 3 = some [.assetTransfer 3 "N" 7] ∧
      ¬ bare.Affordable [.assetTransfer 3 "N" 7] := by
  decide

end Funds

end Bingle.Dapp
