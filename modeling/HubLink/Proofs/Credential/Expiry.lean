import HubLink.Proofs.Credential.TokenFields
import HubLink.Transport.Signing

namespace HubLink.Credential

open Text

theorem toInt_addSaturating (a b : Int64) :
    (addSaturating a b).toInt =
      max Int64.minValue.toInt (min (a.toInt + b.toInt) Int64.maxValue.toInt) := by
  have hmin := Int64.toInt_minValue
  have hmax := Int64.toInt_maxValue
  rw [addSaturating, Int64.toInt_ofInt_of_le (by omega) (by omega)]

theorem toInt_clampLifetime (seconds : UInt64) :
    (clampLifetime seconds).toInt = min (seconds.toNat : Int) Int64.maxValue.toInt := by
  have hmax := Int64.toInt_maxValue
  unfold clampLifetime
  split
  case isTrue hfits =>
    rw [Int64.toInt_ofNat_of_lt (by omega)]
    omega
  case isFalse hlong => omega

namespace Signer

variable (s : Signer) {now : Int64}

/-- In integers, the expiry is `now` plus the lifetime, each cut off at the largest value. -/
theorem toInt_expiryAt (now : Int64) :
    (s.expiryAt now).toInt = max Int64.minValue.toInt
      (min (now.toInt + min (s.lifetime.toNat : Int) Int64.maxValue.toInt) Int64.maxValue.toInt) := by
  rw [expiryAt, toInt_addSaturating, toInt_clampLifetime]

/-- For `0 ≤ now` it is the minimum of `now + lifetime` and the largest value. -/
theorem toInt_expiryAt_of_nonneg (hnow : 0 ≤ now) :
    (s.expiryAt now).toInt = min (now.toInt + s.lifetime.toNat) Int64.maxValue.toInt := by
  have hstart : 0 ≤ now.toInt := Int64.le_iff_toInt_le.1 hnow
  have hmin := Int64.toInt_minValue
  have hmax := Int64.toInt_maxValue
  rw [toInt_expiryAt]
  omega

theorem le_expiryAt (hnow : 0 ≤ now) : now ≤ s.expiryAt now := by
  have hlast : now.toInt ≤ Int64.maxValue.toInt := Int64.le_iff_toInt_le.1 now.le_maxValue
  rw [Int64.le_iff_toInt_le, s.toInt_expiryAt_of_nonneg hnow]
  omega

theorem expiryAt_mono_lifetime (now : Int64) {lifetime : UInt64} (h : s.lifetime ≤ lifetime) :
    s.expiryAt now ≤ { s with lifetime }.expiryAt now := by
  have hlonger : s.lifetime.toNat ≤ lifetime.toNat := h
  rw [Int64.le_iff_toInt_le, toInt_expiryAt, toInt_expiryAt]
  dsimp only
  omega

theorem expiryAt_mono_clock {later : Int64} (h : now ≤ later) : s.expiryAt now ≤ s.expiryAt later := by
  have hlater : now.toInt ≤ later.toInt := Int64.le_iff_toInt_le.1 h
  rw [Int64.le_iff_toInt_le, toInt_expiryAt, toInt_expiryAt]
  omega

/-- The text of a signed token contains the field `se` with its expiry. -/
theorem expiry_mem_readFields? {expiry : Int64} {t : Token} (h : s.sign expiry = .ok t) :
    ∃ fields, Token.readFields? t.text = some fields ∧ ("se", Token.expiryText expiry) ∈ fields := by
  refine ⟨t.fields, Token.readFields?_text t, ?_⟩
  rw [Token.fields_of_sign h]
  simp

end Signer
end HubLink.Credential

namespace HubLink.Transport

open Credential Text

/-- The token reply at `now` is the text of the token signed with the expiry at `now`. -/
theorem result_signedReply {σ : Type} (s : Signer) (now : Int64) (world : σ) :
    (signedReply s now world).result = (s.sign (s.expiryAt now)).map Token.text := by
  unfold signedReply Signer.signNow
  cases s.sign (s.expiryAt now) <;> rfl

/-- For `0 ≤ now`, the expiry is the minimum of `now + lifetime` and the largest signed 64-bit
integer, computed without overflow. It is at least `now`, and monotone in the lifetime and in the
time. The token that is answered is signed with this expiry, and its text contains it. -/
theorem expiry_eq_min {σ : Type} (s : Signer) (now : Int64) (hnow : 0 ≤ now) (world : σ) :
    let last := Int64.maxValue.toInt
    let expiry := s.expiryAt now
    expiry.toInt = min (now.toInt + s.lifetime.toNat) last ∧
      now ≤ expiry ∧
      (∀ lifetime, s.lifetime ≤ lifetime → expiry ≤ { s with lifetime }.expiryAt now) ∧
      (∀ later, now ≤ later → expiry ≤ s.expiryAt later) ∧
      (signedReply s now world).result = (s.sign expiry).map Token.text ∧
      ∀ text, (signedReply s now world).result = .ok text →
        ∃ fields, Token.readFields? text = some fields ∧
          ("se", String.ofList (decimalInt (min (now.toInt + s.lifetime.toNat) last))) ∈ fields := by
  intro last expiry
  have hexact : expiry.toInt = min (now.toInt + s.lifetime.toNat) last := s.toInt_expiryAt_of_nonneg hnow
  refine ⟨hexact, s.le_expiryAt hnow, fun _ => s.expiryAt_mono_lifetime now,
    fun _ => s.expiryAt_mono_clock, result_signedReply s now world, fun text htext => ?_⟩
  rw [result_signedReply] at htext
  cases hsign : s.sign (s.expiryAt now) with
  | error e =>
    rw [hsign] at htext
    cases htext
  | ok token =>
    rw [hsign] at htext
    obtain rfl := Except.ok.inj htext
    rw [← hexact]
    exact s.expiry_mem_readFields? hsign

/-- A signer with the largest lifetime. -/
def longestLived : Signer where
  connectionString := ⟨"h", "d", "a2V5", none, none⟩
  lifetime := 18446744073709551615

theorem expiry_eq_min_longest :
    (longestLived.expiryAt 1700000000).toInt = 9223372036854775807 ∧
      1700000000 ≤ longestLived.expiryAt 1700000000 ∧
      ∃ text fields, (signedReply longestLived 1700000000 ()).result = .ok text ∧
        Token.readFields? text = some fields ∧ ("se", "9223372036854775807") ∈ fields := by
  obtain ⟨hexact, hlater, -, -, hreply, htext⟩ := expiry_eq_min longestLived 1700000000 (by decide) ()
  obtain ⟨token, htoken⟩ :
      ∃ token, longestLived.sign (longestLived.expiryAt 1700000000) = .ok token := ⟨_, rfl⟩
  rw [htoken] at hreply
  obtain ⟨fields, hfields, hexpiry⟩ := htext token.text hreply
  exact ⟨hexact.trans (by decide), hlater, token.text, fields, hreply, hfields, hexpiry⟩

end HubLink.Transport
