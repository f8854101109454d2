import Metalnet.Proofs.Netip6
import Metalnet.Metalbond

/-!
# Containment is masking

`Prefix.Contains`, the test `AddRoute` puts a destination through against each prefix of a
peer's allow-list, compares the first bits of two addresses by a fast path: for IPv4 it shifts
their XOR right past the prefix's length, for IPv6 it masks their XOR. Either way it holds
exactly when the prefix is valid, the address has no zone, and the address cut to the prefix's
length (`Addr.Prefix`) is the prefix masked (`Prefix.contains_eq_true_iff`). So a prefix and its
masked form contain the same addresses (`Prefix.contains_masked`), and `AddRoute` makes the same
calls whether the prefixes of the allow-lists are written with host bits or masked
(`addRouteEffects_maskPeeredPrefixes`).
-/

namespace Metalnet

/-! ## Bits under a mask -/

/-- Two words agree under a mask exactly when their XOR vanishes under it. -/
theorem xor_and_eq_zero_iff {w : Nat} {x y m : BitVec w} :
    (x ^^^ y) &&& m = 0 ↔ x &&& m = y &&& m := by
  have key : ∀ a b c : Bool, ((a ^^ b) && c) = false ↔ (a && c) = (b && c) := by decide
  constructor <;> intro h <;> apply BitVec.eq_of_getLsbD_eq <;> intro i <;>
    have := congrArg (fun z => z.getLsbD i) h <;>
    simp only [BitVec.getLsbD_and, BitVec.getLsbD_xor, BitVec.getLsbD_zero,
      BitVec.ofNat_eq_ofNat] at this ⊢
  exacts [(key _ _ _).1 this, (key _ _ _).2 this]

/-- A word shifted right by `k` vanishes exactly when its bits from `k` up do. -/
theorem ushiftRight_eq_zero_iff {w k : Nat} {x : BitVec w} :
    x >>> k = 0 ↔ x &&& (BitVec.allOnes w <<< k) = 0 := by
  constructor
  · intro h
    apply BitVec.eq_of_getLsbD_eq
    intro j
    simp only [BitVec.getLsbD_and, BitVec.getLsbD_shiftLeft, BitVec.getLsbD_allOnes,
      BitVec.getLsbD_zero, BitVec.ofNat_eq_ofNat]
    by_cases hj : (j : Nat) < k
    · simp [hj]
    · have := congrArg (fun z => z.getLsbD (j - k)) h
      simp only [BitVec.getLsbD_ushiftRight, BitVec.getLsbD_zero, BitVec.ofNat_eq_ofNat] at this
      rw [show k + (j - k) = j by omega] at this
      simp [this]
  · intro h
    apply BitVec.eq_of_getLsbD_eq
    intro i
    simp only [BitVec.getLsbD_ushiftRight, BitVec.getLsbD_zero, BitVec.ofNat_eq_ofNat]
    by_cases hi : k + i < w
    · have := congrArg (fun z => z.getLsbD (k + i)) h
      simp only [BitVec.getLsbD_and, BitVec.getLsbD_shiftLeft, BitVec.getLsbD_allOnes,
        BitVec.getLsbD_zero, BitVec.ofNat_eq_ofNat] at this
      simpa [hi] using this
    · exact BitVec.getLsbD_ge _ _ (by omega)

/-! ## Cutting an address to a length -/

theorem Addr.toPrefix_v4 {a : BitVec 32} {b : Int} (h0 : 0 ≤ b) (h : b ≤ 32) :
    (Addr.v4 a).toPrefix b =
      .ok (prefixFrom (.v4 (a &&& BitVec.allOnes 32 <<< (32 - b.toNat))) b) := by
  simp only [Addr.toPrefix, if_neg (show ¬b < 0 by omega), if_neg (show ¬(32 : Int) < b by omega)]

theorem Addr.toPrefix_v6 {a : BitVec 128} {z : String} {b : Int} (h0 : 0 ≤ b) (h : b ≤ 128) :
    (Addr.v6 a z).toPrefix b = .ok (prefixFrom (.v6 (a &&& Prefix.mask6 b.toNat) z) b) := by
  simp only [Addr.toPrefix, if_neg (show ¬b < 0 by omega), if_neg (show ¬(128 : Int) < b by omega)]

@[simp] theorem prefixFrom_ip (ip : Addr) (bits : Int) :
    (prefixFrom ip bits).ip = ip.withoutZone := by
  unfold prefixFrom; split <;> rfl

theorem prefixFrom_bits {ip : Addr} {bits : Int} (h0 : 0 ≤ bits) (h : bits ≤ ip.bitLen) :
    (prefixFrom ip bits).bits = bits := by
  rw [prefixFrom, dif_pos ⟨h0, h⟩]

theorem prefixFrom_eq_prefixFrom {x y : Addr} {b : Int} (h : x.bitLen = y.bitLen) :
    prefixFrom x b = prefixFrom y b ↔ x.withoutZone = y.withoutZone := by
  unfold prefixFrom
  simp only [h]
  split <;> simp

theorem prefixFrom_v4_eq {x y : BitVec 32} {b : Int} :
    prefixFrom (.v4 x) b = prefixFrom (.v4 y) b ↔ x = y := by
  rw [@prefixFrom_eq_prefixFrom (.v4 x) (.v4 y) b rfl]; simp [Addr.withoutZone]

theorem prefixFrom_v6_eq {x y : BitVec 128} {z z' : String} {b : Int} :
    prefixFrom (.v6 x z) b = prefixFrom (.v6 y z') b ↔ x = y := by
  rw [@prefixFrom_eq_prefixFrom (.v6 x z) (.v6 y z') b rfl]; simp [Addr.withoutZone]

/-- A prefix cut from an address is of the address's family. -/
theorem Addr.toPrefix_bitLen {ip : Addr} {b : Int} {m : Prefix} (h : ip.toPrefix b = .ok m) :
    m.ip.bitLen = ip.bitLen := by
  unfold Addr.toPrefix at h
  split at h
  · cases h
  · split at h
    · cases h; rfl
    · split at h
      · cases h
      · cases h; simp [Addr.withoutZone, Addr.bitLen]
    · split at h
      · cases h
      · cases h; simp [Addr.withoutZone, Addr.bitLen]

theorem Addr.bitLen_eq_of_toPrefix {ip q : Addr} {b : Int} {m : Prefix}
    (hq : q.toPrefix b = .ok m) (h : ip.toPrefix b = q.toPrefix b) : ip.bitLen = q.bitLen :=
  (Addr.toPrefix_bitLen (h.trans hq)).symm.trans (Addr.toPrefix_bitLen hq)

/-- For a valid prefix and an address without zone, the fast path of `Prefix.Contains` agrees
with cutting the address to the prefix's length. -/
theorem Prefix.contains_iff_toPrefix {p : Prefix} {ip : Addr} (hv : p.isValid = true)
    (hz : ip.zone = "") : p.contains ip = true ↔ ip.toPrefix p.bits = p.addr.toPrefix p.bits := by
  unfold Prefix.contains
  rw [if_neg (by simp [hv, hz])]
  simp only [Prefix.isValid, Bool.and_eq_true, decide_eq_true_eq] at hv
  obtain ⟨⟨hq, h0⟩, -⟩ := hv
  cases p with | mk q b _ _ hb => ?_
  simp only [Prefix.addr] at hq h0 ⊢
  cases q with
  | zero => cases hq
  | v4 a =>
    cases ip with
    | v4 c =>
      rw [Addr.toPrefix_v4 h0 hb, Addr.toPrefix_v4 h0 hb, Except.ok.injEq,
        prefixFrom_v4_eq]
      simp only [beq_iff_eq, ushiftRight_eq_zero_iff, xor_and_eq_zero_iff]
    | zero | v6 _ _ =>
      exact iff_of_false Bool.false_ne_true fun h => absurd
        (Addr.bitLen_eq_of_toPrefix (Addr.toPrefix_v4 h0 hb) h) (by simp [Addr.bitLen])
  | v6 a z =>
    cases ip with
    | v6 c z' =>
      rw [Addr.toPrefix_v6 h0 hb, Addr.toPrefix_v6 h0 hb, Except.ok.injEq,
        prefixFrom_v6_eq]
      simp only [beq_iff_eq, xor_and_eq_zero_iff]
    | zero | v4 _ =>
      exact iff_of_false Bool.false_ne_true fun h => absurd
        (Addr.bitLen_eq_of_toPrefix (Addr.toPrefix_v6 h0 hb) h) (by simp [Addr.bitLen])

/-- Cutting a cut prefix again at its own length gives it back. -/
theorem Addr.toPrefix_toPrefix {ip : Addr} {b : Int} {m : Prefix} (h : ip.toPrefix b = .ok m) :
    m.addr.toPrefix m.bits = .ok m := by
  unfold Addr.toPrefix at h
  split at h
  · cases h
  · next h0 =>
    split at h
    · cases h; rfl
    · next a =>
      split at h
      · cases h
      · next hb =>
        cases h
        rw [prefixFrom_bits (by omega) (by simpa [Addr.bitLen] using hb)]
        simp only [Prefix.addr, prefixFrom_ip, Addr.withoutZone]
        rw [Addr.toPrefix_v4 (by omega) (by omega), BitVec.and_assoc, BitVec.and_self]
    · next a z =>
      split at h
      · cases h
      · next hb =>
        cases h
        rw [prefixFrom_bits (by omega) (by simpa [Addr.bitLen] using hb)]
        simp only [Prefix.addr, prefixFrom_ip, Addr.withoutZone]
        rw [Addr.toPrefix_v6 (by omega) (by omega), BitVec.and_assoc, BitVec.and_self,
          prefixFrom_v6_eq.2 rfl]

/-- An invalid prefix masks to the zero prefix. -/
theorem Prefix.masked_of_not_isValid {p : Prefix} (h : p.isValid = false) :
    p.masked = Prefix.zero := by
  unfold Prefix.masked
  cases hm : p.addr.toPrefix p.bits with
  | error e => rfl
  | ok m =>
    have hb := p.bits_le
    unfold Addr.toPrefix Prefix.addr at hm
    split at hm
    · cases hm
    · next hneg =>
      split at hm
      · cases hm; rfl
      all_goals
        next heq =>
        simp only [Prefix.isValid, heq, Addr.isValid, Addr.bitLen, Bool.true_and,
          Bool.and_eq_false_iff, decide_eq_false_iff_not] at h hb
        omega

theorem Prefix.masked_masked (p : Prefix) : p.masked.masked = p.masked := by
  cases h : p.addr.toPrefix p.bits with
  | ok m =>
    have hm : p.masked = m := by rw [Prefix.masked, h]
    rw [hm, Prefix.masked, Addr.toPrefix_toPrefix h]
  | error e =>
    have hm : p.masked = Prefix.zero := by rw [Prefix.masked, h]
    rw [hm]; rfl

/-! ## `Prefix.Contains` -/

/-- `Prefix.Contains` holds exactly when the prefix is valid, the address has no zone, and the
address cut to the prefix's length is the prefix masked. -/
theorem Prefix.contains_eq_true_iff {p : Prefix} {ip : Addr} :
    p.contains ip = true ↔ p.isValid = true ∧ ip.zone = "" ∧ ip.toPrefix p.bits = .ok p.masked := by
  by_cases hv : p.isValid = true
  · by_cases hz : ip.zone = ""
    · rw [← Prefix.toPrefix_masked hv, Prefix.contains_iff_toPrefix hv hz]
      simp [hv, hz]
    · simp [Prefix.contains, hz]
  · simp [Prefix.contains, hv]

/-- A prefix and its masked form contain the same addresses. -/
theorem Prefix.contains_masked (p : Prefix) (ip : Addr) : p.masked.contains ip = p.contains ip := by
  by_cases hv : p.isValid = true
  · obtain ⟨hv', hb⟩ := Prefix.isValid_masked hv
    by_cases hz : ip.zone = ""
    · rw [Bool.eq_iff_iff, Prefix.contains_iff_toPrefix hv' hz, Prefix.contains_iff_toPrefix hv hz,
        Prefix.toPrefix_masked hv', Prefix.toPrefix_masked hv, hb, Prefix.masked_masked]
    · simp [Prefix.contains, hz]
  · have hv' := Bool.eq_false_iff.2 hv
    rw [Prefix.masked_of_not_isValid hv']
    simp [Prefix.contains, hv', show Prefix.zero.isValid = false from rfl]

/-! ## The allow-list check of `AddRoute` -/

namespace Metalbond

/-- The cache with every prefix of every allow-list masked. -/
def MetalnetCache.maskPeeredPrefixes (m : MetalnetCache) : MetalnetCache :=
  { m with peeredPrefixes := fun vni =>
      (m.peeredPrefixes vni).map fun F peer => (F peer).map (List.map Prefix.masked) }

namespace MetalnetClient

theorem admits_masked (peeredPrefixes : UInt32 → Option (List Prefix)) (ok : Bool)
    (peeredVNI : UInt32) (dest : Destination) :
    admits (fun v => (peeredPrefixes v).map (List.map Prefix.masked)) ok peeredVNI dest =
      admits peeredPrefixes ok peeredVNI dest := by
  unfold admits
  cases ok
  · rfl
  · dsimp only
    cases peeredPrefixes peeredVNI <;>
      simp [List.any_map, Function.comp_def, Prefix.contains_masked]

/-- `AddRoute` realizes an announcement the same way, and so issues the same calls and returns the
same errors on every dataplane, whether the prefixes of the cache's allow-lists carry host bits or
are masked. -/
theorem addRouteEffects_maskPeeredPrefixes (c : MetalnetClient) (vni : UInt32)
    (dest : Destination) (hop : NextHop) :
    ({ c with metalnetCache := c.metalnetCache.maskPeeredPrefixes } : MetalnetClient).addRouteEffects
        vni dest hop = c.addRouteEffects vni dest hop := by
  have h : (c.metalnetCache.maskPeeredPrefixes.getPeeredPrefixes vni) =
      ((fun v => ((c.metalnetCache.getPeeredPrefixes vni).1 v).map (List.map Prefix.masked)),
        (c.metalnetCache.getPeeredPrefixes vni).2) := by
    unfold MetalnetCache.getPeeredPrefixes MetalnetCache.maskPeeredPrefixes
    dsimp only
    cases c.metalnetCache.peeredPrefixes vni <;> rfl
  simp only [addRouteEffects, h, admits_masked]
  rfl

end MetalnetClient

end Metalbond

end Metalnet
