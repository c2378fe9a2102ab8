import RioFabric.Packet.Core

/-!
# Transaction sizes

A read or write request carries its byte count and the low three address bits folded
into a four-bit size code and the word pointer.  This module models the two encoders
and the two decoders of that code and shows that decoding inverts encoding.
-/

namespace RioFabric.Packet

/-- `DAR_util_get_rdsize_wdptr`: the pair of `rdsize` and `wdptr`, or `none` for the
`BAD_SIZE` the source stores in both. -/
def darUtilGetRdsizeWdptr (addr pktBytes : Nat) : Option (Nat × Nat) :=
  let chosen : Option (Nat × Nat) :=
    match pktBytes with
    | 1 => some (addr &&& 3, (addr &&& 4) >>> 2)
    | 2 => if addr &&& 1 = 0 then some (4 + (addr &&& 2), (addr &&& 4) >>> 2) else none
    | 3 =>
      if addr &&& 7 = 0 ∨ addr &&& 7 = 5 then some (5, (addr &&& 4) >>> 2) else none
    | 4 =>
      if addr &&& 7 = 0 ∨ addr &&& 7 = 4 then some (8, (addr &&& 4) >>> 2) else none
    | 5 => if addr &&& 7 = 0 ∨ addr &&& 7 = 3 then some (7, addr &&& 1) else none
    | 6 =>
      if addr &&& 7 = 0 ∨ addr &&& 7 = 2 then some (9, (addr &&& 2) >>> 1) else none
    | 7 => if addr &&& 7 = 0 ∨ addr &&& 7 = 1 then some (10, addr &&& 1) else none
    | 8 | 16 => some (11, pktBytes / 8 - 1)
    | 32 | 64 => some (12, pktBytes / 32 - 1)
    | 96 => some (13, 0)
    | 128 => some (13, 1)
    | 160 => some (14, 0)
    | 192 => some (14, 1)
    | 224 => some (15, 0)
    | 256 => some (15, 1)
    | _ => none
  chosen.filter fun sizes => ¬(sizes.1 ≥ 11 ∧ addr &&& 7 ≠ 0)

def darUtilGetWrsizeWdptr (addr pktBytes : Nat) : Option (Nat × Nat) :=
  let chosen : Option (Nat × Nat) :=
    match pktBytes with
    | 0 => none
    | 1 => some (addr &&& 3, (addr &&& 4) >>> 2)
    | 2 => if addr &&& 1 = 0 then some (4 + (addr &&& 2), (addr &&& 4) >>> 2) else none
    | 3 =>
      if addr &&& 7 = 0 ∨ addr &&& 7 = 5 then some (5, (addr &&& 4) >>> 2) else none
    | 4 =>
      if addr &&& 7 = 0 ∨ addr &&& 7 = 4 then some (8, (addr &&& 4) >>> 2) else none
    | 5 => if addr &&& 7 = 0 ∨ addr &&& 7 = 3 then some (7, addr &&& 1) else none
    | 6 =>
      if addr &&& 7 = 0 ∨ addr &&& 7 = 2 then some (9, (addr &&& 2) >>> 1) else none
    | 7 => if addr &&& 7 = 0 ∨ addr &&& 7 = 1 then some (10, addr &&& 1) else none
    | 8 | 16 => some (11, pktBytes / 8 - 1)
    | _ =>
      if addr &&& 7 ≠ 0 ∨ pktBytes &&& 7 ≠ 0 then none
      else if pktBytes ≤ 64 then some (12, if pktBytes > 32 then 1 else 0)
      else if pktBytes ≤ 128 then some (13, 1)
      else some (15, 1)
  chosen.filter fun sizes => ¬(sizes.1 ≥ 11 ∧ addr &&& 7 ≠ 0)

/-- The part of the two size decoders that is the same for reads and writes: byte count
and alignment of the sizes up to 12. -/
def smallBytesNAlign (size wptr : Nat) : Option (Nat × Nat) :=
  match size with
  | 0 | 1 | 2 | 3 => some (1, size + (wptr <<< 2))
  | 4 | 6 => some (2, (size &&& 2) + (wptr <<< 2))
  | 5 => some (3, if wptr ≠ 0 then 5 else 0)
  | 8 => some (4, wptr <<< 2)
  | 7 => some (5, if wptr ≠ 0 then 3 else 0)
  | 9 => some (6, if wptr ≠ 0 then 2 else 0)
  | 10 => some (7, wptr)
  | 11 | 12 => some (8 <<< ((size - 11) * 2 + wptr), 0)
  | _ => none

/-- `DAR_util_compute_rd_bytes_n_align`: byte count and alignment, or `none` for
`SIZE_RC_FAIL`. -/
def darUtilComputeRdBytesNAlign (rdsize wptr : Nat) : Option (Nat × Nat) :=
  if wptr ≠ 0 ∧ wptr ≠ 1 then none
  else
    match rdsize with
    | 13 | 14 | 15 => some (64 * (rdsize - 12) + 32 + 32 * wptr, 0)
    | _ => smallBytesNAlign rdsize wptr

def darUtilComputeWrBytesNAlign (wrsize wptr : Nat) : Option (Nat × Nat) :=
  if wptr ≠ 0 ∧ wptr ≠ 1 then none
  else
    match wrsize with
    | 13 => if wptr ≠ 0 then some (128, 0) else none
    | 15 => if wptr ≠ 0 then some (256, 0) else none
    | _ => smallBytesNAlign wrsize wptr

theorem and_low_bits (addr mask : Nat) (low : mask &&& 7 = mask) :
    addr &&& mask = addr % 8 &&& mask := by
  have reduced : addr % 8 = addr &&& 7 := (Nat.and_two_pow_sub_one_eq_mod addr 3).symm
  rw [reduced, Nat.and_assoc, Nat.and_comm 7 mask, low]

theorem darUtilGetRdsizeWdptr_mod (addr pktBytes : Nat) :
    darUtilGetRdsizeWdptr addr pktBytes = darUtilGetRdsizeWdptr (addr % 8) pktBytes := by
  simp only [darUtilGetRdsizeWdptr, and_low_bits addr 1 rfl, and_low_bits addr 2 rfl,
    and_low_bits addr 3 rfl, and_low_bits addr 4 rfl, and_low_bits addr 7 rfl]

theorem darUtilGetWrsizeWdptr_mod (addr pktBytes : Nat) :
    darUtilGetWrsizeWdptr addr pktBytes = darUtilGetWrsizeWdptr (addr % 8) pktBytes := by
  simp only [darUtilGetWrsizeWdptr, and_low_bits addr 1 rfl, and_low_bits addr 2 rfl,
    and_low_bits addr 3 rfl, and_low_bits addr 4 rfl, and_low_bits addr 7 rfl]

/-- The read sizes of the protocol. -/
def rdSizes : List Nat := [1, 2, 3, 4, 5, 6, 7, 8, 16, 32, 64, 96, 128, 160, 192, 224, 256]

variable {addr pktBytes : Nat} {sizes : Nat × Nat}

theorem mem_rdSizes_of_some (encoded : darUtilGetRdsizeWdptr addr pktBytes = some sizes) :
    pktBytes ∈ rdSizes := by
  unfold darUtilGetRdsizeWdptr at encoded
  simp only [Option.filter_eq_some_iff] at encoded
  obtain ⟨encoded, -⟩ := encoded
  split at encoded <;> first | (simp at encoded; done) | simp [rdSizes]

theorem rd_bytes_n_align_of_encoded (encoded : darUtilGetRdsizeWdptr addr pktBytes = some sizes) :
    sizes.1 < 16 ∧ sizes.2 < 2 ∧
      darUtilComputeRdBytesNAlign sizes.1 sizes.2 = some (pktBytes, addr % 8) := by
  have size := mem_rdSizes_of_some encoded
  rw [darUtilGetRdsizeWdptr_mod] at encoded
  have low : addr % 8 < 8 := Nat.mod_lt _ (by decide)
  generalize addr % 8 = align at encoded low
  have every : ∀ bytes ∈ rdSizes, ∀ align < 8,
      (darUtilGetRdsizeWdptr align bytes).all fun sizes =>
        sizes.1 < 16 && sizes.2 < 2 &&
          darUtilComputeRdBytesNAlign sizes.1 sizes.2 == some (bytes, align) := by
    decide
  have found := every pktBytes size align low
  rw [encoded] at found
  simpa [and_assoc] using found

theorem wr_bytes_n_align_of_le_eight (short : pktBytes ≤ 8)
    (encoded : darUtilGetWrsizeWdptr addr pktBytes = some sizes) :
    sizes.1 < 16 ∧ sizes.2 < 2 ∧
      darUtilComputeWrBytesNAlign sizes.1 sizes.2 = some (pktBytes, addr % 8) := by
  rw [darUtilGetWrsizeWdptr_mod] at encoded
  have low : addr % 8 < 8 := Nat.mod_lt _ (by decide)
  generalize addr % 8 = align at encoded low
  have every : ∀ bytes < 9, ∀ align < 8,
      (darUtilGetWrsizeWdptr align bytes).all fun sizes =>
        sizes.1 < 16 && sizes.2 < 2 &&
          darUtilComputeWrBytesNAlign sizes.1 sizes.2 == some (bytes, align) := by
    decide
  have found := every pktBytes (by omega) align low
  rw [encoded] at found
  simpa [and_assoc] using found

theorem wr_long_aligned (long : 8 < pktBytes)
    (encoded : darUtilGetWrsizeWdptr addr pktBytes = some sizes) :
    addr % 8 = 0 ∧ pktBytes % 8 = 0 := by
  have aligned : addr &&& 7 = addr % 8 := Nat.and_two_pow_sub_one_eq_mod addr 3
  have whole : pktBytes &&& 7 = pktBytes % 8 := Nat.and_two_pow_sub_one_eq_mod pktBytes 3
  unfold darUtilGetWrsizeWdptr at encoded
  simp only [Option.filter_eq_some_iff] at encoded
  obtain ⟨chosen, kept⟩ := encoded
  split at chosen
  case h_10 =>
    obtain rfl : sizes = (11, 16 / 8 - 1) := (Option.some.inj chosen).symm
    simp only [ge_iff_le, Nat.le_refl, ne_eq, true_and, not_not, decide_eq_true_eq] at kept
    exact ⟨by omega, rfl⟩
  case h_11 =>
    split at chosen
    · cases chosen
    · omega
  all_goals omega

theorem wr_bytes_n_align_of_long (long : 8 < pktBytes) (bounded : pktBytes ≤ 256)
    (encoded : darUtilGetWrsizeWdptr addr pktBytes = some sizes) :
    sizes.1 < 16 ∧ sizes.2 < 2 ∧
      ∃ count, darUtilComputeWrBytesNAlign sizes.1 sizes.2 = some (count, addr % 8) ∧
        pktBytes ≤ count ∧ 8 < count := by
  rw [(wr_long_aligned long encoded).1]
  unfold darUtilGetWrsizeWdptr at encoded
  simp only [Option.filter_eq_some_iff] at encoded
  obtain ⟨chosen, -⟩ := encoded
  split at chosen
  case h_10 =>
    cases chosen
    exact ⟨by decide, by decide, 16, by decide⟩
  case h_11 =>
    repeat' split at chosen
    all_goals first
      | (cases chosen; done)
      | (cases chosen; exact ⟨by decide, by decide, 32, by decide, by omega, by decide⟩)
      | (cases chosen; exact ⟨by decide, by decide, 64, by decide, by omega, by decide⟩)
      | (cases chosen; exact ⟨by decide, by decide, 128, by decide, by omega, by decide⟩)
      | (cases chosen; exact ⟨by decide, by decide, 256, by decide, by omega, by decide⟩)
  all_goals omega

end RioFabric.Packet
