import RioFabric.Libcli.TokParse
import RioFabric.Riocp.HostLock

/-!
# Addresses as text

`riocp_pe_handle_addr_ntoa` prints the ports on the way to a device into a buffer of 256 bytes, with
commas between them, and `riocp_pe_handle_addr_aton` reads such a text: it counts the words of it,
and then stores their values in an array of 255 bytes.
-/

namespace RioFabric.Riocp

open Libcfg Libcli

/-- `%PRIu8`. -/
def decimal (hop : UInt8) : List Char := Nat.toDigits 10 hop.toNat

/-- `snprintf` at `cur` into the rest of the buffer; `cur` goes on by the length of the text. -/
def printAt (cur : Nat) (buf text : List Char) : Nat × List Char :=
  if cur < 256 then (cur + text.length, buf ++ text.take (255 - cur)) else (cur, buf)

/-- The loop of `riocp_pe_handle_addr_ntoa`, with `cur` and what is in `buf`. -/
def printHops : List UInt8 → Nat × List Char → Nat × List Char
  | [], out => out
  | [hop], out => printAt out.1 out.2 (decimal hop)
  | hop :: hops, out =>
    let out := printAt out.1 out.2 (decimal hop)
    printHops hops (printAt out.1 out.2 [','])

def riocpPeHandleAddrNtoa (address : Option (List UInt8)) : List Char :=
  match address with
  | none | some [] => []
  | some hops => (printHops hops (0, [])).2

/-- The words that `strtok_r` finds between commas. -/
def words (addr : List Char) : List Token := (addr.splitOnP (· == ',')).filter (· ≠ [])

/-- The number that a word is read as. -/
def readHop (word : Token) : Parsed 16 := tokParseUshort word 0 255 0

/-- The loop that stores the values; it has no value if it stores behind the end of `_address`. -/
def storeHops : List Token → Nat → List UInt8 → Option (Rc × List UInt8)
  | [], _, address => some (.success, address)
  | word :: words, i, address =>
    if (readHop word).rc ≠ 0 then some (.einval, address)
    else if i < 255 then
      storeHops words (i + 1) (address.set i (UInt8.ofBitVec ((readHop word).value.setWidth 8)))
    else none

/-- `riocp_pe_handle_addr_aton`: the code, `_address`, and `*address_len`. -/
def riocpPeHandleAddrAton (addr : Option (List Char)) : Option (Rc × List UInt8 × Nat) :=
  match addr with
  | none => some (.einval, [], 0)
  | some addr =>
    if (words addr).length > 255 then some (.enomem, List.replicate 255 0, 0)
    else
      (storeHops (words addr) 0 (List.replicate 255 0)).map fun (rc, address) =>
        (rc, address, if rc = .success then (words addr).length else 0)

/-- The text of an address is read as the address. -/
def RoundTrips (hops : List UInt8) : Prop :=
  ∃ address, riocpPeHandleAddrAton (some (riocpPeHandleAddrNtoa (some hops))) =
    some (.success, address, hops.length) ∧ address.take hops.length = hops

/-- The hops in full. -/
def fullText : List UInt8 → List Char
  | [] => []
  | [hop] => decimal hop
  | hop :: hops => decimal hop ++ ',' :: fullText hops

theorem printAt_fits {cur : Nat} {buf all : List Char}
    (was : buf = all.take 255 ∧ (cur = all.length ∨ 256 ≤ cur ∧ 256 ≤ all.length))
    (text : List Char) :
    (printAt cur buf text).2 = (all ++ text).take 255 ∧
      ((printAt cur buf text).1 = (all ++ text).length ∨
        256 ≤ (printAt cur buf text).1 ∧ 256 ≤ (all ++ text).length) := by
  obtain ⟨rfl, at_⟩ := was
  unfold printAt
  split
  next fits =>
    have isEnd : cur = all.length := at_.resolve_right fun full => absurd full.1 (by omega)
    subst isEnd
    refine ⟨?_, .inl (List.length_append).symm⟩
    rw [List.take_append, List.take_of_length_le (by omega)]
  next full =>
    have long : 256 ≤ all.length := by omega
    exact ⟨(List.take_append_of_le_length (by omega)).symm, .inr ⟨by omega, by simp; omega⟩⟩

theorem printHops_fits {hops : List UInt8} {out : Nat × List Char} {all : List Char}
    (was : out.2 = all.take 255 ∧ (out.1 = all.length ∨ 256 ≤ out.1 ∧ 256 ≤ all.length)) :
    (printHops hops out).2 = (all ++ fullText hops).take 255 := by
  induction hops generalizing out all with
  | nil => simpa [printHops, fullText] using was.1
  | cons hop hops ih =>
    cases hops with
    | nil => exact (printAt_fits was _).1
    | cons next hops =>
      have comma := printAt_fits (printAt_fits was (decimal hop)) [',']
      simp [printHops, ih comma, fullText]

theorem riocpPeHandleAddrNtoa_eq (hops : List UInt8) :
    riocpPeHandleAddrNtoa (some hops) = (fullText hops).take 255 := by
  cases hops with
  | nil => rfl
  | cons hop hops => exact @printHops_fits (hop :: hops) (0, []) [] ⟨rfl, .inl rfl⟩

/-- What a word is stored as. -/
def hopOf (word : Token) : UInt8 := UInt8.ofBitVec ((readHop word).value.setWidth 8)

theorem storeHops_eq {words : List Token} {room : Nat} (fits : words.length ≤ room)
    {done : List UInt8} (isArray : done.length + room = 255) :
    ∃ rc address, storeHops words done.length (done ++ List.replicate room 0) = some (rc, address) ∧
      (rc = .success ↔ ∀ word ∈ words, (readHop word).rc = 0) ∧
      (rc = .success → address.take (done.length + words.length) = done ++ words.map hopOf) := by
  induction words generalizing done room with
  | nil => exact ⟨.success, _, rfl, by simp, fun _ => by simp⟩
  | cons word words ih =>
    cases room with
    | zero => simp at fits
    | succ room =>
      by_cases good : (readHop word).rc = 0
      · have later := @ih room (by simpa using fits) (done ++ [hopOf word]) (by simp; omega)
        obtain ⟨rc, address, ran, isGood, stored⟩ := later
        refine ⟨rc, address, ?_, by simp [isGood, good], fun success => ?_⟩
        · rw [storeHops, if_neg (by simp [good]), if_pos (by omega), ← hopOf, ← ran]
          simp [List.replicate_succ]
        · simpa [Nat.add_assoc, Nat.add_comm 1] using stored success
      · exact ⟨.einval, _, by rw [storeHops, if_pos good], by simp [good], Rc.noConfusion⟩

theorem riocpPeHandleAddrAton_eq (addr : List Char) :
    ∃ rc address, riocpPeHandleAddrAton (some addr) =
        some (rc, address, if rc = .success then (words addr).length else 0) ∧
      (rc = .success ↔ (words addr).length ≤ 255 ∧ ∀ word ∈ words addr, (readHop word).rc = 0) ∧
      (rc = .success → address.take (words addr).length = (words addr).map hopOf) := by
  by_cases many : (words addr).length > 255
  · refine ⟨.enomem, _, if_pos many, ?_, Rc.noConfusion⟩
    exact iff_of_false Rc.noConfusion fun few => absurd many (Nat.not_lt.2 few.1)
  · obtain ⟨rc, address, ran, isGood, stored⟩ := @storeHops_eq (words addr) 255 (Nat.not_lt.1 many)
      [] rfl
    refine ⟨rc, address, ?_, by simp [isGood, Nat.not_lt.1 many], by simpa using stored⟩
    rw [riocpPeHandleAddrAton, if_neg many]
    exact congrArg (Option.map _) ran

theorem readHop_decimal (hop : UInt8) :
    (readHop (decimal hop)).rc = 0 ∧ hopOf (decimal hop) = hop := by
  have all : ∀ n < 256, (readHop (Nat.toDigits 10 n)).rc = 0 ∧
      hopOf (Nat.toDigits 10 n) = UInt8.ofNat n := by decide +kernel
  simpa [decimal] using all hop.toNat hop.toNat_lt

theorem isWord_decimal (hop : UInt8) :
    decimal hop ≠ [] ∧ ∀ c ∈ decimal hop, (c == ',') = false := by
  refine ⟨Nat.toDigits_ne_nil, fun c mem => beq_false_of_ne ?_⟩
  rintro rfl
  exact absurd (Nat.isDigit_of_mem_toDigits (by decide) (by decide) mem) (by decide)

theorem hopOf_take_ne {hop : UInt8} {n : Nat} (some : n ≠ 0) (less : n < (decimal hop).length) :
    hopOf ((decimal hop).take n) ≠ hop := by
  have all : ∀ n < 256, ∀ k < (Nat.toDigits 10 n).length, k ≠ 0 →
      hopOf ((Nat.toDigits 10 n).take k) ≠ UInt8.ofNat n := by decide +kernel
  simpa [decimal] using all hop.toNat hop.toNat_lt n less some

theorem words_decimal_append (hop : UInt8) (addr : List Char) :
    words (decimal hop ++ ',' :: addr) = decimal hop :: words addr := by
  have isWord := isWord_decimal hop
  rw [words, List.splitOnP_append_cons_of_forall_mem isWord.2 _ rfl,
    List.filter_cons_of_pos (by simpa using isWord.1), words]

theorem words_take_decimal (hop : UInt8) (n : Nat) :
    words ((decimal hop).take n) = if n = 0 then [] else [(decimal hop).take n] := by
  have isWord := isWord_decimal hop
  rw [words, List.splitOnP_eq_singleton fun c mem => isWord.2 c (List.mem_of_mem_take mem)]
  by_cases none : n = 0
  · simp [none]
  · simp [none, isWord.1]

theorem words_fullText (hops : List UInt8) : words (fullText hops) = hops.map decimal := by
  induction hops with
  | nil => rfl
  | cons hop hops ih =>
    cases hops with
    | nil =>
      have whole := words_take_decimal hop (decimal hop).length
      rw [List.take_length, if_neg (by simp [(isWord_decimal hop).1])] at whole
      exact whole
    | cons next hops =>
      simpa [fullText, ih] using words_decimal_append hop (fullText (next :: hops))

theorem map_hopOf_take_ne {hops : List UInt8} {n : Nat} (less : n < (fullText hops).length) :
    (words ((fullText hops).take n)).map hopOf ≠ hops := by
  induction hops generalizing n with
  | nil => simp [fullText] at less
  | cons hop hops ih =>
    cases hops with
    | nil =>
      rw [fullText, words_take_decimal]
      by_cases none : n = 0
      · simp [none]
      · simpa [none] using hopOf_take_ne none less
    | cons next hops =>
      have text : fullText (hop :: next :: hops) =
          decimal hop ++ ',' :: fullText (next :: hops) := by simp [fullText]
      rw [text] at less ⊢
      by_cases first : n ≤ (decimal hop).length
      · rw [List.take_append_of_le_length first, words_take_decimal]
        split <;> simp
      · obtain ⟨k, rfl⟩ : ∃ k, n = (decimal hop).length + (k + 1) :=
          ⟨n - (decimal hop).length - 1, by omega⟩
        rw [List.take_length_add_append, List.take_succ_cons, words_decimal_append, List.map_cons,
          (readHop_decimal hop).2]
        intro same
        exact ih (by simp at less; omega) (List.cons.inj same).2

theorem roundTrips_iff {hops : List UInt8} (most : hops.length ≤ 255) :
    RoundTrips hops ↔ (fullText hops).length ≤ 255 := by
  obtain ⟨rc, address, ran, isGood, stored⟩ := riocpPeHandleAddrAton_eq ((fullText hops).take 255)
  rw [RoundTrips, riocpPeHandleAddrNtoa_eq, ran]
  constructor
  · rintro ⟨bytes, same, isAddress⟩
    simp only [Option.some.injEq, Prod.mk.injEq] at same
    obtain ⟨success, rfl, length⟩ := same
    rw [if_pos success] at length
    have isHops := stored success
    rw [length, isAddress] at isHops
    by_contra long
    exact map_hopOf_take_ne (Nat.not_le.1 long) isHops.symm
  · intro fits
    rw [List.take_of_length_le fits, words_fullText] at isGood stored ⊢
    have success : rc = .success :=
      isGood.2 ⟨by simpa using most, by simp [(readHop_decimal _).1]⟩
    refine ⟨address, by simp [success], ?_⟩
    have same := stored success
    simpa [Function.comp_def, (readHop_decimal _).2] using same

/-- An address is read back from its text, and no text is stored behind the end of the array,
exactly if the digits and commas of the address fit the buffer. -/
theorem addrCodec_iff (hops : List UInt8) (most : hops.length ≤ 255) :
    (RoundTrips hops ∧ ∀ addr, riocpPeHandleAddrAton addr ≠ none) ↔
      (fullText hops).length ≤ 255 := by
  refine (and_iff_left fun addr => ?_).trans (roundTrips_iff most)
  cases addr with
  | none => exact Option.some_ne_none _
  | some addr =>
    obtain ⟨rc, address, ran, -⟩ := riocpPeHandleAddrAton_eq addr
    rw [ran]
    exact Option.some_ne_none _

theorem addrCodec_iff_two :
    (RoundTrips [1, 20] ∧ ∀ addr, riocpPeHandleAddrAton addr ≠ none) ↔
      (fullText [1, 20]).length ≤ 255 :=
  addrCodec_iff _ (by decide)

/-- The last of 65 numbers with three digits does not fit. -/
theorem not_roundTrips_long : ¬RoundTrips (List.replicate 65 255) :=
  (roundTrips_iff (by decide)).not.2 (by decide +kernel)

end RioFabric.Riocp
