import Mathlib.Algebra.Order.Ring.Int

/-!
# Output of a session

`logMsg` writes a message to the socket of a session, or prints it, and then to the log file.  A
write may accept only a part of what it is given.
-/

namespace RioFabric.Libcli

/-- The size of the buffer for output. -/
def buflen : Nat := 1024

/-- The part of `struct cli_env` that messages go through, with what the socket has accepted and
what was printed.  The message is what is in `output` before the NUL; `fout` is what was written to
the log file, if it is open. -/
structure CliEnv where
  sessSocket : Int
  fout : Option (List UInt8)
  output : List UInt8
  terminated : output.length < buflen
  sent : List UInt8
  printed : List UInt8

/-- The loop that writes the message again until it has been sent; `results` are the values that the
writes return. -/
def sendRest (output : List UInt8) : List Int → Int → BitVec 32 → List UInt8 → Option (List UInt8)
  | [], n, bytesSent, sent =>
    if n ≥ 0 ∧ bytesSent.toNat < output.length then none else some sent
  | next :: results, n, bytesSent, sent =>
    if n ≥ 0 ∧ bytesSent.toNat < output.length then
      sendRest output results next (bytesSent + BitVec.ofInt 32 next)
        (sent ++ output.take next.toNat)
    else some sent

/-- Write the message to the socket. -/
def send (output : List UInt8) (sent : List UInt8) : List Int → Option (List UInt8)
  | [] => none
  | n :: results => sendRest output results n (BitVec.ofInt 32 n) (sent ++ output.take n.toNat)

def logMsg (results : List Int) (env : CliEnv) : Option CliEnv := do
  let env ←
    if env.sessSocket ≥ 0 then
      (send env.output env.sent results).map fun sent =>
        { env with sent := sent, output := [], terminated := by decide }
    else some { env with printed := env.printed ++ env.output }
  some { env with fout := env.fout.map (· ++ env.output) }

/-- The message is written once, to the session and to the log file. -/
def Delivered (results : List Int) (env : CliEnv) : Prop :=
  ∃ final, logMsg results env = some final ∧
    (if env.sessSocket ≥ 0 then final.sent = env.sent ++ env.output
      else final.printed = env.printed ++ env.output) ∧
    final.fout = env.fout.map (· ++ env.output)

/-- The writes accept no more than what is left, and bytes that are the same as the ones that are
left. -/
def Fits (output : List UInt8) : List Nat → List UInt8 → Prop
  | [], left => left = []
  | n :: writes, left =>
    left = [] ∨ n ≤ left.length ∧ output.take n = left.take n ∧ Fits output writes (left.drop n)

/-- Every write accepts a part of the message, and together they accept all of it. -/
structure Accepting (output : List UInt8) (writes : List Nat) : Prop where
  nonempty : writes ≠ []
  least : output ≠ [] → ∀ n ∈ writes, 1 ≤ n
  most : ∀ n ∈ writes, n ≤ output.length
  enough : output.length ≤ writes.sum

section Sending

variable {output : List UInt8}

theorem fits_nil {writes : List Nat} : Fits output writes [] := by
  cases writes with
  | nil => rfl
  | cons n writes => exact .inl rfl

theorem toNat_add_ofInt {bytesSent : BitVec 32} {n : Nat} (small : bytesSent.toNat + n < 2 ^ 32) :
    (bytesSent + BitVec.ofInt 32 n).toNat = bytesSent.toNat + n := by
  rw [BitVec.ofInt_natCast, BitVec.toNat_add, BitVec.toNat_ofNat, Nat.add_mod_mod,
    Nat.mod_eq_of_lt small]

theorem sendRest_iff (terminated : output.length < buflen) {writes : List Nat} {last : Nat}
    {bytesSent : BitVec 32} (sent : List UInt8) (most : ∀ n ∈ writes, n ≤ output.length)
    (within : bytesSent.toNat ≤ output.length)
    (enough : output.length ≤ bytesSent.toNat + writes.sum) :
    ∃ rest, sendRest output (writes.map (↑)) last bytesSent sent = some (sent ++ rest) ∧
      (rest = output.drop bytesSent.toNat ↔ Fits output writes (output.drop bytesSent.toNat)) := by
  unfold buflen at terminated
  induction writes generalizing last bytesSent sent with
  | nil =>
    have all : output.length ≤ bytesSent.toNat := enough
    refine ⟨[], ?_, eq_comm⟩
    rw [List.map_nil, sendRest, if_neg fun left => absurd all (Nat.not_le.mpr left.2),
      List.append_nil]
  | cons n writes ih =>
    rw [List.forall_mem_cons] at most
    rw [List.map_cons, sendRest]
    by_cases left : bytesSent.toNat < output.length
    · have isLeft : output.drop bytesSent.toNat ≠ [] :=
        fun none => absurd (List.drop_eq_nil_iff.mp none) (Nat.not_le.mpr left)
      have added : (bytesSent + BitVec.ofInt 32 n).toNat = bytesSent.toNat + n :=
        toNat_add_ofInt (by omega)
      have taken : (output.take n).length = n := List.length_take_of_le most.1
      rw [if_pos ⟨Int.natCast_nonneg last, left⟩, Int.toNat_natCast, Fits, or_iff_right isLeft,
        List.length_drop]
      by_cases fits : n ≤ output.length - bytesSent.toNat
      · obtain ⟨rest, ran, isRest⟩ := @ih n (bytesSent + BitVec.ofInt 32 n)
          (sent ++ output.take n) most.2 (by omega) (by rw [List.sum_cons] at enough; omega)
        rw [added, ← List.drop_drop] at isRest
        refine ⟨output.take n ++ rest, by rw [ran, List.append_assoc], ?_⟩
        rw [and_iff_right fits, ← isRest]
        constructor
        · intro same
          rw [← List.take_append_drop n (output.drop bytesSent.toNat)] at same
          exact List.append_inj same (by simp [taken, fits])
        · rintro ⟨first, rfl⟩
          rw [first, List.take_append_drop]
      · refine ⟨output.take n, ?_, iff_of_false ?_ fun both => fits both.1⟩
        · cases writes with
          | nil => rw [List.map_nil, sendRest, if_neg (by omega)]
          | cons => rw [List.map_cons, sendRest, if_neg (by omega)]
        · intro same
          have lengths := congrArg List.length same
          rw [taken, List.length_drop] at lengths
          omega
    · have none : output.drop bytesSent.toNat = [] := List.drop_eq_nil_of_le (Nat.not_lt.mp left)
      refine ⟨[], ?_, ?_⟩
      · rw [if_neg fun both => left both.2, List.append_nil]
      · rw [none]
        exact iff_of_true rfl fits_nil

theorem send_iff (terminated : output.length < buflen) {writes : List Nat}
    (accepting : Accepting output writes) (sent : List UInt8) :
    ∃ rest, send output sent (writes.map (↑)) = some (sent ++ rest) ∧
      (rest = output ↔ Fits output writes output) := by
  cases writes with
  | nil => exact absurd rfl accepting.nonempty
  | cons n writes =>
    obtain ⟨isMost, most⟩ := List.forall_mem_cons.mp accepting.most
    have enough := accepting.enough
    rw [List.sum_cons] at enough
    have first : (BitVec.ofInt 32 n).toNat = n := by
      rw [BitVec.ofInt_natCast, BitVec.toNat_ofNat, Nat.mod_eq_of_lt]
      exact Nat.lt_trans (Nat.lt_of_le_of_lt isMost terminated) (by decide)
    obtain ⟨rest, ran, isRest⟩ := @sendRest_iff output terminated writes n (BitVec.ofInt 32 n)
      (sent ++ output.take n) most (by rwa [first]) (by rwa [first])
    refine ⟨output.take n ++ rest, by rw [List.map_cons, send, Int.toNat_natCast, ran,
      List.append_assoc], ?_⟩
    rw [first] at isRest
    rw [Fits, and_iff_right isMost, and_iff_right rfl, ← isRest]
    have same : output.take n ++ rest = output.take n ++ output.drop n ↔ rest = output.drop n :=
      List.append_right_inj _
    rw [List.take_append_drop] at same
    rw [same]
    refine (or_iff_right_of_imp fun none => isRest.mpr ?_).symm
    rw [none, List.drop_nil]
    exact fits_nil

end Sending

/-- A message is delivered if there is no socket or it is empty, or if there is no log file and the
writes fit together. -/
theorem delivered_iff (env : CliEnv) (writes : List Nat) (accepting : Accepting env.output writes) :
    Delivered (writes.map (↑)) env ↔
      env.sessSocket < 0 ∨ env.output = [] ∨
        (env.fout = none ∧ Fits env.output writes env.output) := by
  unfold Delivered logMsg
  by_cases socket : env.sessSocket ≥ 0
  · obtain ⟨rest, ran, isRest⟩ := send_iff env.terminated accepting env.sent
    rw [or_iff_right (Int.not_lt.mpr socket), ← isRest]
    simp only [if_pos socket, ran, Option.map_some, Option.bind_eq_bind, Option.bind_some,
      Option.some.injEq, exists_eq_left', List.append_cancel_left_eq, List.append_nil]
    have empty : env.output = [] → rest = env.output := by
      intro none
      rw [isRest, none]
      exact fits_nil
    cases log : env.fout with
    | none => simpa using empty
    | some written =>
      simp only [Option.map_some, Option.some.injEq, reduceCtorEq, false_and, or_false,
        List.self_eq_append_right]
      exact ⟨fun both => both.2, fun none => ⟨empty none, none⟩⟩
  · refine iff_of_true ⟨_, by rw [if_neg socket]; rfl, ?_, rfl⟩ (.inl (Int.not_le.mp socket))
    rw [if_neg socket]

/-- A message, with a socket and a log file. -/
def twoBytes : CliEnv where
  sessSocket := 3
  fout := some []
  output := [97, 98]
  terminated := by decide
  sent := []
  printed := []

theorem twoBytes_accepting : Accepting twoBytes.output [1, 1] :=
  ⟨by decide, by decide, by decide, by decide⟩

theorem delivered_iff_twoBytes :
    Delivered ([1, 1].map fun n : Nat => (n : Int)) twoBytes ↔ twoBytes.sessSocket < 0 ∨
      twoBytes.output = [] ∨ (twoBytes.fout = none ∧ Fits twoBytes.output [1, 1] twoBytes.output) :=
  delivered_iff twoBytes [1, 1] twoBytes_accepting

/-- The second write accepts the first byte again, and the log file gets nothing. -/
theorem not_delivered_twoBytes :
    Accepting twoBytes.output [1, 1] ∧
      (logMsg [1, 1] twoBytes).map (fun final => (final.sent, final.fout)) =
        some ([97, 97], some []) ∧ ¬Delivered [1, 1] twoBytes := by
  have ran : logMsg [1, 1] twoBytes =
      some { twoBytes with sent := [97, 97], output := [], terminated := by decide } := rfl
  refine ⟨twoBytes_accepting, rfl, ?_⟩
  rintro ⟨final, isFinal, delivered, -⟩
  rw [ran] at isFinal
  cases isFinal
  exact absurd delivered (by decide)

end RioFabric.Libcli
