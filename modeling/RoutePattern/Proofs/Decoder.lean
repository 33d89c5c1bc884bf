import RoutePattern.Proofs.Guarded

/-!
# The UTF-8 decoder inside a character

Inside a character the decoder waits for continuation octets, and the character that they will end
lies outside of ASCII (`Proper`). No octet leads out of such states (`proper_step`). So the octets of
a whole character are decoded by themselves, whatever octets stand before and after them
(`decode_append_encode`), and a character of ASCII comes from its own octet alone (`mem_step`).
-/
namespace RoutePattern.Utf8

/-- A decoder inside a character waits for a continuation octet, and even the least code that it can
end with lies outside of ASCII. -/
def Proper : State → Prop
  | .idle => True
  | .owing bits owed low high =>
    0x80 ≤ low ∧ high ≤ 0xBF ∧ 0x80 ≤ (bits * 64 + (low - 0x80)) * Nat.pow 64 (owed - 1)

/-- Between characters the decoder waits for nothing. -/
theorem proper_idle : Proper .idle := trivial

/-! ## Steps and runs -/

/-- The first octet of a character leaves out the second octets of longer forms than needed. -/
theorem proper_start {octet : Nat} {state : State} (starts : start octet = some state) :
    Proper state := by
  have low := awaits_start starts
  unfold start at starts
  repeat' split at starts
  any_goals
    obtain rfl := Option.some.inj starts
    refine ⟨low, by decide, ?_⟩
    simp only [Nat.reduceSub, Nat.pow_eq, Nat.reducePow]
    omega
  exact absurd starts (by simp)

/-- Every octet between characters leaves the decoder in a proper state. -/
theorem proper_begin (octet : Nat) : Proper (begin octet).2 := by
  unfold begin
  split
  · trivial
  · cases starts : start octet with
    | none => trivial
    | some state => exact proper_start starts

/-- Every octet leaves a proper state in a proper one. -/
theorem proper_step {state : State} (proper : Proper state) (octet : Nat) :
    Proper (step state octet).2 := by
  cases state with
  | idle => exact proper_begin octet
  | owing bits owed low high =>
    obtain ⟨-, -, long⟩ := proper
    simp only [step]
    split
    · next inside =>
      split
      · trivial
      · next more =>
        obtain ⟨left, rfl⟩ : ∃ left, owed = left + 2 := ⟨owed - 2, by omega⟩
        refine ⟨Nat.le_refl _, Nat.le_refl _, ?_⟩
        simp only [Nat.sub_self, Nat.add_zero, Nat.add_succ_sub_one] at long ⊢
        have power : Nat.pow 64 (left + 1) = Nat.pow 64 left * 64 := rfl
        calc 0x80 ≤ (bits * 64 + (low - 0x80)) * Nat.pow 64 (left + 1) := long
          _ ≤ (bits * 64 + (octet - 0x80)) * Nat.pow 64 (left + 1) :=
            Nat.mul_le_mul_right _ (Nat.add_le_add_left (Nat.sub_le_sub_right inside.1 _) _)
          _ = (bits * 64 + (octet - 0x80)) * 64 * Nat.pow 64 left := by
            rw [power, Nat.mul_comm (Nat.pow 64 left), Nat.mul_assoc]
    · exact proper_begin octet

/-- Octets fed to a proper state leave a proper one. -/
theorem proper_feed {state : State} (proper : Proper state) (octets : List Nat) :
    Proper (feed state octets).2 := by
  induction octets generalizing state with
  | nil => exact proper
  | cons octet octets ih => exact ih (proper_step proper octet)

/-- Octets are fed one row after the other. -/
theorem feed_append (state : State) (front rest : List Nat) :
    feed state (front ++ rest) =
      ((feed state front).1 ++ (feed (feed state front).2 rest).1,
        (feed (feed state front).2 rest).2) := by
  induction front generalizing state with
  | nil => rfl
  | cons octet front ih => simp only [List.cons_append, feed, ih, List.append_assoc]

/-- Decoding feeds the octets and ends what is left open. -/
theorem decodeFrom_eq_feed (state : State) (octets : List Nat) :
    decodeFrom state octets = (feed state octets).1 ++ flush (feed state octets).2 := by
  induction octets generalizing state with
  | nil => rfl
  | cons octet octets ih => simp only [decodeFrom, feed, ih, List.append_assoc]

/-- Octets are decoded one row after the other, from the state that the first one leaves. -/
theorem decodeFrom_append (state : State) (front rest : List Nat) :
    decodeFrom state (front ++ rest) =
      (feed state front).1 ++ decodeFrom (feed state front).2 rest := by
  simp only [decodeFrom_eq_feed, feed_append, List.append_assoc]

/-! ## Whole characters -/

/-- An octet that is no continuation ends an unfinished character and is read by itself. -/
theorem step_of_proper {state : State} (proper : Proper state) {octet : Nat}
    (leads : octet < 0x80 ∨ 0xC0 ≤ octet) :
    step state octet = (flush state ++ (begin octet).1, (begin octet).2) := by
  cases state with
  | idle => rfl
  | owing bits owed low high =>
    obtain ⟨least, most, -⟩ := proper
    have outside : ¬ (low ≤ octet ∧ octet ≤ high) := by omega
    simp only [step, if_neg outside]
    rfl

/-- The octets of a character start with one that is no continuation. -/
theorem exists_encode_eq_cons (code : Nat) :
    ∃ octet octets, encode code = octet :: octets ∧ (octet < 0x80 ∨ 0xC0 ≤ octet) := by
  unfold encode
  split
  · next small => exact ⟨_, _, rfl, .inl small⟩
  · split
    · exact ⟨_, _, rfl, .inr (Nat.le_add_right _ _)⟩
    · split
      · exact ⟨_, _, rfl, .inr (by omega)⟩
      · exact ⟨_, _, rfl, .inr (by omega)⟩

/-- The octets of a character end what came before them and yield the character. -/
theorem feed_encode_of_proper {state : State} (proper : Proper state) (c : Char) :
    feed state (encode c.toNat) = (flush state ++ [c], .idle) := by
  obtain ⟨octet, octets, same, leads⟩ := exists_encode_eq_cons c.toNat
  have alone := feed_encode c
  rw [same] at alone ⊢
  simp only [feed, step, Prod.mk.injEq] at alone
  simp only [feed, step_of_proper proper leads, List.append_assoc, alone]

/-- The octets of a character are decoded by themselves. -/
theorem decodeFrom_encode_append {state : State} (proper : Proper state) (c : Char)
    (rest : List Nat) :
    decodeFrom state (encode c.toNat ++ rest) = flush state ++ c :: decodeFrom .idle rest := by
  rw [decodeFrom_append, feed_encode_of_proper proper, List.append_assoc]
  rfl

/-- The octets of a character cut a row of octets: what stands before them and what stands after
them is decoded by itself. -/
theorem decode_append_encode (front : List Nat) (c : Char) (rest : List Nat) :
    decode (front ++ (encode c.toNat ++ rest)) = decode front ++ c :: decode rest := by
  have proper := proper_feed proper_idle front
  rw [decode, decodeFrom_append, decodeFrom_encode_append proper, ← List.append_assoc,
    ← decodeFrom_eq_feed]
  rfl

/-! ## What an octet yields -/

/-- An octet yields the character of ASCII that it is, a replacement, or a character outside of
ASCII. -/
theorem mem_step {state : State} (proper : Proper state) {octet : Nat} {c : Char}
    (found : c ∈ (step state octet).1) :
    octet < 0x80 ∧ c = Char.ofNat octet ∨ c = replacement ∨
      ∃ code, 0x80 ≤ code ∧ c = Char.ofNat code := by
  have begins {c : Char} (found : c ∈ (begin octet).1) :
      octet < 0x80 ∧ c = Char.ofNat octet ∨ c = replacement := by
    unfold begin at found
    split at found
    · next ascii => exact .inl ⟨ascii, List.mem_singleton.1 found⟩
    · cases starts : start octet with
      | none =>
        rw [starts] at found
        exact .inr (List.mem_singleton.1 found)
      | some state =>
        rw [starts] at found
        exact absurd found List.not_mem_nil
  -- An octet that does not continue what is owed starts anew behind a replacement.
  cases state with
  | idle => exact (begins found).imp_right .inl
  | owing bits owed low high =>
    obtain ⟨-, -, long⟩ := proper
    simp only [step] at found
    split at found
    · next inside =>
      split at found
      · next last =>
        have none : owed - 1 = 0 := by omega
        have one : Nat.pow 64 (owed - 1) = 1 := by rw [none]
        rw [one, Nat.mul_one] at long
        exact .inr (.inr ⟨_, by omega, List.mem_singleton.1 found⟩)
      · exact absurd found List.not_mem_nil
    · rcases List.mem_cons.1 found with same | found
      · exact .inr (.inl same)
      · exact (begins found).imp_right .inl

end RoutePattern.Utf8
