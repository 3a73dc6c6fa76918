import Mathlib.Data.Char
import Mathlib.Data.List.Lex

/-!
# The order of texts by their bytes

Texts are compared character by character.  Their bytes in UTF-8 compare the same way
(`lt_iff_bytes_lt`): of two characters the lesser one has the lesser byte where the two first
differ, and the bytes of one are never the beginning of those of the other.
-/

namespace RelStore.Text

/-- The bytes of a text in UTF-8. -/
def bytes (s : String) : List UInt8 :=
  s.toUTF8.data.toList

theorem bytes_eq (s : String) : bytes s = s.toList.flatMap String.utf8EncodeChar := by
  unfold bytes
  rw [String.toUTF8_eq_toByteArray, ← String.utf8Encode_toList, List.utf8Encode]
  simp

/-! ## One character -/

/-- Numbers are compared by their quotients first, then by their remainders. -/
theorem lt_iff_div_mod (k m n : ℕ) :
    m < n ↔ m / k < n / k ∨ m / k = n / k ∧ m % k < n % k := by
  constructor
  · intro h
    rcases (Nat.div_le_div_right (c := k) h.le).lt_or_eq with hlt | heq
    · exact .inl hlt
    · have hm := Nat.div_add_mod m k
      have hn := Nat.div_add_mod n k
      rw [heq] at hm
      exact .inr ⟨heq, by omega⟩
  · rintro (hlt | ⟨heq, hlt⟩)
    · exact lt_of_not_ge fun hge => absurd (Nat.div_le_div_right hge) (not_le_of_gt hlt)
    · have hm := Nat.div_add_mod m k
      have hn := Nat.div_add_mod n k
      rw [heq] at hm
      omega

/-- Numbers are compared by their digits to base 64. -/
theorem lt_iff_digits (m n : ℕ) :
    m < n ↔ m / 262144 < n / 262144 ∨ m / 262144 = n / 262144 ∧
      (m / 4096 % 64 < n / 4096 % 64 ∨ m / 4096 % 64 = n / 4096 % 64 ∧
        (m / 64 % 64 < n / 64 % 64 ∨ m / 64 % 64 = n / 64 % 64 ∧ m % 64 < n % 64)) := by
  have hdigits : ∀ k, k % 262144 / 4096 = k / 4096 % 64 ∧ k % 262144 % 4096 = k % 4096 ∧
      k % 4096 / 64 = k / 64 % 64 ∧ k % 4096 % 64 = k % 64 := fun k => by omega
  obtain ⟨hm, hm', hm'', hm'''⟩ := hdigits m
  obtain ⟨hn, hn', hn'', hn'''⟩ := hdigits n
  rw [lt_iff_div_mod 262144 m n, lt_iff_div_mod 4096 (m % 262144), hm, hm', hn, hn',
    lt_iff_div_mod 64 (m % 4096), hm'', hm''', hn'', hn''']

/-- **The lesser character has the lesser bytes**, whatever follows. -/
theorem utf8EncodeChar_append_lt {c d : Char} (h : c < d) (u v : List UInt8) :
    String.utf8EncodeChar c ++ u < String.utf8EncodeChar d ++ v := by
  have hlt : c.val.toNat < d.val.toNat := h
  have hd : d.val.toNat < 0x110000 := by
    have hvalid := d.valid
    simp only [UInt32.isValidChar, Nat.isValidChar] at hvalid
    omega
  by_cases hc : c.val.toNat ≤ 0xffff
  · -- the first bytes differ when the lengths do, so few digits decide
    unfold String.utf8EncodeChar
    dsimp only
    split_ifs <;> simp only [List.cons_append, List.nil_append, List.cons_lt_cons_iff,
      UInt8.lt_iff_toNat_lt, UInt8.toNat_ofNat', ← UInt8.toNat_inj] <;> omega
  · have hlead : ∀ k < 0x110000, (k / 262144 % 8 + 240) % 2 ^ 8 = k / 262144 + 240 :=
      fun k hk => by omega
    have htail : ∀ k, (k % 64 + 128) % 2 ^ 8 = k % 64 + 128 := fun k => by omega
    unfold String.utf8EncodeChar
    dsimp only
    rw [if_neg (by omega), if_neg (by omega), if_neg hc, if_neg (by omega), if_neg (by omega),
      if_neg (by omega)]
    simp only [List.cons_append, List.nil_append, List.cons_lt_cons_iff, UInt8.lt_iff_toNat_lt,
      UInt8.toNat_ofNat', ← UInt8.toNat_inj, hlead _ (hlt.trans hd), hlead _ hd, htail,
      Nat.add_lt_add_iff_right, Nat.add_right_cancel_iff]
    rcases (lt_iff_digits _ _).mp hlt with h | ⟨he, h | ⟨he', h | ⟨he'', h⟩⟩⟩
    · exact .inl h
    · exact .inr ⟨he, .inl h⟩
    · exact .inr ⟨he, .inr ⟨he', .inl h⟩⟩
    · exact .inr ⟨he, .inr ⟨he', .inr ⟨he'', .inl h⟩⟩⟩

/-! ## Texts -/

theorem flatMap_utf8EncodeChar_lt {cs ds : List Char} (h : cs < ds) :
    cs.flatMap String.utf8EncodeChar < ds.flatMap String.utf8EncodeChar := by
  induction h with
  | nil =>
      rw [List.flatMap_nil, List.flatMap_cons]
      obtain ⟨byte, bytes, hbytes⟩ := List.exists_cons_of_ne_nil String.utf8EncodeChar_ne_nil
      rw [hbytes]
      exact List.nil_lt_cons _ _
  | rel h =>
      rw [List.flatMap_cons, List.flatMap_cons]
      exact utf8EncodeChar_append_lt h _ _
  | cons _ ih =>
      rw [List.flatMap_cons, List.flatMap_cons]
      exact List.append_left_lt ih

/-- **Texts are compared as their bytes are.** -/
theorem lt_iff_bytes_lt {s t : String} : s < t ↔ bytes s < bytes t := by
  have hmono : ∀ {s t : String}, s < t → bytes s < bytes t := fun {s t} h => by
    rw [bytes_eq, bytes_eq]
    exact flatMap_utf8EncodeChar_lt (String.lt_iff.mp h)
  refine ⟨hmono, fun h => ?_⟩
  rcases Std.lt_trichotomy s t with hlt | rfl | hgt
  · exact hlt
  · exact absurd h (List.lt_irrefl _)
  · exact absurd h (List.lt_asymm (hmono hgt))

end RelStore.Text
