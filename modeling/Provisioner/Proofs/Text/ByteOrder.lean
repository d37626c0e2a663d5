import Mathlib.Algebra.Ring.Nat
/-!
# The order of strings is that of their bytes

Strings are compared character by character, by code point. To compare their bytes in UTF-8 is the
same (`Text.bytes_lt_bytes_iff`): the first bytes of two characters tell which of them takes more
bytes, and of two that take equally many the greater one is greater at the first byte in which they
differ.
-/

namespace Provisioner.Text

/-- The bytes of a string in UTF-8. -/
def bytes (s : String) : List UInt8 := s.toUTF8.data.toList

theorem bytes_eq (s : String) : bytes s = s.toList.flatMap String.utf8EncodeChar := by
  rw [bytes, String.toUTF8_eq_toByteArray, ← String.utf8Encode_toList, List.utf8Encode]
  simp

/-! ### Numbers of one shape -/

/-- A number as a first byte, counted from `lead`, and `k` more bytes that hold a digit to the base 64
    each. -/
def spread (lead : Nat) : (k n : Nat) → List UInt8
  | 0, n => [UInt8.ofNat (lead + n)]
  | k + 1, n => spread lead k (n / 64) ++ [UInt8.ofNat (n % 64 + 128)]

section Numbers

variable {lead k m n : Nat} {xs ys : List UInt8}

theorem spread_eq_cons (lead k n : Nat) :
    ∃ rest, spread lead k n = UInt8.ofNat (lead + n / 64 ^ k) :: rest := by
  induction k generalizing n with
  | zero => exact ⟨[], by simp [spread]⟩
  | succ k ih =>
    obtain ⟨rest, hrest⟩ := ih (n / 64)
    refine ⟨rest ++ [UInt8.ofNat (n % 64 + 128)], ?_⟩
    rw [spread, hrest, Nat.div_div_eq_div_mul, ← Nat.pow_succ']
    rfl

theorem cons_lt_cons_of_lt (hlt : m < n) (hn : n < 256) :
    UInt8.ofNat m :: xs < UInt8.ofNat n :: ys := by
  apply List.cons_lt_cons_iff.mpr
  left
  rw [UInt8.lt_iff_toNat_lt, UInt8.toNat_ofNat', UInt8.toNat_ofNat']
  omega

/-- Numbers of one shape are in the order of their bytes, whatever follows them. -/
theorem spread_lt_spread (hlt : m < n) (hn : lead + n / 64 ^ k < 256) :
    spread lead k m ++ xs < spread lead k n ++ ys := by
  induction k generalizing m n xs ys with
  | zero =>
    rw [Nat.pow_zero, Nat.div_one] at hn
    exact cons_lt_cons_of_lt (by omega) hn
  | succ k ih =>
    rw [Nat.pow_succ', ← Nat.div_div_eq_div_mul] at hn
    rw [spread, spread, List.append_assoc, List.append_assoc]
    rcases Nat.lt_or_eq_of_le (Nat.div_le_div_right (c := 64) (Nat.le_of_lt hlt)) with hhigh | hhigh
    · exact ih hhigh hn
    · rw [hhigh]
      apply List.append_left_lt
      exact cons_lt_cons_of_lt (by omega) (by omega)

end Numbers

/-! ### Characters -/

/-- How many further bytes a code point takes, and from where its first byte is counted. -/
inductive Shape : (lead k n : Nat) → Prop
  | one {n : Nat} (hn : n < 0x80) : Shape 0 0 n
  | two {n : Nat} (h : 0x80 ≤ n) (hn : n < 0x800) : Shape 0xc0 1 n
  | three {n : Nat} (h : 0x800 ≤ n) (hn : n < 0x10000) : Shape 0xe0 2 n
  | four {n : Nat} (h : 0x10000 ≤ n) (hn : n < 0x110000) : Shape 0xf0 3 n

theorem exists_shape (c : Char) :
    ∃ lead k, Shape lead k c.toNat ∧ String.utf8EncodeChar c = spread lead k c.toNat := by
  have hvalid : c.toNat < 0x110000 := by
    rcases c.valid with h | h
    · exact Nat.lt_trans h (by decide)
    · exact h.2
  have hcode : c.val.toNat = c.toNat := rfl
  rw [String.utf8EncodeChar, hcode]
  generalize c.toNat = n at hvalid
  split
  · exact ⟨0, 0, .one (by omega), by simp [spread]⟩
  · split
    · have hfirst : n / 64 % 32 + 192 = 0xc0 + n / 64 := by omega
      exact ⟨0xc0, 1, .two (by omega) (by omega), by simp [spread, hfirst]⟩
    · split
      · have hfirst : n / 4096 % 16 + 224 = 0xe0 + n / 4096 := by omega
        exact ⟨0xe0, 2, .three (by omega) (by omega),
          by simp [spread, hfirst, Nat.div_div_eq_div_mul]⟩
      · have hfirst : n / 262144 % 8 + 240 = 0xf0 + n / 262144 := by omega
        exact ⟨0xf0, 3, .four (by omega) (by omega),
          by simp [spread, hfirst, Nat.div_div_eq_div_mul]⟩

section Shapes

variable {lead lead' k k' m n : Nat}

theorem Shape.first_lt (h : Shape lead k n) : lead + n / 64 ^ k < 256 := by
  cases h <;> omega

/-- Of two code points the greater one has the same shape or a greater first byte. -/
theorem Shape.same_or_lt (h : Shape lead k m) (h' : Shape lead' k' n) (hlt : m < n) :
    (lead = lead' ∧ k = k') ∨ lead + m / 64 ^ k < lead' + n / 64 ^ k' := by
  cases h <;> cases h' <;> omega

end Shapes

variable {a b : String} {as bs : List Char} {c d : Char} {xs ys : List UInt8}

theorem utf8EncodeChar_lt (h : c < d) :
    String.utf8EncodeChar c ++ xs < String.utf8EncodeChar d ++ ys := by
  have hlt : c.toNat < d.toNat := h
  obtain ⟨lead, k, hc, hcbytes⟩ := exists_shape c
  obtain ⟨lead', k', hd, hdbytes⟩ := exists_shape d
  rw [hcbytes, hdbytes]
  rcases hc.same_or_lt hd hlt with ⟨rfl, rfl⟩ | hfirst
  · exact spread_lt_spread hlt hd.first_lt
  · obtain ⟨crest, hcrest⟩ := spread_eq_cons lead k c.toNat
    obtain ⟨drest, hdrest⟩ := spread_eq_cons lead' k' d.toNat
    rw [hcrest, hdrest]
    exact cons_lt_cons_of_lt hfirst hd.first_lt

/-! ### Strings -/

theorem flatMap_utf8EncodeChar_lt (h : as < bs) :
    as.flatMap String.utf8EncodeChar < bs.flatMap String.utf8EncodeChar := by
  induction h with
  | @nil d bs =>
    rw [List.flatMap_cons]
    obtain ⟨first, rest, hbytes⟩ := List.exists_cons_of_ne_nil (String.utf8EncodeChar_ne_nil (c := d))
    rw [hbytes]
    exact .nil
  | rel hlt => exact utf8EncodeChar_lt hlt
  | cons hrest ih => exact List.append_left_lt ih

/-- Strings are in the order of their bytes. -/
theorem bytes_lt_bytes_iff : bytes a < bytes b ↔ a < b := by
  have hforward {a b : String} (h : a < b) : bytes a < bytes b := by
    rw [bytes_eq, bytes_eq]
    exact flatMap_utf8EncodeChar_lt h
  constructor
  · intro h
    rcases Std.lt_trichotomy a b with hlt | rfl | hgt
    · exact hlt
    · exact absurd h (Std.lt_irrefl)
    · exact absurd h (Std.not_lt.mpr (Std.le_of_lt (hforward hgt)))
  · exact hforward

end Provisioner.Text
