/-!
# Byte strings and big-endian numbers

Datagrams, payloads and buffers are lists of bytes.  A number of a fixed width
stands in them with its most significant byte first: `Bytes.ofNat` writes it,
`Bytes.toNat` reads it, and each undoes the other on the numbers and the byte
strings of that width.
-/

namespace Anteroom

/-- A byte string, such as a datagram or the part of a buffer not read yet. -/
abbrev Bytes := List UInt8

namespace Bytes

/-- How many numbers `width` bytes can stand for. -/
def weight : (width : Nat) → Nat
  | 0 => 1
  | width + 1 => weight width * 256

/-- The number a byte string stands for, most significant byte first. -/
def toNat : Bytes → Nat
  | [] => 0
  | b :: bytes => b.toNat * weight bytes.length + toNat bytes

/-- The last `width` base-256 digits of `n`, most significant first. -/
def ofNat : (width n : Nat) → Bytes
  | 0, _ => []
  | width + 1, n => UInt8.ofNat (n / weight width) :: ofNat width n

theorem weight_succ (width : Nat) : weight (width + 1) = weight width * 256 :=
  rfl

theorem toNat_cons (b : UInt8) (bytes : Bytes) :
    toNat (b :: bytes) = b.toNat * weight bytes.length + toNat bytes :=
  rfl

theorem ofNat_succ (width n : Nat) :
    ofNat (width + 1) n = UInt8.ofNat (n / weight width) :: ofNat width n :=
  rfl

theorem weight_pos (width : Nat) : 0 < weight width := by
  induction width with
  | zero => decide
  | succ width ih => exact Nat.mul_pos ih (by decide)

@[simp]
theorem length_ofNat (width n : Nat) : (ofNat width n).length = width := by
  induction width with
  | zero => rfl
  | succ width ih => rw [ofNat_succ, List.length_cons, ih]

theorem toNat_lt (bytes : Bytes) : toNat bytes < weight bytes.length := by
  induction bytes with
  | nil => exact weight_pos 0
  | cons b bytes ih =>
      have hb : b.toNat + 1 ≤ 256 := b.toNat_lt
      have hmul : weight bytes.length * (b.toNat + 1) ≤ weight bytes.length * 256 :=
        Nat.mul_le_mul_left _ hb
      rw [toNat_cons, List.length_cons, weight_succ, Nat.mul_comm b.toNat]
      rw [Nat.mul_add] at hmul
      omega

/-- Reading what was written gives the number back, up to its width. -/
theorem toNat_ofNat (width n : Nat) : toNat (ofNat width n) = n % weight width := by
  induction width with
  | zero => exact (Nat.mod_one n).symm
  | succ width ih =>
      have hbyte : (UInt8.ofNat (n / weight width)).toNat = n / weight width % 256 :=
        UInt8.toNat_ofNat'
      rw [ofNat_succ, toNat_cons, length_ofNat, ih, hbyte, weight_succ, Nat.mod_mul, Nat.add_comm,
        Nat.mul_comm (weight width)]

/-- Digits above the width do not show. -/
theorem ofNat_mul_add (width k n : Nat) :
    ofNat width (k * weight width + n) = ofNat width n := by
  induction width generalizing k with
  | zero => rfl
  | succ width ih =>
      have hpos := weight_pos width
      have hsplit : k * weight (width + 1) + n = k * 256 * weight width + n := by
        rw [weight_succ, Nat.mul_comm (weight width), Nat.mul_assoc]
      have hbyte : UInt8.ofNat ((k * 256 * weight width + n) / weight width) =
          UInt8.ofNat (n / weight width) := by
        apply UInt8.toNat_inj.mp
        rw [UInt8.toNat_ofNat', UInt8.toNat_ofNat', Nat.add_comm,
          Nat.add_mul_div_right _ _ hpos, Nat.add_mul_mod_self_right]
      rw [ofNat_succ, ofNat_succ, hsplit, hbyte, ih]

/-- Writing what was read gives the bytes back. -/
theorem ofNat_toNat (bytes : Bytes) : ofNat bytes.length (toNat bytes) = bytes := by
  induction bytes with
  | nil => rfl
  | cons b bytes ih =>
      have hpos := weight_pos bytes.length
      have hhead : (b.toNat * weight bytes.length + toNat bytes) / weight bytes.length =
          b.toNat := by
        rw [Nat.add_comm, Nat.add_mul_div_right _ _ hpos,
          Nat.div_eq_of_lt (toNat_lt bytes), Nat.zero_add]
      rw [List.length_cons, ofNat_succ, toNat_cons, hhead, ofNat_mul_add, ih, UInt8.ofNat_toNat]

end Bytes

end Anteroom
