import Agora.Powers

set_option autoImplicit false

namespace Agora.Binary64

/-- The least number that rounds to infinity. -/
def tooLarge : Nat := 2 ^ 1024 - 2 ^ 970

/-- What the last of a number's 53 significant bits stands for. -/
def unit (n : Nat) : Nat := 2 ^ (n.log2 + 1 - 53)

/-- The nearest number of 53 significant bits; of two that are equally near, the one whose last such
bit is zero. -/
def round (n : Nat) : Nat :=
  let below := n / unit n
  let rest := n % unit n
  let up := unit n < 2 * rest || (2 * rest = unit n && below % 2 = 1)
  unit n * (if up then below + 1 else below)

theorem unit_dvd_round (n : Nat) : unit n ∣ round n := Nat.dvd_mul_right _ _

/-- Rounding goes no further than half a unit. -/
theorem round_near (n : Nat) : 2 * round n ≤ 2 * n + unit n ∧ 2 * n ≤ 2 * round n + unit n := by
  have whole := Nat.div_add_mod n (unit n)
  have short : n % unit n < unit n := Nat.mod_lt _ (Nat.two_pow_pos _)
  simp only [round]
  split
  next up =>
    simp only [Bool.or_eq_true, decide_eq_true_eq, Bool.and_eq_true] at up
    rw [Nat.mul_add, Nat.mul_one]
    omega
  next down =>
    simp only [Bool.or_eq_true, decide_eq_true_eq, Bool.and_eq_true] at down
    omega

/-- The number of a significand and a power of ten rounds to infinity. -/
def overflows (significand : Nat) (scale : Int) : Bool :=
  if significand = 0 then false
  else if 400 < scale then true
  else if 0 ≤ scale then tooLarge ≤ significand * 10 ^ scale.toNat
  else if significand.log2 < (-scale).toNat then false
  else tooLarge * 10 ^ (-scale).toNat ≤ significand

/-- The number of a significand and a power of ten becomes infinite when both factors are rounded
and then their product. -/
def productOverflows (significand : Nat) (scale : Int) : Bool :=
  if significand = 0 then false
  else if 308 < scale then true
  else if 0 ≤ scale then tooLarge ≤ round significand * round (10 ^ scale.toNat)
  else false

end Agora.Binary64
