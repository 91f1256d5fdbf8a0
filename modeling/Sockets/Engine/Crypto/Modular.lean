/-!
# Arithmetic modulo a number

The arithmetic of remainders that signatures are made of: powers by repeated squaring,
differences and inverses.

## Main definitions

* `Sockets.Crypto.Modular.power` — a power modulo a number.
* `Sockets.Crypto.Modular.difference`, `Sockets.Crypto.Modular.inverse` — a difference, and the
  inverse modulo a prime.
-/

set_option autoImplicit false

namespace Sockets

namespace Crypto

namespace Modular

/-- The power of `b` to `e` modulo `m`, by repeated squaring. -/
def power (m b e : Nat) : Nat :=
  if e = 0 then 1 % m
  else
    let rest := power m (b * b % m) (e / 2)
    if e % 2 = 1 then b * rest % m else rest
termination_by e
decreasing_by omega

/-- The difference of two numbers modulo `m`. -/
def difference (m a b : Nat) : Nat := (a + (m - b % m)) % m

/-- The inverse of a number modulo a prime `p`: its power to two less than the prime. -/
def inverse (p a : Nat) : Nat := power p (a % p) (p - 2)

end Modular

end Crypto

end Sockets
