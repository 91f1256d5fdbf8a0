/-!
# Decimal numbers in text

Numbers are read and written with the ten ASCII digits. A *word number* is what a port may be
written as: an optional plus sign and at least one digit, leading zeros allowed, of a value that
fits sixteen bits.

## Main definitions

* `Sockets.Text.Decimal.digit`, `Sockets.Text.Decimal.digitValue?` — one digit and its value.
* `Sockets.Text.Decimal.value?` — the number that a nonempty run of digits stands for.
* `Sockets.Text.Decimal.word?` — the sixteen-bit number that a text is, sign and all.
* `Sockets.Text.Decimal.octet`, `Sockets.Text.Decimal.octet?` — the shortest text of a number
  below 256, and the strict reading that accepts nothing else.

## Main results

* `Sockets.Text.Decimal.octet?_octet` — an octet is read back from its text.
* `Sockets.Text.Decimal.octet_of_octet?` — the strict reading accepts nothing but that text.
-/

set_option autoImplicit false

namespace Sockets

namespace Text

namespace Decimal

/-- The digit of a number below ten. -/
def digit (n : Nat) : Char := Char.ofNat (48 + n)

/-- The value of a decimal digit. -/
def digitValue? (c : Char) : Option Nat :=
  if '0' ≤ c ∧ c ≤ '9' then some (c.toNat - 48) else none

/-- A digit stands for the number it was made from. -/
theorem digitValue?_digit : ∀ n < 10, digitValue? (digit n) = some n := by decide

/-- The value of a digit is below ten. -/
theorem digitValue?_lt {c : Char} {n : Nat} (h : digitValue? c = some n) : n < 10 := by
  unfold digitValue? at h
  split at h
  · rename_i hc
    have h9 : c.toNat ≤ 57 := hc.2
    simp only [Option.some.injEq] at h
    omega
  · simp at h

/-- A character of value `n` is the digit of `n`. -/
theorem digit_of_digitValue? {c : Char} {n : Nat} (h : digitValue? c = some n) : c = digit n := by
  unfold digitValue? at h
  split at h
  · rename_i hc
    have h0 : 48 ≤ c.toNat := hc.1
    simp only [Option.some.injEq] at h
    have : 48 + n = c.toNat := by omega
    rw [digit, this, Char.ofNat_toNat]
  · simp at h

/-- The number read when the digits of `cs` follow those of `n`. -/
def valueFrom? (n : Nat) : List Char → Option Nat
  | [] => some n
  | c :: cs => (digitValue? c).bind fun d => valueFrom? (10 * n + d) cs

/-- The number that a nonempty run of digits stands for. -/
def value? (cs : List Char) : Option Nat :=
  if cs = [] then none else valueFrom? 0 cs

/-- The sixteen-bit number that a text is: an optional plus sign, then digits. -/
def word? (cs : List Char) : Option UInt16 :=
  let digits := match cs with
    | '+' :: rest => rest
    | _ => cs
  (value? digits).bind fun n => if n < 65536 then some (UInt16.ofNat n) else none

/-- The shortest decimal text of an octet. -/
def octet (b : UInt8) : List Char :=
  let n := b.toNat
  if n < 10 then [digit n]
  else if n < 100 then [digit (n / 10), digit (n % 10)]
  else [digit (n / 100), digit (n / 10 % 10), digit (n % 10)]

/-- The octet that a text is: one to three digits without a leading zero, `0` itself apart. -/
def octet? : List Char → Option UInt8
  | [a] => (digitValue? a).map UInt8.ofNat
  | [a, b] => do
    let x ← digitValue? a
    let y ← digitValue? b
    if x = 0 then none else some (UInt8.ofNat (10 * x + y))
  | [a, b, c] => do
    let x ← digitValue? a
    let y ← digitValue? b
    let z ← digitValue? c
    if x = 0 ∨ 255 < 100 * x + 10 * y + z then none
    else some (UInt8.ofNat (100 * x + 10 * y + z))
  | _ => none

/-- An octet is read back from its text. -/
theorem octet?_octet (b : UInt8) : octet? (octet b) = some b := by
  have hb : b.toNat < 256 := b.toNat_lt
  unfold octet
  simp only
  split
  · rename_i h
    simp [octet?, digitValue?_digit _ h]
  · split
    · rename_i h1 h2
      have hne : b.toNat / 10 ≠ 0 := by omega
      have hv : UInt8.ofNat (10 * (b.toNat / 10) + b.toNat % 10) = b := by
        rw [Nat.div_add_mod]; exact UInt8.ofNat_toNat
      simp [octet?, digitValue?_digit (b.toNat / 10) (by omega),
        digitValue?_digit (b.toNat % 10) (by omega), hne, hv, -UInt8.ofNat_add, -UInt8.ofNat_mul]
    · rename_i h1 h2
      have hsum : 100 * (b.toNat / 100) + 10 * (b.toNat / 10 % 10) + b.toNat % 10 = b.toNat := by
        omega
      have hno : ¬ (b.toNat / 100 = 0 ∨ 255 < b.toNat) := by omega
      simp only [octet?, digitValue?_digit (b.toNat / 100) (by omega),
        digitValue?_digit (b.toNat / 10 % 10) (by omega),
        digitValue?_digit (b.toNat % 10) (by omega), Option.bind_eq_bind, Option.bind_some, hsum,
        hno, if_false, UInt8.ofNat_toNat]

/-- The strict reading accepts only the shortest text of the octet it gives. -/
theorem octet_of_octet? {cs : List Char} {b : UInt8} (h : octet? cs = some b) : cs = octet b := by
  unfold octet? at h
  split at h
  · rename_i a
    obtain ⟨n, hn, rfl⟩ := Option.map_eq_some_iff.1 h
    have hlt := digitValue?_lt hn
    have hto : (UInt8.ofNat n).toNat = n := by rw [UInt8.toNat_ofNat']; omega
    simp [octet, hto, hlt, digit_of_digitValue? hn]
  · rename_i a b'
    simp only [Option.bind_eq_bind, Option.bind_eq_some_iff] at h
    obtain ⟨x, hx, y, hy, h⟩ := h
    have hxl := digitValue?_lt hx
    have hyl := digitValue?_lt hy
    split at h
    · simp at h
    · simp only [Option.some.injEq] at h
      subst h
      have hto : (UInt8.ofNat (10 * x + y)).toNat = 10 * x + y := by
        rw [UInt8.toNat_ofNat']; omega
      have h1 : ¬ 10 * x + y < 10 := by omega
      have h2 : 10 * x + y < 100 := by omega
      have h3 : (10 * x + y) / 10 = x := by omega
      have h4 : (10 * x + y) % 10 = y := by omega
      simp only [octet, hto, h1, h2, h3, h4, if_false, if_true, digit_of_digitValue? hx,
        digit_of_digitValue? hy]
  · rename_i a b' c
    simp only [Option.bind_eq_bind, Option.bind_eq_some_iff] at h
    obtain ⟨x, hx, y, hy, z, hz, h⟩ := h
    have hxl := digitValue?_lt hx
    have hyl := digitValue?_lt hy
    have hzl := digitValue?_lt hz
    split at h
    · simp at h
    · simp only [Option.some.injEq] at h
      subst h
      have hto : (UInt8.ofNat (100 * x + 10 * y + z)).toNat = 100 * x + 10 * y + z := by
        rw [UInt8.toNat_ofNat']; omega
      have h1 : ¬ 100 * x + 10 * y + z < 10 := by omega
      have h2 : ¬ 100 * x + 10 * y + z < 100 := by omega
      have h3 : (100 * x + 10 * y + z) / 100 = x := by omega
      have h4 : (100 * x + 10 * y + z) / 10 % 10 = y := by omega
      have h5 : (100 * x + 10 * y + z) % 10 = z := by omega
      simp only [octet, hto, h1, h2, h3, h4, h5, if_false, digit_of_digitValue? hx,
        digit_of_digitValue? hy, digit_of_digitValue? hz]
  · simp at h

end Decimal

end Text

end Sockets
