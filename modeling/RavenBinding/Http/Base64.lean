import RavenBinding.Text.Basic

/-!
# Base 64

Bytes as characters of six bits each, filled up with `=` to groups of four.

## Main definitions

- `Base64.encode`: the text of a byte string
-/

namespace RavenBinding

namespace Base64

/-- The character of a number below 64. -/
def digit (n : Nat) : CodePoint :=
  CodePoint.ofNat
    (if n < 26 then 0x41 + n
    else if n < 52 then 0x61 + (n - 26)
    else if n < 62 then 0x30 + (n - 52)
    else if n = 62 then 0x2B else 0x2F)

/-- The text of a byte string. -/
def encode : Bytes → Text
  | [] => []
  | [a] =>
    let n := a.toNat * 0x10000
    [digit (n / 0x40000), digit (n / 0x1000 % 0x40), CodePoint.ofChar '=', CodePoint.ofChar '=']
  | [a, b] =>
    let n := a.toNat * 0x10000 + b.toNat * 0x100
    [digit (n / 0x40000), digit (n / 0x1000 % 0x40), digit (n / 0x40 % 0x40), CodePoint.ofChar '=']
  | a :: b :: c :: rest =>
    let n := a.toNat * 0x10000 + b.toNat * 0x100 + c.toNat
    digit (n / 0x40000) :: digit (n / 0x1000 % 0x40) :: digit (n / 0x40 % 0x40) :: digit (n % 0x40)
      :: encode rest

end Base64

end RavenBinding
