import EnvAudit.Text.Case

/-! Comparison of characters without regard to case. Two characters are variants of each other when they have the
same lower case, or lower cases with the same capital. -/
namespace EnvAudit.Text

/-- The lower case characters outside the plain pairs that share their capital with other ones. -/
def sharedCapitals : List (Nat × List Nat) := [
  (0x69, [0x131]), (0x73, [0x17f]), (0xb5, [0x3bc]), (0x131, [0x69]), (0x17f, [0x73]),
  (0x345, [0x3b9, 0x1fbe]), (0x390, [0x1fd3]), (0x3b0, [0x1fe3]), (0x3b2, [0x3d0]), (0x3b5, [0x3f5]),
  (0x3b8, [0x3d1]), (0x3b9, [0x345, 0x1fbe]), (0x3ba, [0x3f0]), (0x3bc, [0xb5]), (0x3c0, [0x3d6]),
  (0x3c1, [0x3f1]), (0x3c2, [0x3c3]), (0x3c3, [0x3c2]), (0x3c6, [0x3d5]), (0x3d0, [0x3b2]),
  (0x3d1, [0x3b8]), (0x3d5, [0x3c6]), (0x3d6, [0x3c0]), (0x3f0, [0x3ba]), (0x3f1, [0x3c1]),
  (0x3f5, [0x3b5]), (0x432, [0x1c80]), (0x434, [0x1c81]), (0x43e, [0x1c82]), (0x441, [0x1c83]),
  (0x442, [0x1c84, 0x1c85]), (0x44a, [0x1c86]), (0x463, [0x1c87]), (0x1c80, [0x432]), (0x1c81, [0x434]),
  (0x1c82, [0x43e]), (0x1c83, [0x441]), (0x1c84, [0x442, 0x1c85]), (0x1c85, [0x442, 0x1c84]), (0x1c86, [0x44a]),
  (0x1c87, [0x463]), (0x1c88, [0xa64b]), (0x1e61, [0x1e9b]), (0x1e9b, [0x1e61]), (0x1fbe, [0x345, 0x3b9]),
  (0x1fd3, [0x390]), (0x1fe3, [0x3b0]), (0xa64b, [0x1c88]), (0xfb05, [0xfb06]), (0xfb06, [0xfb05])]

def lowerVariants (c : Char) : List Char :=
  c :: ((sharedCapitals.lookup c.toNat).getD []).map Char.ofNat

def variants (asciiOnly : Bool) (c : Char) : List Char :=
  if asciiOnly || (c.toNat < 128 && c != 'i' && c != 'I' && c != 'k' && c != 'K' && c != 's' && c != 'S') then
    if 'a' ≤ c && c ≤ 'z' then [c, Char.ofNat (c.toNat - 32)]
    else if 'A' ≤ c && c ≤ 'Z' then [c, Char.ofNat (c.toNat + 32)]
    else [c]
  else
    c :: (lowerVariants (lowerChar c)).flatMap fun l => l :: raised l

end EnvAudit.Text
