import StorefrontLoad.Text.Mark

/-!
# Width of a character

East Asian wide and fullwidth characters take two columns of a terminal. Marks that extend the
character before them, the later parts of a Korean syllable, signs that surround their digits and
characters that are never shown take none. All other characters take one.
-/

namespace StorefrontLoad.Text

/-- The values W and F of the Unicode property East_Asian_Width, with the code points that are kept
free for such characters. -/
def wide : List Nat := numbers "
  1100 1160 231A 231C 2329 232B 23E9 23ED 23F0 23F1 23F3 23F4 25FD 25FF 2614 2616 2630 2638 2648
  2654 267F 2680 268A 2690 2693 2694 26A1 26A2 26AA 26AC 26BD 26BF 26C4 26C6 26CE 26CF 26D4 26D5
  26EA 26EB 26F2 26F4 26F5 26F6 26FA 26FB 26FD 26FE 2705 2706 270A 270C 2728 2729 274C 274D 274E
  274F 2753 2756 2757 2758 2795 2798 27B0 27B1 27BF 27C0 2B1B 2B1D 2B50 2B51 2B55 2B56 2E80 2E9A
  2E9B 2EF4 2F00 2FD6 2FF0 303F 3041 3097 3099 3100 3105 3130 3131 318F 3190 31E6 31EF 321F 3220
  3248 3250 A48D A490 A4C7 A960 A97D AC00 D7A4 F900 FB00 FE10 FE1A FE30 FE53 FE54 FE67 FE68 FE6C
  FF01 FF61 FFE0 FFE7 16FE0 16FE5 16FF0 16FF7 17000 18D1F 18D80 18DF3 18E00 19200 1AFF0 1AFF4
  1AFF5 1AFFC 1AFFD 1AFFF 1B000 1B123 1B132 1B133 1B150 1B153 1B155 1B156 1B164 1B2FC 1D300 1D357
  1D360 1D377 1F004 1F005 1F0CF 1F0D0 1F18E 1F18F 1F191 1F19B 1F1AE 1F1E6 1F200 1F203 1F210 1F23C
  1F240 1F249 1F250 1F252 1F260 1F266 1F300 1F321 1F32D 1F336 1F337 1F37D 1F37E 1F394 1F3A0 1F3CB
  1F3CF 1F3D4 1F3E0 1F3F1 1F3F4 1F3F5 1F3F8 1F43F 1F440 1F441 1F442 1F4FD 1F4FF 1F53E 1F54B 1F54F
  1F550 1F568 1F57A 1F57B 1F595 1F597 1F5A4 1F5A5 1F5FB 1F650 1F680 1F6C6 1F6CC 1F6CD 1F6D0 1F6D3
  1F6D5 1F6E0 1F6EB 1F6ED 1F6F4 1F6FD 1F7DA 1F7EC 1F7F0 1F7F1 1F90C 1F93B 1F93C 1F946 1F947 1FA00
  1FA70 1FB00 20000 2FFFE 30000 3FFFE"

/-- Characters without a width that do not extend another one. -/
def invisible : List Nat := numbers "
  AD AE 605 606 61C 61D 70F 710 890 892 8E2 8E3 D4E D4F 1160 1200 180E 180F 1ADE 1AE0 1AEC 1B00
  200B 200C 200D 2010 202A 202F 2060 2070 3164 3165 A8FA A8FB D7B0 D7C7 D7CB D7FC FEFF FF00 FFA0
  FFA1 FFF0 FFF9 111C2 111C4 113D1 113D2 1193F 11940 11941 11942 11A3A 11A3B 11A84 11A8A 11D46
  11D47 11F02 11F03 1BCA0 1BCA4 1D127 1D128 1D173 1D17B E0000 E0020 E0080 E0100 E01F0 E1000"

/-- Letters whose written form is wider or narrower than their class has it. -/
def oddWidth? (c : Char) : Option Nat :=
  match c.toNat with
  | 0x17A4 => some 2
  | 0x17D8 => some 3
  | 0x2D7F => some 1
  | _ => none

def charWidth (c : Char) : Nat :=
  match oddWidth? c with
  | some w => w
  | none =>
    if inClass invisible c ∨ isExtending c then 0
    else if inClass wide c then 2
    else 1

end StorefrontLoad.Text
