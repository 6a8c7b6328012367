import StorefrontLoad.Text.CharClass
import StorefrontLoad.Text.Table

/-!
# Emoji

Some pictures are emoji by themselves, others are when a selector follows them, and a selector can
also ask for the plain form. Hands and faces take a tone of skin, and letters of a kind of their own
form flags in pairs.
-/

namespace StorefrontLoad.Text

/-- The Unicode property Emoji_Presentation, less tones of skin and letters of flags. -/
def pictures : List Nat := numbers "
  231A 231C 23E9 23ED 23F0 23F1 23F3 23F4 25FD 25FF 2614 2616 2648 2654 267F 2680 2693 2694 26A1
  26A2 26AA 26AC 26BD 26BF 26C4 26C6 26CE 26CF 26D4 26D5 26EA 26EB 26F2 26F4 26F5 26F6 26FA 26FB
  26FD 26FE 2705 2706 270A 270C 2728 2729 274C 274D 274E 274F 2753 2756 2757 2758 2795 2798 27B0
  27B1 27BF 27C0 2B1B 2B1D 2B50 2B51 2B55 2B56 1F004 1F005 1F0CF 1F0D0 1F18E 1F18F 1F191 1F19B
  1F201 1F202 1F21A 1F21B 1F22F 1F230 1F232 1F237 1F238 1F23B 1F250 1F252 1F300 1F321 1F32D 1F336
  1F337 1F37D 1F37E 1F394 1F3A0 1F3CB 1F3CF 1F3D4 1F3E0 1F3F1 1F3F4 1F3F5 1F3F8 1F3FB 1F400 1F43F
  1F440 1F441 1F442 1F4FD 1F4FF 1F53E 1F54B 1F54F 1F550 1F568 1F57A 1F57B 1F595 1F597 1F5A4 1F5A5
  1F5FB 1F650 1F680 1F6C6 1F6CC 1F6CD 1F6D0 1F6D3 1F6D5 1F6D9 1F6DC 1F6E0 1F6EB 1F6ED 1F6F4 1F6FD
  1F7E0 1F7EC 1F7F0 1F7F1 1F90C 1F93B 1F93C 1F946 1F947 1FA00 1FA70 1FA7D 1FA80 1FA8B 1FA8E 1FAC7
  1FAC8 1FAC9 1FACD 1FADD 1FADF 1FAEB 1FAEF 1FAF9"

/-- Characters that a selector turns into an emoji or back. -/
def selectable : List Nat := numbers "
  23 24 2A 2B 30 3A A9 AA AE AF 203C 203D 2049 204A 2122 2123 2139 213A 2194 219A 21A9 21AB 231A
  231C 2328 2329 23CF 23D0 23E9 23EB 23ED 23F0 23F1 23F4 23F8 23FB 24C2 24C3 25AA 25AC 25B6 25B7
  25C0 25C1 25FB 25FF 2600 2605 260E 260F 2611 2612 2614 2616 2618 2619 261D 261E 2620 2621 2622
  2624 2626 2627 262A 262B 262E 2630 2638 263B 2640 2641 2642 2643 2648 2654 265F 2661 2663 2664
  2665 2667 2668 2669 267B 267C 267E 2680 2692 2698 2699 269A 269B 269D 26A0 26A2 26A7 26A8 26AA
  26AC 26B0 26B2 26BD 26BF 26C4 26C6 26C8 26C9 26CF 26D0 26D1 26D2 26D3 26D5 26E9 26EB 26F0 26F6
  26F7 26FB 26FD 26FE 2702 2703 2708 270A 270C 270E 270F 2710 2712 2713 2714 2715 2716 2717 271D
  271E 2721 2722 2733 2735 2744 2745 2747 2748 2753 2754 2757 2758 2763 2765 27A1 27A2 2934 2936
  2B05 2B08 2B1B 2B1D 2B50 2B51 2B55 2B56 3030 3031 303D 303E 3297 3298 3299 329A 1F004 1F005
  1F170 1F172 1F17E 1F180 1F202 1F203 1F21A 1F21B 1F22F 1F230 1F237 1F238 1F30D 1F310 1F315 1F316
  1F31C 1F31D 1F321 1F322 1F324 1F32D 1F336 1F337 1F378 1F379 1F37D 1F37E 1F393 1F394 1F396 1F398
  1F399 1F39C 1F39E 1F3A0 1F3A7 1F3A8 1F3AC 1F3AF 1F3C2 1F3C3 1F3C4 1F3C5 1F3C6 1F3C7 1F3CA 1F3CF
  1F3D4 1F3E1 1F3ED 1F3EE 1F3F3 1F3F4 1F3F5 1F3F6 1F3F7 1F3F8 1F408 1F409 1F415 1F416 1F41F 1F420
  1F426 1F427 1F43F 1F440 1F441 1F443 1F446 1F44A 1F44D 1F44F 1F453 1F454 1F46A 1F46B 1F47D 1F47E
  1F4A3 1F4A4 1F4B0 1F4B1 1F4B3 1F4B4 1F4BB 1F4BC 1F4BF 1F4C0 1F4CB 1F4CC 1F4DA 1F4DB 1F4DF 1F4E0
  1F4E4 1F4E7 1F4EA 1F4EE 1F4F7 1F4F8 1F4F9 1F4FC 1F4FD 1F4FE 1F508 1F509 1F50D 1F50E 1F512 1F514
  1F549 1F54B 1F550 1F568 1F56F 1F571 1F573 1F57A 1F587 1F588 1F58A 1F58E 1F590 1F591 1F5A5 1F5A6
  1F5A8 1F5A9 1F5B1 1F5B3 1F5BC 1F5BD 1F5C2 1F5C5 1F5D1 1F5D4 1F5DC 1F5DF 1F5E1 1F5E2 1F5E3 1F5E4
  1F5E8 1F5E9 1F5EF 1F5F0 1F5F3 1F5F4 1F5FA 1F5FB 1F610 1F611 1F687 1F688 1F68D 1F68E 1F691 1F692
  1F694 1F695 1F698 1F699 1F6AD 1F6AE 1F6B2 1F6B3 1F6B9 1F6BB 1F6BC 1F6BD 1F6CB 1F6CC 1F6CD 1F6D0
  1F6E0 1F6E6 1F6E9 1F6EA 1F6F0 1F6F1 1F6F3 1F6F4"

/-- The Unicode property Emoji_Modifier_Base. -/
def tonable : List Nat := numbers "
  261D 261E 26F9 26FA 270A 270E 1F385 1F386 1F3C2 1F3C5 1F3C7 1F3C8 1F3CA 1F3CD 1F442 1F444 1F446
  1F451 1F466 1F479 1F47C 1F47D 1F481 1F484 1F485 1F488 1F48F 1F490 1F491 1F492 1F4AA 1F4AB 1F574
  1F576 1F57A 1F57B 1F590 1F591 1F595 1F597 1F645 1F648 1F64B 1F650 1F6A3 1F6A4 1F6B4 1F6B7 1F6C0
  1F6C1 1F6CC 1F6CD 1F90C 1F90D 1F90F 1F910 1F918 1F920 1F926 1F927 1F930 1F93A 1F93C 1F93F 1F977
  1F978 1F9B5 1F9B7 1F9B8 1F9BA 1F9BB 1F9BC 1F9CD 1F9D0 1F9D1 1F9DE 1FAC3 1FAC6 1FAF0 1FAF9"

def isPicture (c : Char) : Bool := inClass pictures c

def isTonable (c : Char) : Bool := inClass tonable c

def isSkinTone (c : Char) : Bool := 0x1F3FB ≤ c.toNat ∧ c.toNat ≤ 0x1F3FF

def isFlagLetter (c : Char) : Bool := 0x1F1E6 ≤ c.toNat ∧ c.toNat ≤ 0x1F1FF

/-- Whether a selector can make an emoji of a character. -/
def hasEmojiForm (c : Char) : Bool := inClass selectable c

/-- Whether a selector can make an emoji narrow; squared words stay as they are. -/
def hasTextForm (c : Char) : Bool :=
  inClass selectable c ∧ isPicture c ∧ ¬ (0x1F200 ≤ c.toNat ∧ c.toNat ≤ 0x1F2FF)

/-- A letter or digit out of sight that tells which flag a flag is. -/
def isTag (c : Char) : Bool :=
  (0xE0030 ≤ c.toNat ∧ c.toNat ≤ 0xE0039) ∨ (0xE0061 ≤ c.toNat ∧ c.toNat ≤ 0xE007A)

end StorefrontLoad.Text
