import StorefrontLoad.Text.Mark

/-!
# Direction of writing

Letters are written to the right or to the left, digits keep their own order, and signs and marks
follow what stands around them. The classes are told apart for the characters that a name may hold.
-/

namespace StorefrontLoad.Text

inductive Direction
  | toRight
  | toLeft
  | europeanDigit
  | arabicDigit
  | mark
  | neutral
  deriving DecidableEq, Repr

/-- Hebrew, Arabic and other letters written to the left. -/
def writtenToLeft : List Nat := numbers "
  5BE 5BF 5C0 5C1 5C3 5C4 5C6 5C7 5D0 606 608 609 60B 60C 60D 60E 61B 64B 66D 670 671 6D6 6E5 6E7
  6EE 6F0 6FA 711 712 730 74D 7A6 7B1 7EB 7F4 7F6 7FA 7FD 7FE 816 81A 81B 824 825 828 829 830 859
  85E 897 8A0 8CA FBB2 FBC3 FE73 10000 10800 1091F 10920 10A01 10A10 10A38 10A40 10AE5 10AEB 10B39
  10B40 10D24 10D40 10D69 10D6F 10E60 10E80 10EAB 10EAD 10ED1 10F00 10F46 10F51 10F82 10F86 11000
  1E800 1E8D0 1E922 1E944 1E94B 1EEF0"

def arabicDigits : List Nat := numbers "
  660 66A 66B 66D 10D30 10D40 10E60 10E80"

def europeanDigits : List Nat := numbers "
  30 3A 6F0 6FA 102E1 10300"

def neutrals : List Nat := numbers "
  0 9 E 1C 21 30 3A 61 7B DF F7 F8 2B9 2BB 2C2 2D0 2D2 2EE 2EF 300 375 377 3F6 3F8 58A 591 606 608
  609 60B 60C 60D 60E 610 66A 66B 6DE 6DF 6E9 6EA 7F6 7FA 9F2 9F4 9FB 9FC AF1 AF9 BF3 C00 C78 C7F
  E3F E40 F3A F3E 1390 13A0 1400 1401 169B 16A0 17DB 17DC 17F0 1810 1940 1946 19DE 1A00 200C 20D0
  2104 214E 218A 2336 237B 2395 2396 26AC 26AD 2800 2900 2C30 2CE5 2CEC 2CF9 2D00 2E00 3005 3008
  3021 3030 3031 3037 303B 303D 3041 30A0 30A1 30FB 30FC 31C0 31F0 4DC0 4E00 A490 A4D0 A60D A610
  A673 A674 A67E A681 A700 A723 A788 A789 A828 A82C A838 A840 A874 A880 AB6A ABC0 FBC3 FE20 FE45
  FE73 10101 10102 10140 1018D 10190 101D0 1091F 10920 10B39 10B40 10D6E 10D6F 10ED1 10EFA 11052
  11066 11660 11680 11FD5 11FFF 16FE2 16FE3 1CC00 1CF00 1D1E9 1D242 1D245 1D2C0 1D300 1D360 1E2FF
  1E4D0 1EEF0 1F150 1F16D 1F170 1F1AD 1F1E6 1F260 20000"

/-- Marks without a width that count as letters of their script. -/
def letterLikeMarks : List Nat := [0xCBF, 0xCC6, 0x11A07, 0x11A08, 0x11C3F]

def direction (c : Char) : Direction :=
  if inClass writtenToLeft c then .toLeft
  else if inClass arabicDigits c then .arabicDigit
  else if inClass europeanDigits c then .europeanDigit
  else if isNonspacing c ∧ c.toNat ∉ letterLikeMarks then .mark
  else if inClass neutrals c then .neutral
  else .toRight

end StorefrontLoad.Text
