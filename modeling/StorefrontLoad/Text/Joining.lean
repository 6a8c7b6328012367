import StorefrontLoad.Text.Mark

/-!
# Joined letters

In Arabic and related scripts most letters are joined to their neighbours, some only to the one
before them, and marks between two letters do not part them. The tables tell apart the letters that
a name may hold.
-/

namespace StorefrontLoad.Text

/-- A sign that is never shown and joins its neighbours. -/
def joiner : Char := Char.ofNat 0x200D

/-- A sign that is never shown and parts its neighbours. -/
def nonJoiner : Char := Char.ofNat 0x200C

/-- Letters that are joined to the letter after them. -/
def joinedAfter : List Nat := numbers "
  620 621 626 627 628 629 62A 62F 633 640 641 648 649 64B 66E 670 679 688 69A 6C0 6C1 6C3 6CC 6CD
  6CE 6CF 6D0 6D2 6FA 6FD 6FF 700 712 715 71A 71E 71F 728 729 72A 72B 72C 72D 72F 74E 759 75C 76B
  76D 771 772 773 775 778 77A 780 7CA 7EB 841 846 848 849 84A 854 855 856 860 861 862 866 868 869
  886 887 889 88E 88F 897 8A0 8AA 8AF 8B1 8B3 8B9 8BA 8C9 1807 1808 1820 1880 1887 18A9 18AA 18B0
  A840 A873 10AC0 10AC5 10ACD 10ACE 10AD3 10ADD 10ADE 10AE1 10AEB 10AEF 10B80 10B81 10B82 10B83
  10B86 10B89 10B8A 10B8C 10B8D 10B8E 10B90 10B91 10BAD 10BAF 10D00 10D22 10D23 10D24 10EC3 10EC5
  10EC6 10ED0 10F30 10F33 10F34 10F45 10F51 10F54 10F70 10F74 10F76 10F82 10FB0 10FB1 10FB2 10FB4
  10FB8 10FB9 10FBB 10FBD 10FBE 10FC0 10FC1 10FC2 10FC4 10FC5 10FCA 10FE0 1E922 1E944"

/-- Letters that are joined to the letter before them. -/
def joinedBefore : List Nat := numbers "
  620 621 622 640 641 64B 66E 670 671 674 679 6D4 6D5 6D6 6EE 6F0 6FA 6FD 6FF 700 710 711 712 730
  74D 780 7CA 7EB 840 859 860 861 862 866 867 883 886 887 889 897 8A0 8AD 8AE 8C9 1807 1808 1820
  1880 1887 18A9 18AA 18B0 A840 A872 10AC0 10AC6 10AC7 10AC8 10AC9 10ACB 10ACE 10AD7 10AD8 10AE2
  10AE4 10AE5 10AEB 10AF0 10B80 10B99 10BA9 10BAF 10D01 10D24 10EC2 10EC5 10EC6 10ED0 10F30 10F45
  10F51 10F55 10F70 10F82 10FB0 10FB1 10FB2 10FB7 10FB8 10FC0 10FC1 10FC5 10FC9 10FCB 1E922 1E944"

/-- Whether a character is passed over when neighbours are joined. -/
def isTransparent (c : Char) : Bool := isNonspacing c ∨ c.toNat = 0x1E94B

/-- The first character that is not passed over. -/
def firstOpaque? (text : List Char) : Option Char := (text.dropWhile isTransparent).head?

/-- Whether the letters around a place would be joined; the text before it is given backwards. -/
def isJoint (before after : List Char) : Bool :=
  (firstOpaque? before).any (inClass joinedAfter) && (firstOpaque? after).any (inClass joinedBefore)

end StorefrontLoad.Text
