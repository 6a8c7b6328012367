import StorefrontLoad.Text.CharClass
import StorefrontLoad.Text.Table

/-!
# Marks

A mark belongs to the character before it. Most marks take no room of their own; a few of those that
do still cannot be parted from what they belong to.
-/

namespace StorefrontLoad.Text

/-- The general categories Mn and Me. -/
def nonspacing : List Nat := numbers "
  300 370 483 48A 591 5BE 5BF 5C0 5C1 5C3 5C4 5C6 5C7 5C8 610 61B 64B 660 670 671 6D6 6DD 6DF 6E5
  6E7 6E9 6EA 6EE 711 712 730 74B 7A6 7B1 7EB 7F4 7FD 7FE 816 81A 81B 824 825 828 829 82E 859 85C
  897 8A0 8CA 8E2 8E3 903 93A 93B 93C 93D 941 949 94D 94E 951 958 962 964 981 982 9BC 9BD 9C1 9C5
  9CD 9CE 9E2 9E4 9FE 9FF A01 A03 A3C A3D A41 A43 A47 A49 A4B A4E A51 A52 A70 A72 A75 A76 A81 A83
  ABC ABD AC1 AC6 AC7 AC9 ACD ACE AE2 AE4 AFA B00 B01 B02 B3C B3D B3F B40 B41 B45 B4D B4E B55 B57
  B62 B64 B82 B83 BC0 BC1 BCD BCE C00 C01 C04 C05 C3C C3D C3E C41 C46 C49 C4A C4E C55 C57 C62 C64
  C81 C82 CBC CBD CBF CC0 CC6 CC7 CCC CCE CE2 CE4 D00 D02 D3B D3D D41 D45 D4D D4E D62 D64 D81 D82
  DCA DCB DD2 DD5 DD6 DD7 E31 E32 E34 E3B E47 E4F EB1 EB2 EB4 EBD EC8 ECF F18 F1A F35 F36 F37 F38
  F39 F3A F71 F7F F80 F85 F86 F88 F8D F98 F99 FBD FC6 FC7 102D 1031 1032 1038 1039 103B 103D 103F
  1058 105A 105E 1061 1071 1075 1082 1083 1085 1087 108D 108E 109D 109E 135D 1360 1712 1715 1732
  1734 1752 1754 1772 1774 17B4 17B6 17B7 17BE 17C6 17C7 17C9 17D4 17DD 17DE 180B 180E 180F 1810
  1885 1887 18A9 18AA 1920 1923 1927 1929 1932 1933 1939 193C 1A17 1A19 1A1B 1A1C 1A56 1A57 1A58
  1A5F 1A60 1A61 1A62 1A63 1A65 1A6D 1A73 1A7D 1A7F 1A80 1AB0 1ADE 1AE0 1AEC 1B00 1B04 1B34 1B35
  1B36 1B3B 1B3C 1B3D 1B42 1B43 1B6B 1B74 1B80 1B82 1BA2 1BA6 1BA8 1BAA 1BAB 1BAE 1BE6 1BE7 1BE8
  1BEA 1BED 1BEE 1BEF 1BF2 1C2C 1C34 1C36 1C38 1CD0 1CD3 1CD4 1CE1 1CE2 1CE9 1CED 1CEE 1CF4 1CF5
  1CF8 1CFA 1DC0 1E00 20D0 20F1 2CEF 2CF2 2D7F 2D80 2DE0 2E00 302A 302E 3099 309B A66F A673 A674
  A67E A69E A6A0 A6F0 A6F2 A802 A803 A806 A807 A80B A80C A825 A827 A82C A82D A8C4 A8C6 A8E0 A8F2
  A8FF A900 A926 A92E A947 A952 A980 A983 A9B3 A9B4 A9B6 A9BA A9BC A9BE A9E5 A9E6 AA29 AA2F AA31
  AA33 AA35 AA37 AA43 AA44 AA4C AA4D AA7C AA7D AAB0 AAB1 AAB2 AAB5 AAB7 AAB9 AABE AAC0 AAC1 AAC2
  AAEC AAEE AAF6 AAF7 ABE5 ABE6 ABE8 ABE9 ABED ABEE FB1E FB1F FE00 FE10 FE20 FE30 101FD 101FE
  102E0 102E1 10376 1037B 10A01 10A04 10A05 10A07 10A0C 10A10 10A38 10A3B 10A3F 10A40 10AE5 10AE7
  10D24 10D28 10D69 10D6E 10EAB 10EAD 10EFA 10F00 10F46 10F51 10F82 10F86 11001 11002 11038 11047
  11070 11071 11073 11075 1107F 11082 110B3 110B7 110B9 110BB 110C2 110C3 11100 11103 11127 1112C
  1112D 11135 11173 11174 11180 11182 111B6 111BF 111C9 111CD 111CF 111D0 1122F 11232 11234 11235
  11236 11238 1123E 1123F 11241 11242 112DF 112E0 112E3 112EB 11300 11302 1133B 1133D 11340 11341
  11366 1136D 11370 11375 113BB 113C1 113CE 113CF 113D0 113D1 113D2 113D3 113E1 113E3 11438 11440
  11442 11445 11446 11447 1145E 1145F 114B3 114B9 114BA 114BB 114BF 114C1 114C2 114C4 115B2 115B6
  115BC 115BE 115BF 115C1 115DC 115DE 11633 1163B 1163D 1163E 1163F 11641 116AB 116AC 116AD 116AE
  116B0 116B6 116B7 116B8 1171D 1171E 1171F 11720 11722 11726 11727 1172C 1182F 11838 11839 1183B
  1193B 1193D 1193E 1193F 11943 11944 119D4 119D8 119DA 119DC 119E0 119E1 11A01 11A0B 11A33 11A39
  11A3B 11A3F 11A47 11A48 11A51 11A57 11A59 11A5C 11A8A 11A97 11A98 11A9A 11B60 11B61 11B62 11B65
  11B66 11B67 11C30 11C37 11C38 11C3E 11C3F 11C40 11C92 11CA8 11CAA 11CB1 11CB2 11CB4 11CB5 11CB7
  11D31 11D37 11D3A 11D3B 11D3C 11D3E 11D3F 11D46 11D47 11D48 11D90 11D92 11D95 11D96 11D97 11D98
  11EF3 11EF5 11F00 11F02 11F36 11F3B 11F40 11F41 11F42 11F43 11F5A 11F5B 13440 13441 13447 13456
  1611E 1612A 1612D 16130 16AF0 16AF5 16B30 16B37 16F4F 16F50 16F8F 16F93 16FE4 16FE5 1BC9D 1BC9F
  1CF00 1CF2E 1CF30 1CF47 1D167 1D16A 1D17B 1D183 1D185 1D18C 1D1AA 1D1AE 1D242 1D245 1DA00 1DA37
  1DA3B 1DA6D 1DA75 1DA76 1DA84 1DA85 1DA9B 1DAA0 1DAA1 1DAB0 1E000 1E007 1E008 1E019 1E01B 1E022
  1E023 1E025 1E026 1E02B 1E08F 1E090 1E130 1E137 1E2AE 1E2AF 1E2EC 1E2F0 1E4EC 1E4F0 1E5EE 1E5F0
  1E6E3 1E6E4 1E6E6 1E6E7 1E6EE 1E6F0 1E6F5 1E6F6 1E8D0 1E8D7 1E944 1E94B E0100 E01F0"

/-- The general category Mc. -/
def spacing : List Nat := numbers "
  903 904 93B 93C 93E 941 949 94D 94E 950 982 984 9BE 9C1 9C7 9C9 9CB 9CD 9D7 9D8 A03 A04 A3E A41
  A83 A84 ABE AC1 AC9 ACA ACB ACD B02 B04 B3E B3F B40 B41 B47 B49 B4B B4D B57 B58 BBE BC0 BC1 BC3
  BC6 BC9 BCA BCD BD7 BD8 C01 C04 C41 C45 C82 C84 CBE CBF CC0 CC5 CC7 CC9 CCA CCC CD5 CD7 CF3 CF4
  D02 D04 D3E D41 D46 D49 D4A D4D D57 D58 D82 D84 DCF DD2 DD8 DE0 DF2 DF4 F3E F40 F7F F80 102B
  102D 1031 1032 1038 1039 103B 103D 1056 1058 1062 1065 1067 106E 1083 1085 1087 108D 108F 1090
  109A 109D 1715 1716 1734 1735 17B6 17B7 17BE 17C6 17C7 17C9 1923 1927 1929 192C 1930 1932 1933
  1939 1A19 1A1B 1A55 1A56 1A57 1A58 1A61 1A62 1A63 1A65 1A6D 1A73 1B04 1B05 1B35 1B36 1B3B 1B3C
  1B3D 1B42 1B43 1B45 1B82 1B83 1BA1 1BA2 1BA6 1BA8 1BAA 1BAB 1BE7 1BE8 1BEA 1BED 1BEE 1BEF 1BF2
  1BF4 1C24 1C2C 1C34 1C36 1CE1 1CE2 1CF7 1CF8 302E 3030 A823 A825 A827 A828 A880 A882 A8B4 A8C4
  A952 A954 A983 A984 A9B4 A9B6 A9BA A9BC A9BE A9C1 AA2F AA31 AA33 AA35 AA4D AA4E AA7B AA7C AA7D
  AA7E AAEB AAEC AAEE AAF0 AAF5 AAF6 ABE3 ABE5 ABE6 ABE8 ABE9 ABEB ABEC ABED 11000 11001 11002
  11003 11082 11083 110B0 110B3 110B7 110B9 1112C 1112D 11145 11147 11182 11183 111B3 111B6 111BF
  111C1 111CE 111CF 1122C 1122F 11232 11234 11235 11236 112E0 112E3 11302 11304 1133E 11340 11341
  11345 11347 11349 1134B 1134E 11357 11358 11362 11364 113B8 113BB 113C2 113C3 113C5 113C6 113C7
  113CB 113CC 113CE 113CF 113D0 11435 11438 11440 11442 11445 11446 114B0 114B3 114B9 114BA 114BB
  114BF 114C1 114C2 115AF 115B2 115B8 115BC 115BE 115BF 11630 11633 1163B 1163D 1163E 1163F 116AC
  116AD 116AE 116B0 116B6 116B7 1171E 1171F 11720 11722 11726 11727 1182C 1182F 11838 11839 11930
  11936 11937 11939 1193D 1193E 11940 11941 11942 11943 119D1 119D4 119DC 119E0 119E4 119E5 11A39
  11A3A 11A57 11A59 11A97 11A98 11B61 11B62 11B65 11B66 11B67 11B68 11C2F 11C30 11C3E 11C3F 11CA9
  11CAA 11CB1 11CB2 11CB4 11CB5 11D8A 11D8F 11D93 11D95 11D96 11D97 11EF5 11EF7 11F03 11F04 11F34
  11F36 11F3E 11F40 11F41 11F42 1612A 1612D 16F51 16F88 16FF0 16FF2 1D165 1D167 1D16D 1D173"

/-- Spacing marks, tags and a joiner that extend the character before them all the same. -/
def extendingOthers : List Nat := numbers "
  9BE 9BF 9D7 9D8 B3E B3F B57 B58 BBE BBF BD7 BD8 CC0 CC1 CC2 CC3 CC7 CC9 CCA CCC CD5 CD7 D3E D3F
  D57 D58 DCF DD0 DDF DE0 1715 1716 1734 1735 1B35 1B36 1B3B 1B3C 1B3D 1B3E 1B43 1B45 1BAA 1BAB
  1BF2 1BF4 200C 200D 302E 3030 A953 A954 A9C0 A9C1 111C0 111C1 11235 11236 1133E 1133F 1134D
  1134E 11357 11358 113B8 113B9 113C2 113C3 113C5 113C6 113C7 113CA 113CF 113D0 114B0 114B1 114BD
  114BE 115AF 115B0 116B6 116B7 11930 11931 1193D 1193E 11F41 11F42 16FF0 16FF2 1D165 1D167 1D16D
  1D173 E0020 E0080"

def isNonspacing (c : Char) : Bool := inClass nonspacing c

def isMark (c : Char) : Bool := isNonspacing c ∨ inClass spacing c

/-- Whether a character has no shape of its own. -/
def isExtending (c : Char) : Bool := isNonspacing c ∨ inClass extendingOthers c

end StorefrontLoad.Text
