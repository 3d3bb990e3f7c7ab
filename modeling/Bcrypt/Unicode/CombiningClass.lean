import Bcrypt.Unicode.Table

/-!
# Canonical combining classes

The class of a mark says where it sits around its base; marks of different classes may
be put into one order. The data is that of Unicode 18.0. Characters not listed have
class zero and start a new sequence.
-/

set_option autoImplicit false

namespace Bcrypt.Unicode

/-- Rows of a class and the first and last code point of a range that has it. -/
def combiningClassTable : List (List Nat) :=
  Table.rows "E6 300 314;E8 315 315;DC 316 319;E8 31A 31A;D8 31B 31B;DC 31C 320;CA 321 322;
DC 323 326;CA 327 328;DC 329 333;1 334 338;DC 339 33C;E6 33D 344;F0 345 345;E6 346 346;DC 347 349;
E6 34A 34C;DC 34D 34E;E6 350 352;DC 353 356;E6 357 357;E8 358 358;DC 359 35A;E6 35B 35B;E9 35C 35C;
EA 35D 35E;E9 35F 35F;EA 360 361;E9 362 362;E6 363 36F;E6 483 487;DC 591 591;E6 592 595;DC 596 596;
E6 597 599;DE 59A 59A;DC 59B 59B;E6 59C 5A1;DC 5A2 5A7;E6 5A8 5A9;DC 5AA 5AA;E6 5AB 5AC;DE 5AD 5AD;
E4 5AE 5AE;E6 5AF 5AF;A 5B0 5B0;B 5B1 5B1;C 5B2 5B2;D 5B3 5B3;E 5B4 5B4;F 5B5 5B5;10 5B6 5B6;
11 5B7 5B7;12 5B8 5B8;13 5B9 5BA;14 5BB 5BB;15 5BC 5BC;16 5BD 5BD;17 5BF 5BF;18 5C1 5C1;19 5C2 5C2;
E6 5C4 5C4;DC 5C5 5C5;12 5C7 5C7;A 5C8 5C8;15 5C9 5C9;E6 610 617;1E 618 618;1F 619 619;20 61A 61A;
1B 64B 64B;1C 64C 64C;1D 64D 64D;1E 64E 64E;1F 64F 64F;20 650 650;21 651 651;22 652 652;E6 653 654;
DC 655 656;E6 657 65B;DC 65C 65C;E6 65D 65E;DC 65F 65F;23 670 670;E6 6D6 6DC;E6 6DF 6E2;DC 6E3 6E3;
E6 6E4 6E4;E6 6E7 6E8;DC 6EA 6EA;E6 6EB 6EC;DC 6ED 6ED;24 711 711;E6 730 730;DC 731 731;E6 732 733;
DC 734 734;E6 735 736;DC 737 739;E6 73A 73A;DC 73B 73C;E6 73D 73D;DC 73E 73E;E6 73F 741;DC 742 742;
E6 743 743;DC 744 744;E6 745 745;DC 746 746;E6 747 747;DC 748 748;E6 749 74A;E6 7EB 7F1;DC 7F2 7F2;
E6 7F3 7F3;DC 7FD 7FD;E6 816 819;E6 81B 823;E6 825 827;E6 829 82D;DC 859 85B;E6 897 898;DC 899 89B;
E6 89C 89F;E6 8CA 8CE;DC 8CF 8D3;E6 8D4 8E1;DC 8E3 8E3;E6 8E4 8E5;DC 8E6 8E6;E6 8E7 8E8;DC 8E9 8E9;
E6 8EA 8EC;DC 8ED 8EF;1B 8F0 8F0;1C 8F1 8F1;1D 8F2 8F2;E6 8F3 8F5;DC 8F6 8F6;E6 8F7 8F8;DC 8F9 8FA;
E6 8FB 8FF;7 93C 93C;9 94D 94D;E6 951 951;DC 952 952;E6 953 954;7 9BC 9BC;9 9CD 9CD;E6 9FE 9FE;
7 A3C A3C;9 A4D A4D;7 ABC ABC;9 ACD ACD;7 B3C B3C;9 B4D B4D;9 BCD BCD;7 C3C C3C;9 C4D C4D;
54 C55 C55;5B C56 C56;7 CBC CBC;9 CCD CCD;9 D3B D3C;9 D4D D4D;9 DCA DCA;67 E38 E39;9 E3A E3A;
6B E48 E4B;76 EB8 EB9;9 EBA EBA;7A EC8 ECB;DC F18 F19;DC F35 F35;DC F37 F37;D8 F39 F39;81 F71 F71;
82 F72 F72;84 F74 F74;82 F7A F7D;82 F80 F80;E6 F82 F83;9 F84 F84;E6 F86 F87;DC FC6 FC6;7 1037 1037;
9 1039 103A;DC 108D 108D;E6 135D 135F;9 1714 1715;9 1734 1734;9 17D2 17D2;E6 17DD 17DD;E4 18A9 18A9;
DE 1939 1939;E6 193A 193A;DC 193B 193B;E6 1A17 1A17;DC 1A18 1A18;9 1A60 1A60;E6 1A75 1A7C;
DC 1A7F 1A7F;E6 1AB0 1AB4;DC 1AB5 1ABA;E6 1ABB 1ABC;DC 1ABD 1ABD;DC 1ABF 1AC0;E6 1AC1 1AC2;
DC 1AC3 1AC4;E6 1AC5 1AC9;DC 1ACA 1ACA;E6 1ACB 1ADC;DC 1ADD 1ADD;E6 1ADE 1AE5;DC 1AE6 1AE6;
E6 1AE7 1AEA;EA 1AEB 1AEB;E6 1AEC 1AED;DC 1AEE 1AEF;E6 1AF0 1AF0;7 1B34 1B34;9 1B44 1B44;
E6 1B6B 1B6B;DC 1B6C 1B6C;E6 1B6D 1B73;9 1BAA 1BAB;7 1BE6 1BE6;9 1BF2 1BF3;7 1C37 1C37;E6 1CD0 1CD2;
1 1CD4 1CD4;DC 1CD5 1CD9;E6 1CDA 1CDB;DC 1CDC 1CDF;E6 1CE0 1CE0;1 1CE2 1CE8;DC 1CED 1CED;
E6 1CF4 1CF4;E6 1CF8 1CF9;E6 1DC0 1DC1;DC 1DC2 1DC2;E6 1DC3 1DC9;DC 1DCA 1DCA;E6 1DCB 1DCC;
EA 1DCD 1DCD;D6 1DCE 1DCE;DC 1DCF 1DCF;CA 1DD0 1DD0;E6 1DD1 1DF5;E8 1DF6 1DF6;E4 1DF7 1DF8;
DC 1DF9 1DF9;DA 1DFA 1DFA;E6 1DFB 1DFB;E9 1DFC 1DFC;DC 1DFD 1DFD;E6 1DFE 1DFE;DC 1DFF 1DFF;
E6 20D0 20D1;1 20D2 20D3;E6 20D4 20D7;1 20D8 20DA;E6 20DB 20DC;E6 20E1 20E1;1 20E5 20E6;
E6 20E7 20E7;DC 20E8 20E8;E6 20E9 20E9;1 20EA 20EB;DC 20EC 20EF;E6 20F0 20F0;E6 2CEF 2CF1;
9 2D7F 2D7F;E6 2DE0 2DFF;DA 302A 302A;E4 302B 302B;E8 302C 302C;DE 302D 302D;E0 302E 302F;
8 3099 309A;E6 A66F A66F;E6 A674 A67D;E6 A69E A69F;E6 A6F0 A6F1;9 A806 A806;9 A82C A82C;9 A8C4 A8C4;
E6 A8E0 A8F1;DC A92B A92D;9 A953 A953;7 A9B3 A9B3;9 A9C0 A9C0;E6 AAB0 AAB0;E6 AAB2 AAB3;
DC AAB4 AAB4;E6 AAB7 AAB8;E6 AABE AABF;E6 AAC1 AAC1;9 AAF6 AAF6;9 ABED ABED;1A FB1E FB1E;
E6 FE20 FE26;DC FE27 FE2D;E6 FE2E FE2F;DC 101FD 101FD;DC 102E0 102E0;E6 10376 1037A;DC 10A0D 10A0D;
E6 10A0F 10A0F;E6 10A38 10A38;1 10A39 10A39;DC 10A3A 10A3A;9 10A3F 10A3F;E6 10AE5 10AE5;
DC 10AE6 10AE6;E6 10D24 10D27;E6 10D69 10D6D;E6 10EAB 10EAC;E6 10ECB 10ECB;DC 10ECC 10ECD;
E6 10ECE 10ECF;DC 10EF0 10EF2;E6 10EF3 10EF3;DC 10EF4 10EF4;E6 10EF5 10EF5;DC 10EF6 10EF6;
E6 10EF7 10EF9;DC 10EFA 10EFB;DC 10EFD 10EFF;DC 10F46 10F47;E6 10F48 10F4A;DC 10F4B 10F4B;
E6 10F4C 10F4C;DC 10F4D 10F50;E6 10F82 10F82;DC 10F83 10F83;E6 10F84 10F84;DC 10F85 10F85;
9 11046 11046;9 11070 11070;9 1107F 1107F;9 110B9 110B9;7 110BA 110BA;E6 11100 11102;9 11133 11134;
7 11173 11173;9 111C0 111C0;7 111CA 111CA;9 11235 11235;7 11236 11236;7 112E9 112E9;9 112EA 112EA;
7 1133B 1133C;9 1134D 1134D;E6 11366 1136C;E6 11370 11374;9 113CE 113D0;9 11442 11442;7 11446 11446;
E6 1145E 1145E;9 114C2 114C2;7 114C3 114C3;9 115BF 115BF;7 115C0 115C0;9 1163F 1163F;9 116B6 116B6;
7 116B7 116B7;9 1172B 1172B;9 11839 11839;7 1183A 1183A;9 1193D 1193E;7 11943 11943;9 119E0 119E0;
9 11A34 11A34;9 11A47 11A47;9 11A99 11A99;9 11C3F 11C3F;7 11D42 11D42;9 11D44 11D45;9 11D97 11D97;
9 11F41 11F42;9 1612F 1612F;1 16AF0 16AF4;E6 16B30 16B36;6 16FF0 16FF1;1 1BC9E 1BC9E;DC 1D127 1D128;
D8 1D165 1D166;1 1D167 1D169;E2 1D16D 1D16D;D8 1D16E 1D172;DC 1D17B 1D182;E6 1D185 1D189;
DC 1D18A 1D18B;E6 1D1AA 1D1AD;E6 1D242 1D244;D8 1D250 1D252;1 1D25B 1D25C;D8 1D25F 1D25F;
D8 1D280 1D281;E6 1E000 1E006;E6 1E008 1E018;E6 1E01B 1E021;E6 1E023 1E024;E6 1E026 1E02A;
E6 1E08F 1E08F;E6 1E130 1E136;E6 1E2AE 1E2AE;E6 1E2EC 1E2EF;E8 1E4EC 1E4ED;DC 1E4EE 1E4EE;
E6 1E4EF 1E4EF;E6 1E5EE 1E5EE;DC 1E5EF 1E5EF;E6 1E6E3 1E6E3;E6 1E6E6 1E6E6;E6 1E6EE 1E6EF;
E6 1E6F5 1E6F5;DC 1E8D0 1E8D6;E6 1E944 1E949;7 1E94A 1E94A;"

def combiningClass (codePoint : Nat) : Nat :=
  combiningClassTable.findSome? (fun row =>
    match row with
    | [value, first, last] => if first ≤ codePoint ∧ codePoint ≤ last then some value else none
    | _ => none) |>.getD 0

end Bcrypt.Unicode
