import Flowbook.Character.Table

namespace Flowbook.Character

open Flowbook.Text

def ageVersions : List String :=
  ["1.1", "2.0", "2.1", "3.0", "3.1", "3.2", "4.0", "4.1", "5.0", "5.1", "5.2", "6.0", "6.1", "6.2",
   "6.3", "7.0", "8.0", "9.0", "10.0", "11.0", "12.0", "12.1", "13.0", "14.0", "15.0", "15.1",
   "16.0"]

/-- The ages of all code points, in ascending order: the position of the version, counted
from one, or zero for those that no version has. -/
def ageRuns : List Run :=
  runs 2
  ["011f6 044 011e 048 06 07 0412 073 08b 09e 0159 045 072 012f 04 01a 045 0711 0146 049 06 078",
   "085 073 012 04 06d 0a4 012 0a2 002 01 093 01 10 004 017 00 01 00 0114 00 012c 0a 017 04 062",
   "01 04 01 04 01 04 01 04 0112 052 06 075 084 04 01c 04 0142 04 01c 04 0129 0a 042 062 044 0135",
   "062 012 062 012 062 09 011c 042 018 082 012 096 0610 094 0a10 0b2 0c2 108 00 0126 002 017 14",
   "0127 14 01 04 002 102 0d 00 0211 08 02d 01a 09 019 02 083 008 011b 004 14 015 00b 074 0d 10",
   "0a5 08 01 079 0a5 01 0f 18 08 01 0c 011a 0a5 0113 043 073 086 0c 01e 062 0148 042 015 04 01f",
   "04 011e 072 01a 045 07 04e 00 041e 073 041b 002 073 081e 0a12 0431 06 00e 093b 002 143 0b2e",
   "002 0bf 00 0c1c 002 0c 00 13b 005 181f 00 182 005 1b 188 0d 10 0db 106 112 18 128 17a 18b 14",
   "12f 11 0d1b 10 0b 013 07 0135 0c2 0112 0b 0c 015 0b 0c2 0119 0a2 0c5 10 0b2 092 08 092 10 013",
   "00 018 002 012 002 0116 00 017 00 01 003 014 002 01 07 017 002 012 002 013 08 008 01 004 012",
   "00 015 002 0115 0b 132 14 002 07 01 07 00 016 004 012 002 0116 00 017 00 012 00 012 00 012",
   "002 01 00 015 004 012 002 013 003 0a 007 014 00 01 007 01f 0a 14 00a 013 00 017 07 01 00 013",
   "00 0116 00 017 00 012 00 015 002 01a 00 013 00 013 002 01 00f 01 073 002 01a 0d 07 007 11 136",
   "00 013 00 018 002 012 002 0116 00 017 00 012 00 07 014 002 018 0a 002 012 002 013 007 17 012",
   "004 012 00 013 0a2 002 01b 07 0c6 00a 012 00 016 003 013 00 014 003 012 00 01 00 012 003 012",
   "003 013 003 018 08 013 004 015 003 013 00 014 002 0a 006 01 00e 08 01c 078 005 10 013 14 018",
   "00 013 00 0117 00 01a 10 015 002 18 0a 017 00 013 00 014 007 012 00 0a2 11 002 18 002 012 0a2",
   "002 01a 007 15 0a8 12 10 012 14 018 00 013 00 0117 00 01a 00 015 002 072 017 00 013 00 014",
   "007 012 006 18 01 00 012 092 002 01a 00 092 19 00c 13 10 012 17 018 00 013 00 0117 0c 0110 0c",
   "132 0a 016 0a 00 013 00 014 0c 12 004 123 01 127 11 012 0a2 002 01a 0a6 123 0a7 00 17 042 00",
   "0412 003 0418 00 049 00 04 002 047 003 04 004 046 00 04 00 048 006 10a 002 043 00c 013a 004",
   "011d 0025 012 00 01 00 15 012 15 01 00 15 01 156 014 15 017 15 013 00 01 00 01 152 012 15 01d",
   "15 013 002 015 00 01 00 016 19 00 01a 002 012 0d2 0020 0248 00 0221 04 0a2 004 021b 0c4 026",
   "04 02 00 0215 043 027 04 02 043 00 04f 00 0a 04 082 0a3 0b4 0c2 0025 0422 0a 045 0a 042 0a",
   "047 0a3 044 0a6 041a 0a40 0b4 0a2 0126 00 0d 005 0d 002 0127 062 082 01 08 0d3 015a 0b5 0144",
   "0b5 0152 0b6 047 08 043f 08 04 00 044 002 047 00 04 00 044 002 0427 08 04 00 044 002 041f 08",
   "04 00 044 002 047 00 04 00 044 002 047 08 047 00 0417 08 041f 08 04 00 044 002 047 08 0427 08",
   "0413 002 0c2 082 041c 003 081a 006 0455 11 002 116 002 0b 04276 0b9 041d 003 0451 108 007 06d",
   "18 067 18 009 18 0617 009 0614 00c 06d 00 063 00 062 00c 045d 07 002 04a 006 07a 006 04f 18",
   "04a 006 0458 14 007 042a 0a 005 0b46 00a 071d 102 00 07c 004 07c 004 07 003 072a 002 075 00b",
   "082a 0b2 004 081a 006 08a 0b 003 082 0720 081c 002 082 0b3f 00 0b1d 002 0bb 006 0ba 006 0be",
   "002 10f 172 18e 0031 094c 18 00 1b2 092d 182 1b 0a2b 0d3 0ac 0d6 0c34 008 0c4 0a38 003 0af",
   "003 0a33 129 1b2 005 142b 002 143 0d8 008 0b23 0d4 13 102 15 005 076c 0858 097 0a1c 10f 134",
   "18 12 0c 0b 092 019b 02 0a4 015a 0a6 0116 002 016 002 0126 002 016 002 018 00 01 00 01 00 01",
   "00 011f 002 0135 00 01f 00 01e 002 016 00 0113 002 013 00 019 00 012f 04 0117 06 046 065 072",
   "082 06 087 065 0a 00 0f4 017 06 002 011b 00 085 0c8 003 01b 02 03 043 062 084 0b3 0c 0e 103",
   "11 13 18 00f 0112 042 067 08 094 0a 00f 0139 042 07 08 06f 08 092 0a 0b3 0130 04 09 0a4 0b",
   "112 004 015b 049 06c 01f2 06e 01 04 0179 04 06 041e 0634 072 08b 09c 0b 0cb 107 124 13 0125",
   "042 1b3 0016 01b 0015 018b 0614 07 0196 06a 0150 048 068 0114 072 062 08 04 0156 042 06c 082",
   "06a 078 08b 0a 0b2 072 0810 09 0aa 0b3 0a4 0ba 0c 0b13 0c 0b 0c4 0b18 10 014 0c 014 0c2 011c",
   "0c 0123 0c 01 0c 014 0c3 01 0b 017 0c2 017 06e 011f 0c3 0118 0c 01e 0c 087 094 0d 0a 0d 0c2",
   "061c 0a4 0610 04100 06200 07e 086 097 0a5 094 0a29 103 0a5 0b5 101a 002 1020 00 17 1022 143",
   "10c 15 108 13 1419 114 14f 15 082f 18 082f 18 09d 0a3 0b 0a3 094 0a6 0b2 086b 0b7 0d2 005",
   "082d 00 0d 005 0d 002 0836 0d2 007 08 0c 00e 0c 0817 009 087 00 087 00 087 00 087 00 087 00",
   "087 00 087 00 087 00 0a20 0818 0a4 082 0a13 0b 0da 107 122 135 145 15 173 18b 0022 041a 00",
   "0459 00c 04d6 001a 04c 1a4 0138 043 063 04 01 00 0154 062 002 016 062 015e 06 005 0128 0a 13",
   "14 00 015e 00 0110 0418 0c3 175 0810 0a14 1b2 009 1a 0610 011d 072 00 0124 0bc 07 06f 011c",
   "072 08 0132 06f 01c 074 012f 16 0177 074 0163 072 011f 07 0419b6 17a 0740 0151a6 0816 0a8 0b8",
   "0d 119 1315 145 17d 183 0448d 003 0412 062 0410 06 04c 06 043 06 04 009 0b30 0a12c 0014 0a20",
   "0c2 0a12 0d8 0a1c 106 11 0d 0b58 008 0817 094 0a5 092 0a6b 0c2 11 0c2 0d2 10c 0ca 0d 103 12",
   "14 102 116 142 156 182 155 174 1b3 002 182 00 18 00 185 1b3 0015 183 172 10 0d2 0c 0a5 082c",
   "17 003 0ba 006 0938 008 0a45 12 008 0ac 006 0b1c 112 142 0a54 00b 0a 0b1d 003 0b4e 00 0bb 004",
   "0b2 101f 00 0a37 009 0ae 002 0aa 002 0a4 0b1c 104 0b43 0018 0b5 0d17 00a 0c6 002 0c6 002 0c6",
   "009 0c7 00 0c7 00 1030 114 102 152 174 004 1150 0b2e 002 0ba 006 022ba4 00c 0b17 004 0b31",
   "00804 011a2e 0d2 063b 0b3 002 086a 0026 017 00c 015 005 04 0119 00 015 00 01 00 012 00 012 00",
   "016c 0c10 18 0010 0116d 1810 0140 002 0136 007 18 0520 01c 06 07 182 0610 08a 006 014 0a3 107",
   "112 0115 062 072 01a 00 0113 00 014 004 013 06 01 00 0187 002 01 00 015e 062 015e 003 016 002",
   "016 002 016 002 013 003 017 00 017 00a 043 03 013 07c 00 071a 00 0713 00 072 00 07f 002 07e",
   "0022 077b 005 073 004 072d 003 079 084b 102 122 00 0ac 17 003 10 002f 0a2e 0082 0a1d 003 0a31",
   "00f 101c 004 051f 10 054 009 133 051b 005 102b 005 071e 00 07 0824 004 08e 002a 0526 072 0526",
   "0750 002 07a 006 1224 004 1224 004 1028 008 1034 00b 10 18b 00 18f 00 187 00 182 00 18b 00",
   "18f 00 187 00 182 003 1b34 00c 10137 009 1016 00a 108 0018 186 00 182a 00 189 0045 076 002 07",
   "00 072c 00 072 003 07 002 07 0b16 00 0b9 103f 008 109 0030 1113 00 112 005 115 091a 0b2 003",
   "09 0a1a 005 0a 0040 0d38 004 112 0d2 1110 002 112e 084 00 082 005 088 00 083 00 081b 142 002",
   "083 004 089 14 007 089 007 0b20 1020 0020 1027 004 10c 009 0b36 003 0b1d 002 0b1b 005 0b8",
   "1012 007 104 00c 107 0050 0b49 0037 1133 00d 1133 007 116 1428 008 14a 006 1b26 003 1b1d 008",
   "1b2 00d0 0b1f 00 172a 00 173 002 172 0010 1b3 0037 1b 193 1428 008 142a 0016 181a 0026 171c",
   "0014 1517 009 0c4e 004 0c1e 186 009 10 0b42 18 00a 14 002 0d19 007 0da 006 0d35 00 0de 143 17",
   "008 1027 009 0d49 114 10 172 0da 10 115 00 1014 00b 1012 00 102b 12 193 003e 117 00 11 00 114",
   "00 11f 00 11b 006 103b 005 10a 006 11 103 00 108 002 102 002 1016 00 107 00 102 00 105 00 14",
   "109 002 102 002 103 002 11 006 10 005 107 002 107 003 105 00b 1ba 00 1b 002 1b 00 1b26 00 1ba",
   "00 1b 002 1b 00 1b4 00 1ba 00 1b2 008 1b2 001d 125a 17 12 00 12 14 15 172 001e 1048 008 10a",
   "00a6 1036 002 1012 1114 0022 1045 00b 10a 006 12d 0013 0d38 15 18 006 0da 006 1b14 001c 111a",
   "14 002 11f 004 1110 187 00b9 143c 0064 1053 00c 10 177 002 17 002 178 00 172 00 171e 00 172",
   "002 17c 009 17a 0046 158 002 152e 002 15b 001b 1348 008 1334 152 1317 14 135 00d 1810 1039",
   "007 19a 00b6 1b22 00e 1ba 006 129 00 122d 00 12e 00a 121d 003 1220 002 1216 00 12e 0049 137",
   "00 132 00 132c 003 13 00 132 00 139 008 13a 006 146 00 142 00 1425 00 142 00 146 007 14a",
   "00136 1419 007 1911 00 1929 003 191c 1b 0055 17 00f 1532 00d 15 0936f 102a 11 0066 0963 10c",
   "00 094 10 00b 11c4 00a4c 1863 00d 0b42f 19 159 191d 00a 1bf9b 005 11247 001ab9 1b3a 006c6",
   "0c239 007 101f 00 10a 004 102 184f 00 18a 006 101e 002 106 00a 1046 00a 10a 00 107 00 1015",
   "005 1013 001b0 1b3a 00c6 145b 0065 0d45 156 004 15 0d2f 159 007 0d11 0040 12 13 152 17 00b",
   "172 00e 1217ed 145 156 008 122f3 171e3 0029 1b 179 0022e7 184 00 187 00 182 00 0c2 1311d 184",
   "00f 19 001d 153 002 19 00e 154 008 1318c 00904 106b 005 10d 003 109 007 10a 002 108 00f5c",
   "1bfa 006 1b1b4 004c 182e 002 1817 009 1874 003c 05f6 00a 0527 002 0a 05b4 11b 182 0015 0846",
   "007a 1914 00c 1414 00c 0757 009 0912 147 0087 0555 00 0547 00 052 002 05 002 052 002 054 00",
   "05c 00 05 00 054 07 052 00 0541 00 054 002 058 00 057 00 051c 00 054 00 055 00 05 003 057 00",
   "05152 082 002 05122 092 002 0532 1128c 00f 115 00 11f 00450 181f 006 196 00d5 127 00 1211 002",
   "127 00 122 00 125 005 193e 0021 19 0070 152d 003 15e 002 15a 004 152 00140 181f 0011 153a 005",
   "15 001d0 192a 00d6 1b2b 004 1b 001e0 187 00 184 00 182 00 18f 00 10c5 002 1010 0029 124b 15",
   "004 12a 004 122 00311 1444 004c 153d 00c2 0d4 00 0d1b 00 0d2 00 0d 002 0d 00 0da 00 0d4 00 0d",
   "00 0d 006 0d 004 0d 00 0d 00 0d 00 0d3 00 0d2 00 0d 002 0d 00 0d 00 0d 00 0d 00 0d 00 0d2 00",
   "0d 002 0d4 00 0d7 00 0d4 00 0d4 00 0d 00 0da 00 0d11 005 0d3 00 0d5 00 0d11 0034 0d2 0010e",
   "0a2c 004 0a64 00c 0cf 002 0ce 10 00 0cf 00 0cf 1016 00a 0bb 102 173 0b1f 14 0c 0b 0cb 0b 0c",
   "0b 0c2 0b 0c3 0b 0c3 0b5 0c8 0b 0c7 0b 0ca 0d2 15 173 0c9 0b 0c 0b2 0c2 0b 0ca 0b4 0c2 0b 0ca",
   "1212 17 0038 0c1a 0b 0c2 00d 0b22 0c9 12 004 0b9 007 0c2 00e 136 009a 0c21 10c 113 0c6 10",
   "0c46 10 112 0c14 10c 0c25 10 0c5 104 115 10c 0c11 107 118 0c3f 10 0c 10 0cb6 10 0c4 102 11",
   "0c3e 102 0d4 107 115 0c18 1012 12 1029 12 1056 0c5 0d 0c10 0d 0c3 0d 0c 0d 0c 0d 0c 0d 0c3 0d",
   "0c6 0d2 0c4 0d 0c 0d2 0c4 0d 0cc 102 112 0cb 1030 0c46 10a 11 122 132 15 172 004 19 183 10d",
   "003 104 123 132 14 15 172 003 0c74 193 004 195 1055 144 19 006 15c 004 18 00f 10c 004 1038",
   "008 10a 006 1028 008 101e 002 172 1ba 004 1b2 003e 13c 17 153 119 126 13 128 138 12 132 12c",
   "15 12c 13 143 12f 13d 145 15 17 144 172 18 14 15 144 115 12d 136 14b 172 156 173 152 14a 156",
   "11 142 158 17 18 153 1317 1419 1554 00c 14e 002 154 17 193 153 182 003 153 174 192 1b 005 1b",
   "156 1713 184 193 177 184 193 1b 19 173 183 1b 007 192 177 183 192 1b 002 1b 188 19 1b 006 187",
   "192 007 1793 00 1737 1b25 17a 00404 022 05a6d7 177 182 0020 0b1035 184 19 006 0cde 002 111682",
   "00e 131d31 00f 1a26e 009a2 0521e 005e0 022 17134b 005 191060 00dc4e 022 00fffe 022 00fffe 022",
   "00fffe 022 00fffe 022 00fffe 022 00fffe 022 00fffe 022 00fffe 022 00fffe 022 00fffe 022 00 05",
   "001e 0560 0080 07f0 00fe0e 0220002"]

/-- The position of a version, counted from one. It is named by its number, or by `v` and the
number without the point. -/
def agePosition? (name : String) : Option Nat :=
  (ageVersions.findIdx? (fun version =>
    name == version || name.toList == 'v' :: version.toList.filter (· != '.'))).map (· + 1)

def ageSet (position : Nat) : CharSet :=
  runSet ageRuns (fun code =>
    let age := hexValue code.toList
    0 < age && age ≤ position)

end Flowbook.Character
