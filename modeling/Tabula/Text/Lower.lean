import Tabula.Text.Ranges
/-! # Lowercase

    Full Unicode lowercasing of a text.  Each character maps through the simple lowercase
    table, capital I with dot above maps to `i` followed by a combining dot above, and
    capital sigma becomes the final form `ς` where it ends a word: some cased letter stands
    before it, past any case-ignorable characters, and none stands after it.

    * `lowerChar` maps one character by the table;
    * `lower` maps a text, with the rule for the final sigma. -/

namespace Tabula.Text

/-- A run of characters whose lowercase form lies a fixed distance away: every
    `stride`-th code point from `first` to `last` maps to itself plus `shift`. -/
structure CaseRun where
  first : Nat
  last : Nat
  shift : Int
  stride : Nat

/-- A signed hexadecimal number, `+1f` or `-79`. -/
def signedHex (w : String) : Int :=
  if w.startsWith "-" then -(RangeTable.hexValue w : Int) else RangeTable.hexValue w

/-- Groups of four words read as runs: first, last, signed shift, stride. -/
def CaseRun.ofWords : List String → List CaseRun
  | a :: b :: d :: s :: rest =>
    ⟨RangeTable.hexValue a, RangeTable.hexValue b, signedHex d, RangeTable.hexValue s⟩
      :: CaseRun.ofWords rest
  | _ => []

/-- The simple lowercase mappings of the Unicode character database, four words a run. -/
def lowerRunText : String :=
  "41 5a +20 1 c0 d6 +20 1 d8 de +20 1 100 12e +1 2 132 136 +1 2 139 147 +1 2 14a 176 +1 2 " ++
    "178 178 -79 1 179 17d +1 2 181 181 +d2 1 182 184 +1 2 186 186 +ce 1 187 187 +1 1 " ++
    "189 18a +cd 1 18b 18b +1 1 18e 18e +4f 1 18f 18f +ca 1 190 190 +cb 1 191 191 +1 1 " ++
    "193 193 +cd 1 194 194 +cf 1 196 196 +d3 1 197 197 +d1 1 198 198 +1 1 19c 19c +d3 1 " ++
    "19d 19d +d5 1 19f 19f +d6 1 1a0 1a4 +1 2 1a6 1a6 +da 1 1a7 1a7 +1 1 1a9 1a9 +da 1 " ++
    "1ac 1ac +1 1 1ae 1ae +da 1 1af 1af +1 1 1b1 1b2 +d9 1 1b3 1b5 +1 2 1b7 1b7 +db 1 " ++
    "1b8 1b8 +1 1 1bc 1bc +1 1 1c4 1c4 +2 1 1c5 1c5 +1 1 1c7 1c7 +2 1 1c8 1c8 +1 1 1ca 1ca +2 1 " ++
    "1cb 1db +1 2 1de 1ee +1 2 1f1 1f1 +2 1 1f2 1f4 +1 2 1f6 1f6 -61 1 1f7 1f7 -38 1 " ++
    "1f8 21e +1 2 220 220 -82 1 222 232 +1 2 23a 23a +2a2b 1 23b 23b +1 1 23d 23d -a3 1 " ++
    "23e 23e +2a28 1 241 241 +1 1 243 243 -c3 1 244 244 +45 1 245 245 +47 1 246 24e +1 2 " ++
    "370 372 +1 2 376 376 +1 1 37f 37f +74 1 386 386 +26 1 388 38a +25 1 38c 38c +40 1 " ++
    "38e 38f +3f 1 391 3a1 +20 1 3a3 3ab +20 1 3cf 3cf +8 1 3d8 3ee +1 2 3f4 3f4 -3c 1 " ++
    "3f7 3f7 +1 1 3f9 3f9 -7 1 3fa 3fa +1 1 3fd 3ff -82 1 400 40f +50 1 410 42f +20 1 " ++
    "460 480 +1 2 48a 4be +1 2 4c0 4c0 +f 1 4c1 4cd +1 2 4d0 52e +1 2 531 556 +30 1 " ++
    "10a0 10c5 +1c60 1 10c7 10c7 +1c60 1 10cd 10cd +1c60 1 13a0 13ef +97d0 1 13f0 13f5 +8 1 " ++
    "1c90 1cba -bc0 1 1cbd 1cbf -bc0 1 1e00 1e94 +1 2 1e9e 1e9e -1dbf 1 1ea0 1efe +1 2 " ++
    "1f08 1f0f -8 1 1f18 1f1d -8 1 1f28 1f2f -8 1 1f38 1f3f -8 1 1f48 1f4d -8 1 1f59 1f5f -8 2 " ++
    "1f68 1f6f -8 1 1f88 1f8f -8 1 1f98 1f9f -8 1 1fa8 1faf -8 1 1fb8 1fb9 -8 1 1fba 1fbb -4a 1 " ++
    "1fbc 1fbc -9 1 1fc8 1fcb -56 1 1fcc 1fcc -9 1 1fd8 1fd9 -8 1 1fda 1fdb -64 1 " ++
    "1fe8 1fe9 -8 1 1fea 1feb -70 1 1fec 1fec -7 1 1ff8 1ff9 -80 1 1ffa 1ffb -7e 1 " ++
    "1ffc 1ffc -9 1 2126 2126 -1d5d 1 212a 212a -20bf 1 212b 212b -2046 1 2132 2132 +1c 1 " ++
    "2160 216f +10 1 2183 2183 +1 1 24b6 24cf +1a 1 2c00 2c2f +30 1 2c60 2c60 +1 1 " ++
    "2c62 2c62 -29f7 1 2c63 2c63 -ee6 1 2c64 2c64 -29e7 1 2c67 2c6b +1 2 2c6d 2c6d -2a1c 1 " ++
    "2c6e 2c6e -29fd 1 2c6f 2c6f -2a1f 1 2c70 2c70 -2a1e 1 2c72 2c72 +1 1 2c75 2c75 +1 1 " ++
    "2c7e 2c7f -2a3f 1 2c80 2ce2 +1 2 2ceb 2ced +1 2 2cf2 2cf2 +1 1 a640 a66c +1 2 " ++
    "a680 a69a +1 2 a722 a72e +1 2 a732 a76e +1 2 a779 a77b +1 2 a77d a77d -8a04 1 " ++
    "a77e a786 +1 2 a78b a78b +1 1 a78d a78d -a528 1 a790 a792 +1 2 a796 a7a8 +1 2 " ++
    "a7aa a7aa -a544 1 a7ab a7ab -a54f 1 a7ac a7ac -a54b 1 a7ad a7ad -a541 1 a7ae a7ae -a544 1 " ++
    "a7b0 a7b0 -a512 1 a7b1 a7b1 -a52a 1 a7b2 a7b2 -a515 1 a7b3 a7b3 +3a0 1 a7b4 a7c2 +1 2 " ++
    "a7c4 a7c4 -30 1 a7c5 a7c5 -a543 1 a7c6 a7c6 -8a38 1 a7c7 a7c9 +1 2 a7d0 a7d0 +1 1 " ++
    "a7d6 a7d8 +1 2 a7f5 a7f5 +1 1 ff21 ff3a +20 1 10400 10427 +28 1 104b0 104d3 +28 1 " ++
    "10570 1057a +27 1 1057c 1058a +27 1 1058c 10592 +27 1 10594 10595 +27 1 10c80 10cb2 +40 1 " ++
    "118a0 118bf +20 1 16e40 16e5f +20 1 1e900 1e921 +22 1"

/-- The simple lowercase mappings as runs. -/
def lowerRuns : List CaseRun :=
  CaseRun.ofWords ((lowerRunText.splitOn " ").filter (fun w => !w.isEmpty))

/-- Characters with the Unicode property `Cased`. -/
def casedTable : RangeTable := RangeTable.ofHex <|
  "41 5a 61 7a aa aa b5 b5 ba ba c0 d6 d8 f6 f8 1ba 1bc 1bf 1c4 293 295 2b8 2c0 2c1 2e0 2e4 " ++
    "345 345 370 373 376 37d 37f 37f 386 386 388 3f5 3f7 481 48a 556 560 588 10a0 10fa " ++
    "10fd 10ff 13a0 13fd 1c80 1cbf 1d00 1dbf 1e00 1fbc 1fbe 1fbe 1fc2 1fcc 1fd0 1fdb 1fe0 1fec " ++
    "1ff2 1ffc 2071 2071 207f 207f 2090 209c 2102 2102 2107 2107 210a 2113 2115 2115 2119 211d " ++
    "2124 2124 2126 2126 2128 2128 212a 212d 212f 2134 2139 2139 213c 213f 2145 2149 214e 214e " ++
    "2160 217f 2183 2184 24b6 24e9 2c00 2ce4 2ceb 2cee 2cf2 2cf3 2d00 2d2d a640 a66d a680 a69d " ++
    "a722 a787 a78b a78e a790 a7d9 a7f5 a7f6 a7f8 a7fa ab30 ab5a ab5c ab68 ab70 abbf fb00 fb17 " ++
    "ff21 ff3a ff41 ff5a 10400 1044f 104b0 104fb 10570 105bc 10c80 10cf2 118a0 118df " ++
    "16e40 16e7f 1d400 1d6c0 1d6c2 1d6da 1d6dc 1d6fa 1d6fc 1d714 1d716 1d734 1d736 1d74e " ++
    "1d750 1d76e 1d770 1d788 1d78a 1d7a8 1d7aa 1d7c2 1d7c4 1d7cb 1df00 1df09 1df0b 1df1e " ++
    "1e900 1e943 1f130 1f149 1f150 1f169 1f170 1f189"

/-- Characters with the Unicode property `Case_Ignorable`. -/
def caseIgnorableTable : RangeTable := RangeTable.ofHex <|
  "27 27 2e 2e 3a 3a 5e 5e 60 60 a8 a8 ad ad af af b4 b4 b7 b8 2b0 36f 374 375 37a 37a " ++
    "384 385 387 387 483 489 559 559 591 5bd 5bf 5bf 5c1 5c2 5c4 5c5 5c7 5c7 5f4 605 610 61a " ++
    "61c 61c 640 640 64b 65f 670 670 6d6 6dd 6df 6e8 6ea 6ed 70f 70f 711 711 730 74a 7a6 7b0 " ++
    "7eb 7f5 7fa 7fd 816 82d 859 85b 888 888 890 89f 8c9 902 93a 93a 93c 93c 941 948 94d 94d " ++
    "951 957 962 963 971 971 981 981 9bc 9bc 9c1 9c4 9cd 9cd 9e2 9e3 9fe a02 a3c a3c a41 a51 " ++
    "a70 a71 a75 a75 a81 a82 abc abc ac1 ac8 acd acd ae2 ae3 afa b01 b3c b3c b3f b3f b41 b44 " ++
    "b4d b56 b62 b63 b82 b82 bc0 bc0 bcd bcd c00 c00 c04 c04 c3c c3c c3e c40 c46 c56 c62 c63 " ++
    "c81 c81 cbc cbc cbf cbf cc6 cc6 ccc ccd ce2 ce3 d00 d01 d3b d3c d41 d44 d4d d4d d62 d63 " ++
    "d81 d81 dca dca dd2 dd6 e31 e31 e34 e3a e46 e4e eb1 eb1 eb4 ebc ec6 ecd f18 f19 f35 f35 " ++
    "f37 f37 f39 f39 f71 f7e f80 f84 f86 f87 f8d fbc fc6 fc6 102d 1030 1032 1037 1039 103a " ++
    "103d 103e 1058 1059 105e 1060 1071 1074 1082 1082 1085 1086 108d 108d 109d 109d 10fc 10fc " ++
    "135d 135f 1712 1714 1732 1733 1752 1753 1772 1773 17b4 17b5 17b7 17bd 17c6 17c6 17c9 17d3 " ++
    "17d7 17d7 17dd 17dd 180b 180f 1843 1843 1885 1886 18a9 18a9 1920 1922 1927 1928 1932 1932 " ++
    "1939 193b 1a17 1a18 1a1b 1a1b 1a56 1a56 1a58 1a60 1a62 1a62 1a65 1a6c 1a73 1a7f 1aa7 1aa7 " ++
    "1ab0 1b03 1b34 1b34 1b36 1b3a 1b3c 1b3c 1b42 1b42 1b6b 1b73 1b80 1b81 1ba2 1ba5 1ba8 1ba9 " ++
    "1bab 1bad 1be6 1be6 1be8 1be9 1bed 1bed 1bef 1bf1 1c2c 1c33 1c36 1c37 1c78 1c7d 1cd0 1cd2 " ++
    "1cd4 1ce0 1ce2 1ce8 1ced 1ced 1cf4 1cf4 1cf8 1cf9 1d2c 1d6a 1d78 1d78 1d9b 1dff 1fbd 1fbd " ++
    "1fbf 1fc1 1fcd 1fcf 1fdd 1fdf 1fed 1fef 1ffd 1ffe 200b 200f 2018 2019 2024 2024 2027 2027 " ++
    "202a 202e 2060 206f 2071 2071 207f 207f 2090 209c 20d0 20f0 2c7c 2c7d 2cef 2cf1 2d6f 2d6f " ++
    "2d7f 2d7f 2de0 2dff 2e2f 2e2f 3005 3005 302a 302d 3031 3035 303b 303b 3099 309e 30fc 30fe " ++
    "a015 a015 a4f8 a4fd a60c a60c a66f a672 a674 a67d a67f a67f a69c a69f a6f0 a6f1 a700 a721 " ++
    "a770 a770 a788 a78a a7f2 a7f4 a7f8 a7f9 a802 a802 a806 a806 a80b a80b a825 a826 a82c a82c " ++
    "a8c4 a8c5 a8e0 a8f1 a8ff a8ff a926 a92d a947 a951 a980 a982 a9b3 a9b3 a9b6 a9b9 a9bc a9bd " ++
    "a9cf a9cf a9e5 a9e6 aa29 aa2e aa31 aa32 aa35 aa36 aa43 aa43 aa4c aa4c aa70 aa70 aa7c aa7c " ++
    "aab0 aab0 aab2 aab4 aab7 aab8 aabe aabf aac1 aac1 aadd aadd aaec aaed aaf3 aaf4 aaf6 aaf6 " ++
    "ab5b ab5f ab69 ab6b abe5 abe5 abe8 abe8 abed abed fb1e fb1e fbb2 fbc2 fe00 fe0f fe13 fe13 " ++
    "fe20 fe2f fe52 fe52 fe55 fe55 feff feff ff07 ff07 ff0e ff0e ff1a ff1a ff3e ff3e ff40 ff40 " ++
    "ff70 ff70 ff9e ff9f ffe3 ffe3 fff9 fffb 101fd 101fd 102e0 102e0 10376 1037a 10780 107ba " ++
    "10a01 10a0f 10a38 10a3f 10ae5 10ae6 10d24 10d27 10eab 10eac 10f46 10f50 10f82 10f85 " ++
    "11001 11001 11038 11046 11070 11070 11073 11074 1107f 11081 110b3 110b6 110b9 110ba " ++
    "110bd 110bd 110c2 110cd 11100 11102 11127 1112b 1112d 11134 11173 11173 11180 11181 " ++
    "111b6 111be 111c9 111cc 111cf 111cf 1122f 11231 11234 11234 11236 11237 1123e 1123e " ++
    "112df 112df 112e3 112ea 11300 11301 1133b 1133c 11340 11340 11366 11374 11438 1143f " ++
    "11442 11444 11446 11446 1145e 1145e 114b3 114b8 114ba 114ba 114bf 114c0 114c2 114c3 " ++
    "115b2 115b5 115bc 115bd 115bf 115c0 115dc 115dd 11633 1163a 1163d 1163d 1163f 11640 " ++
    "116ab 116ab 116ad 116ad 116b0 116b5 116b7 116b7 1171d 1171f 11722 11725 11727 1172b " ++
    "1182f 11837 11839 1183a 1193b 1193c 1193e 1193e 11943 11943 119d4 119db 119e0 119e0 " ++
    "11a01 11a0a 11a33 11a38 11a3b 11a3e 11a47 11a47 11a51 11a56 11a59 11a5b 11a8a 11a96 " ++
    "11a98 11a99 11c30 11c3d 11c3f 11c3f 11c92 11ca7 11caa 11cb0 11cb2 11cb3 11cb5 11cb6 " ++
    "11d31 11d45 11d47 11d47 11d90 11d91 11d95 11d95 11d97 11d97 11ef3 11ef4 13430 13438 " ++
    "16af0 16af4 16b30 16b36 16b40 16b43 16f4f 16f4f 16f8f 16fe1 16fe3 16fe4 1aff0 1affe " ++
    "1bc9d 1bc9e 1bca0 1cf46 1d167 1d169 1d173 1d182 1d185 1d18b 1d1aa 1d1ad 1d242 1d244 " ++
    "1da00 1da36 1da3b 1da6c 1da75 1da75 1da84 1da84 1da9b 1daaf 1e000 1e02a 1e130 1e13d " ++
    "1e2ae 1e2ae 1e2ec 1e2ef 1e8d0 1e8d6 1e944 1e94b 1f3fb 1f3ff e0001 e01ef"

/-- The run that maps a code point, if one does. -/
def CaseRun.covers (r : CaseRun) (n : Nat) : Bool :=
  r.first ≤ n && n ≤ r.last && (n - r.first) % r.stride == 0

/-- The simple lowercase form of a character. -/
def lowerChar (c : Char) : Char :=
  if c.toNat < 0x80 then c.toLower
  else match lowerRuns.find? (·.covers c.toNat) with
    | some r => Char.ofNat (c.toNat + r.shift).toNat
    | none => c

/-- Whether the first character that is not case-ignorable is cased. -/
def casedAfterIgnorable (cs : List Char) : Bool :=
  match cs.dropWhile caseIgnorableTable.contains with
  | c :: _ => casedTable.contains c
  | [] => false

/-- Lowercase of the characters `rest`, where `before` holds the characters already
    passed, nearest first. -/
def lowerFrom (before : List Char) : List Char → List Char
  | [] => []
  | c :: rest =>
    let here :=
      if c = 'Σ' then
        if casedAfterIgnorable before && !casedAfterIgnorable rest then ['ς'] else ['σ']
      else if c.toNat = 0x130 then ['i', Char.ofNat 0x307]
      else [lowerChar c]
    here ++ lowerFrom (c :: before) rest

/-- The full Unicode lowercase form of a text. -/
def lower (s : String) : String :=
  String.ofList (lowerFrom [] s.toList)

end Tabula.Text
