import Tabula.Text.Ranges
/-! # Grapheme clusters

    A text is cut into the clusters a reader sees as one character, by the boundary
    rules of extended grapheme clusters: a carriage return and a line feed stay together;
    controls stand alone; a combining mark, a spacing mark, a joiner, a skin-tone
    modifier or a Hangul vowel or final consonant joins the cluster before it; a
    pictograph after a joiner that follows a pictograph joins too; regional indicators
    pair up into flags.  Every other pair of neighbours is a boundary. -/

namespace Tabula.Text

/-- Characters that join the cluster before them: grapheme extenders, spacing marks, the
    zero width joiner, skin-tone modifiers and the Hangul medial and final jamo. -/
def joinsTable : RangeTable := RangeTable.ofHex <|
  "300 36f 483 489 591 5bd 5bf 5bf 5c1 5c2 5c4 5c5 5c7 5c7 610 61a 64b 65f 670 670 " ++
    "6d6 6dc 6df 6e4 6e7 6e8 6ea 6ed 711 711 730 74a 7a6 7b0 7eb 7f3 7fd 7fd 816 819 " ++
    "81b 823 825 827 829 82d 859 85b 898 89f 8ca 8e1 8e3 903 93a 93c 93e 94f 951 957 " ++
    "962 963 981 983 9bc 9bc 9be 9cd 9d7 9d7 9e2 9e3 9fe a03 a3c a51 a70 a71 a75 a75 " ++
    "a81 a83 abc abc abe acd ae2 ae3 afa b03 b3c b3c b3e b57 b62 b63 b82 b82 bbe bcd " ++
    "bd7 bd7 c00 c04 c3c c3c c3e c56 c62 c63 c81 c83 cbc cbc cbe cd6 ce2 ce3 d00 d03 " ++
    "d3b d3c d3e d4d d57 d57 d62 d63 d81 d83 dca ddf df2 df3 e31 e31 e33 e3a e47 e4e " ++
    "eb1 eb1 eb3 ebc ec8 ecd f18 f19 f35 f35 f37 f37 f39 f39 f3e f3f f71 f84 f86 f87 " ++
    "f8d fbc fc6 fc6 102b 103e 1056 1059 105e 1060 1062 1064 1067 106d 1071 1074 " ++
    "1082 108d 108f 108f 109a 109d 1160 11ff 135d 135f 1712 1715 1732 1734 1752 1753 " ++
    "1772 1773 17b4 17d3 17dd 17dd 180b 180d 180f 180f 1885 1886 18a9 18a9 1920 193b " ++
    "1a17 1a1b 1a55 1a7f 1ab0 1b04 1b34 1b44 1b6b 1b73 1b80 1b82 1ba1 1bad 1be6 1bf3 " ++
    "1c24 1c37 1cd0 1cd2 1cd4 1ce8 1ced 1ced 1cf4 1cf4 1cf7 1cf9 1dc0 1dff 200c 200d " ++
    "20d0 20f0 2cef 2cf1 2d7f 2d7f 2de0 2dff 302a 302f 3099 309a a66f a672 a674 a67d " ++
    "a69e a69f a6f0 a6f1 a802 a802 a806 a806 a80b a80b a823 a827 a82c a82c a880 a881 " ++
    "a8b4 a8c5 a8e0 a8f1 a8ff a8ff a926 a92d a947 a953 a980 a983 a9b3 a9c0 a9e5 a9e5 " ++
    "aa29 aa36 aa43 aa43 aa4c aa4d aa7b aa7d aab0 aab0 aab2 aab4 aab7 aab8 aabe aabf " ++
    "aac1 aac1 aaeb aaef aaf5 aaf6 abe3 abea abec abed d7b0 d7fb fb1e fb1e fe00 fe0f " ++
    "fe20 fe2f ff9e ff9f 101fd 101fd 102e0 102e0 10376 1037a 10a01 10a0f 10a38 10a3f " ++
    "10ae5 10ae6 10d24 10d27 10eab 10eac 10f46 10f50 10f82 10f85 11000 11002 11038 11046 " ++
    "11070 11070 11073 11074 1107f 11082 110b0 110ba 110c2 110c2 11100 11102 11127 11134 " ++
    "11145 11146 11173 11173 11180 11182 111b3 111c0 111c9 111cc 111ce 111cf 1122c 11237 " ++
    "1123e 1123e 112df 112ea 11300 11303 1133b 1133c 1133e 1134d 11357 11357 11362 11374 " ++
    "11435 11446 1145e 1145e 114b0 114c3 115af 115c0 115dc 115dd 11630 11640 116ab 116b7 " ++
    "1171d 1172b 1182c 1183a 11930 1193e 11940 11940 11942 11943 119d1 119e0 119e4 119e4 " ++
    "11a01 11a0a 11a33 11a39 11a3b 11a3e 11a47 11a47 11a51 11a5b 11a8a 11a99 11c2f 11c3f " ++
    "11c92 11cb6 11d31 11d45 11d47 11d47 11d8a 11d97 11ef3 11ef6 16af0 16af4 16b30 16b36 " ++
    "16f4f 16f4f 16f51 16f92 16fe4 16ff1 1bc9d 1bc9e 1cf00 1cf46 1d165 1d169 1d16d 1d172 " ++
    "1d17b 1d182 1d185 1d18b 1d1aa 1d1ad 1d242 1d244 1da00 1da36 1da3b 1da6c 1da75 1da75 " ++
    "1da84 1da84 1da9b 1daaf 1e000 1e02a 1e130 1e136 1e2ae 1e2ae 1e2ec 1e2ef 1e8d0 1e8d6 " ++
    "1e944 1e94a 1f3fb 1f3ff e0020 e01ef"

/-- Pictographic characters, which chain through zero width joiners. -/
def pictographTable : RangeTable := RangeTable.ofHex <|
  "a9 a9 ae ae 203c 203c 2049 2049 2122 2122 2139 2139 2194 2199 21a9 21aa 231a 231b " ++
    "2328 2328 2388 2388 23cf 23cf 23e9 23f3 23f8 23fa 24c2 24c2 25aa 25ab 25b6 25b6 " ++
    "25c0 25c0 25fb 25fe 2600 2605 2607 2612 2614 2685 2690 2705 2708 2712 2714 2714 " ++
    "2716 2716 271d 271d 2721 2721 2728 2728 2733 2734 2744 2744 2747 2747 274c 274c " ++
    "274e 274e 2753 2755 2757 2757 2763 2767 2795 2797 27a1 27a1 27b0 27b0 27bf 27bf " ++
    "2934 2935 2b05 2b07 2b1b 2b1c 2b50 2b50 2b55 2b55 3030 3030 303d 303d 3297 3297 " ++
    "3299 3299 1f000 1f0ff 1f10d 1f10f 1f12f 1f12f 1f16c 1f171 1f17e 1f17f 1f18e 1f18e " ++
    "1f191 1f19a 1f1ad 1f1e5 1f201 1f20f 1f21a 1f21a 1f22f 1f22f 1f232 1f23a 1f23c 1f23f " ++
    "1f249 1f3fa 1f400 1f53d 1f546 1f64f 1f680 1f6ff 1f774 1f77f 1f7d5 1f7ff 1f80c 1f80f " ++
    "1f848 1f84f 1f85a 1f85f 1f888 1f88f 1f8ae 1f8ff 1f90c 1f93a 1f93c 1f945 1f947 1faff " ++
    "1fc00 1fffd"

/-- Whether a character is a regional indicator, half of a flag. -/
def isRegionalIndicator (c : Char) : Bool := 0x1F1E6 ≤ c.toNat && c.toNat ≤ 0x1F1FF

/-- Whether a character stands alone as a cluster: controls, line and paragraph
    separators, and invisible format marks. -/
def standsAlone (c : Char) : Bool :=
  c.toNat < 0x20 || (0x7F ≤ c.toNat && c.toNat < 0xA0) || c.toNat == 0x2028
    || c.toNat == 0x2029 || c.toNat == 0xFEFF || c.toNat == 0x200B || c.toNat == 0x200E
    || c.toNat == 0x200F

/-- What the cutter remembers of the cluster being built: whether it holds a pictograph
    followed only by extenders, whether it ends in a joiner after one, and how many
    regional indicators end it. -/
structure ClusterState where
  pictograph : Bool := false
  joined : Bool := false
  indicators : Nat := 0

/-- Whether a boundary falls between the last character of a cluster and the next. -/
def breaksBefore (prev c : Char) (s : ClusterState) : Bool :=
  if prev == '\r' && c == '\n' then false
  else if standsAlone prev || standsAlone c then true
  else if joinsTable.contains c then false
  else if s.joined && pictographTable.contains c then false
  else if isRegionalIndicator prev && isRegionalIndicator c && s.indicators % 2 == 1 then false
  else true

/-- The state after a character is added to a cluster. -/
def ClusterState.push (s : ClusterState) (c : Char) (fresh : Bool) : ClusterState :=
  let s : ClusterState := if fresh then {} else s
  let pic := pictographTable.contains c
  { pictograph := pic || (s.pictograph && joinsTable.contains c && c.toNat != 0x200D)
    joined := s.pictograph && c.toNat == 0x200D
    indicators := if isRegionalIndicator c then s.indicators + 1 else 0 }

/-- Cuts characters into clusters; `current` is the cluster being built, reversed. -/
def clustersFrom (current : List Char) (s : ClusterState) : List Char → List (List Char)
  | [] => if current.isEmpty then [] else [current.reverse]
  | c :: rest =>
    match current with
    | [] => clustersFrom [c] (s.push c true) rest
    | prev :: _ =>
      if breaksBefore prev c s then current.reverse :: clustersFrom [c] (s.push c true) rest
      else clustersFrom (c :: current) (s.push c false) rest

/-- The grapheme clusters of a text, in order. -/
def graphemes (s : String) : List String :=
  (clustersFrom [] {} s.toList).map String.ofList

end Tabula.Text
