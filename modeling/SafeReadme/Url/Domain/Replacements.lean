import SafeReadme.Text.Basic

/-!
# Characters of domains

What a character becomes in a domain: nothing, itself, other characters that mean the same, or it
cannot be there.
-/

namespace SafeReadme.Url.Domain

/-- Runs of characters that stay (`v`), that are left out (`i`) and that cannot be there (`x`).
Characters that are replaced count as part of the run around them. -/
def statusRuns : List (Nat × String) :=
  Text.Runs.read [
    "0 v 80 x a1 v ad i ae v 34f i 350 v 378 x 37b v 380 x 390 v 3a2 x 3ac v 530 x 559 v 58b x",
    "58d v 590 x 591 v 5c8 x 5d0 v 5eb x 5ef v 5f5 x 606 v 61c x 61d v 6dd x 6de v 70e x 710 v",
    "74b x 74d v 7b2 x 7c0 v 7fb x 7fd v 82e x 830 v 83f x 840 v 85c x 85e v 85f x 860 v 86b x",
    "870 v 890 x 897 v 8e2 x 8e3 v 984 x 985 v 98d x 98f v 991 x 993 v 9a9 x 9aa v 9b1 x 9b2 v",
    "9b3 x 9b6 v 9ba x 9bc v 9c5 x 9c7 v 9c9 x 9cb v 9cf x 9d7 v 9d8 x 9e0 v 9e4 x 9e6 v 9ff x",
    "a01 v a04 x a05 v a0b x a0f v a11 x a13 v a29 x a2a v a31 x a32 v a34 x a35 v a37 x a38 v",
    "a3a x a3c v a3d x a3e v a43 x a47 v a49 x a4b v a4e x a51 v a52 x a5c v a5d x a66 v a77 x",
    "a81 v a84 x a85 v a8e x a8f v a92 x a93 v aa9 x aaa v ab1 x ab2 v ab4 x ab5 v aba x abc v",
    "ac6 x ac7 v aca x acb v ace x ad0 v ad1 x ae0 v ae4 x ae6 v af2 x af9 v b00 x b01 v b04 x",
    "b05 v b0d x b0f v b11 x b13 v b29 x b2a v b31 x b32 v b34 x b35 v b3a x b3c v b45 x b47 v",
    "b49 x b4b v b4e x b55 v b58 x b5f v b64 x b66 v b78 x b82 v b84 x b85 v b8b x b8e v b91 x",
    "b92 v b96 x b99 v b9b x b9c v b9d x b9e v ba0 x ba3 v ba5 x ba8 v bab x bae v bba x bbe v",
    "bc3 x bc6 v bc9 x bca v bce x bd0 v bd1 x bd7 v bd8 x be6 v bfb x c00 v c0d x c0e v c11 x",
    "c12 v c29 x c2a v c3a x c3c v c45 x c46 v c49 x c4a v c4e x c55 v c57 x c58 v c5b x c5c v",
    "c5e x c60 v c64 x c66 v c70 x c77 v c8d x c8e v c91 x c92 v ca9 x caa v cb4 x cb5 v cba x",
    "cbc v cc5 x cc6 v cc9 x cca v cce x cd5 v cd7 x cdc v cdf x ce0 v ce4 x ce6 v cf0 x cf1 v",
    "cf4 x d00 v d0d x d0e v d11 x d12 v d45 x d46 v d49 x d4a v d50 x d54 v d64 x d66 v d80 x",
    "d81 v d84 x d85 v d97 x d9a v db2 x db3 v dbc x dbd v dbe x dc0 v dc7 x dca v dcb x dcf v",
    "dd5 x dd6 v dd7 x dd8 v de0 x de6 v df0 x df2 v df5 x e01 v e3b x e3f v e5c x e81 v e83 x",
    "e84 v e85 x e86 v e8b x e8c v ea4 x ea5 v ea6 x ea7 v ebe x ec0 v ec5 x ec6 v ec7 x ec8 v",
    "ecf x ed0 v eda x ede v ee0 x f00 v f48 x f49 v f6d x f71 v f98 x f99 v fbd x fbe v fcd x",
    "fce v fdb x 1000 v 10c6 x 10d0 v 115f i 1161 v 1249 x 124a v 124e x 1250 v 1257 x 1258 v",
    "1259 x 125a v 125e x 1260 v 1289 x 128a v 128e x 1290 v 12b1 x 12b2 v 12b6 x 12b8 v 12bf x",
    "12c0 v 12c1 x 12c2 v 12c6 x 12c8 v 12d7 x 12d8 v 1311 x 1312 v 1316 x 1318 v 135b x 135d v",
    "137d x 1380 v 139a x 13a0 v 13f6 x 1400 v 1680 x 1681 v 169d x 16a0 v 16f9 x 1700 v 1716 x",
    "171f v 1737 x 1740 v 1754 x 1760 v 176d x 176e v 1771 x 1772 v 1774 x 1780 v 17b4 i 17b6 v",
    "17de x 17e0 v 17ea x 17f0 v 17fa x 1800 v 180b i 1810 v 181a x 1820 v 1879 x 1880 v 18ab x",
    "18b0 v 18f6 x 1900 v 191f x 1920 v 192c x 1930 v 193c x 1940 v 1941 x 1944 v 196e x 1970 v",
    "1975 x 1980 v 19ac x 19b0 v 19ca x 19d0 v 19db x 19de v 1a1c x 1a1e v 1a5f x 1a60 v 1a7d x",
    "1a7f v 1a8a x 1a90 v 1a9a x 1aa0 v 1aae x 1ab0 v 1ade x 1ae0 v 1aec x 1b00 v 1b4d x 1b4e v",
    "1bf4 x 1bfc v 1c38 x 1c3b v 1c4a x 1c4d v 1c8b x 1cc0 v 1cc8 x 1cd0 v 1cfb x 1d00 v 1f16 x",
    "1f20 v 1f46 x 1f50 v 1f58 x 1f60 v 1f7e x 1fb0 v 1fb5 x 1fb6 v 1fc5 x 1fc6 v 1fd4 x 1fd6 v",
    "1fdc x 1fe0 v 1ff0 x 1ff6 v 1fff x 200b i 200c v 200e x 2010 v 2024 x 2027 v 2028 x 2030 v",
    "2060 i 2065 x 206a i 2072 x 20a0 v 20c2 x 20d0 v 20f1 x 2104 v 218c x 2190 v 242a x 2440 v",
    "244b x 24eb v 2b74 x 2b76 v 2cf4 x 2cf9 v 2d26 x 2d27 v 2d28 x 2d2d v 2d2e x 2d30 v 2d68 x",
    "2d70 v 2d71 x 2d7f v 2d97 x 2da0 v 2da7 x 2da8 v 2daf x 2db0 v 2db7 x 2db8 v 2dbf x 2dc0 v",
    "2dc7 x 2dc8 v 2dcf x 2dd0 v 2dd7 x 2dd8 v 2ddf x 2de0 v 2e5e x 2e80 v 2e9a x 2e9b v 2ef4 x",
    "3001 v 3040 x 3041 v 3097 x 3099 v 3100 x 3105 v 3130 x 3164 i 318f x 3190 v 31e6 x 31f0 v",
    "321f x 3248 v 33c2 x 3400 v a48d x a490 v a4c7 x a4d0 v a62c x a641 v a6f8 x a700 v a7dd x",
    "a7f6 v a82d x a830 v a83a x a840 v a878 x a880 v a8c6 x a8ce v a8da x a8e0 v a954 x a95f v",
    "a97d x a980 v a9ce x a9cf v a9da x a9de v a9ff x aa00 v aa37 x aa40 v aa4e x aa50 v aa5a x",
    "aa5c v aac3 x aadb v aaf7 x ab01 v ab07 x ab09 v ab0f x ab11 v ab17 x ab20 v ab27 x ab28 v",
    "ab2f x ab30 v ab6c x abc0 v abee x abf0 v abfa x ac00 v d7a4 x d7b0 v d7c7 x d7cb v d7fc x",
    "fa0e v fa6e x fb1e v fb37 x fbb2 v fdd0 x fdfd v fe00 i fe12 x fe20 v fe30 x fe45 v fe52 x",
    "fe73 v fe75 x feff i ff00 x ffa0 i ffbf x 10000 v 1000c x 1000d v 10027 x 10028 v 1003b x",
    "1003c v 1003e x 1003f v 1004e x 10050 v 1005e x 10080 v 100fb x 10100 v 10103 x 10107 v",
    "10134 x 10137 v 1018f x 10190 v 1019d x 101a0 v 101a1 x 101d0 v 101fe x 10280 v 1029d x",
    "102a0 v 102d1 x 102e0 v 102fc x 10300 v 10324 x 1032d v 1034b x 10350 v 1037b x 10380 v",
    "1039e x 1039f v 103c4 x 103c8 v 103d6 x 10428 v 1049e x 104a0 v 104aa x 104d8 v 104fc x",
    "10500 v 10528 x 10530 v 10564 x 1056f v 1057b x 10597 v 105a2 x 105a3 v 105b2 x 105b3 v",
    "105ba x 105bb v 105bd x 105c0 v 105f4 x 10600 v 10737 x 10740 v 10756 x 10760 v 10768 x",
    "10780 v 10786 x 10800 v 10806 x 10808 v 10809 x 1080a v 10836 x 10837 v 10839 x 1083c v",
    "1083d x 1083f v 10856 x 10857 v 1089f x 108a7 v 108b0 x 108e0 v 108f3 x 108f4 v 108f6 x",
    "108fb v 1091c x 1091f v 1093a x 1093f v 1095a x 10980 v 109b8 x 109bc v 109d0 x 109d2 v",
    "10a04 x 10a05 v 10a07 x 10a0c v 10a14 x 10a15 v 10a18 x 10a19 v 10a36 x 10a38 v 10a3b x",
    "10a3f v 10a49 x 10a50 v 10a59 x 10a60 v 10aa0 x 10ac0 v 10ae7 x 10aeb v 10af7 x 10b00 v",
    "10b36 x 10b39 v 10b56 x 10b58 v 10b73 x 10b78 v 10b92 x 10b99 v 10b9d x 10ba9 v 10bb0 x",
    "10c00 v 10c49 x 10cc0 v 10cf3 x 10cfa v 10d28 x 10d30 v 10d3a x 10d40 v 10d66 x 10d69 v",
    "10d86 x 10d8e v 10d90 x 10e60 v 10e7f x 10e80 v 10eaa x 10eab v 10eae x 10eb0 v 10eb2 x",
    "10ec2 v 10ec8 x 10ed0 v 10ed9 x 10efa v 10f28 x 10f30 v 10f5a x 10f70 v 10f8a x 10fb0 v",
    "10fcc x 10fe0 v 10ff7 x 11000 v 1104e x 11052 v 11076 x 1107f v 110bd x 110be v 110c3 x",
    "110d0 v 110e9 x 110f0 v 110fa x 11100 v 11135 x 11136 v 11148 x 11150 v 11177 x 11180 v",
    "111e0 x 111e1 v 111f5 x 11200 v 11212 x 11213 v 11242 x 11280 v 11287 x 11288 v 11289 x",
    "1128a v 1128e x 1128f v 1129e x 1129f v 112aa x 112b0 v 112eb x 112f0 v 112fa x 11300 v",
    "11304 x 11305 v 1130d x 1130f v 11311 x 11313 v 11329 x 1132a v 11331 x 11332 v 11334 x",
    "11335 v 1133a x 1133b v 11345 x 11347 v 11349 x 1134b v 1134e x 11350 v 11351 x 11357 v",
    "11358 x 1135d v 11364 x 11366 v 1136d x 11370 v 11375 x 11380 v 1138a x 1138b v 1138c x",
    "1138e v 1138f x 11390 v 113b6 x 113b7 v 113c1 x 113c2 v 113c3 x 113c5 v 113c6 x 113c7 v",
    "113cb x 113cc v 113d6 x 113d7 v 113d9 x 113e1 v 113e3 x 11400 v 1145c x 1145d v 11462 x",
    "11480 v 114c8 x 114d0 v 114da x 11580 v 115b6 x 115b8 v 115de x 11600 v 11645 x 11650 v",
    "1165a x 11660 v 1166d x 11680 v 116ba x 116c0 v 116ca x 116d0 v 116e4 x 11700 v 1171b x",
    "1171d v 1172c x 11730 v 11747 x 11800 v 1183c x 118c0 v 118f3 x 118ff v 11907 x 11909 v",
    "1190a x 1190c v 11914 x 11915 v 11917 x 11918 v 11936 x 11937 v 11939 x 1193b v 11947 x",
    "11950 v 1195a x 119a0 v 119a8 x 119aa v 119d8 x 119da v 119e5 x 11a00 v 11a48 x 11a50 v",
    "11aa3 x 11ab0 v 11af9 x 11b00 v 11b0a x 11b60 v 11b68 x 11bc0 v 11be2 x 11bf0 v 11bfa x",
    "11c00 v 11c09 x 11c0a v 11c37 x 11c38 v 11c46 x 11c50 v 11c6d x 11c70 v 11c90 x 11c92 v",
    "11ca8 x 11ca9 v 11cb7 x 11d00 v 11d07 x 11d08 v 11d0a x 11d0b v 11d37 x 11d3a v 11d3b x",
    "11d3c v 11d3e x 11d3f v 11d48 x 11d50 v 11d5a x 11d60 v 11d66 x 11d67 v 11d69 x 11d6a v",
    "11d8f x 11d90 v 11d92 x 11d93 v 11d99 x 11da0 v 11daa x 11db0 v 11ddc x 11de0 v 11dea x",
    "11ee0 v 11ef9 x 11f00 v 11f11 x 11f12 v 11f3b x 11f3e v 11f5b x 11fb0 v 11fb1 x 11fc0 v",
    "11ff2 x 11fff v 1239a x 12400 v 1246f x 12470 v 12475 x 12480 v 12544 x 12f90 v 12ff3 x",
    "13000 v 13430 x 13440 v 13456 x 13460 v 143fb x 14400 v 14647 x 16100 v 1613a x 16800 v",
    "16a39 x 16a40 v 16a5f x 16a60 v 16a6a x 16a6e v 16abf x 16ac0 v 16aca x 16ad0 v 16aee x",
    "16af0 v 16af6 x 16b00 v 16b46 x 16b50 v 16b5a x 16b5b v 16b62 x 16b63 v 16b78 x 16b7d v",
    "16b90 x 16d40 v 16d7a x 16e60 v 16e9b x 16ebb v 16ed4 x 16f00 v 16f4b x 16f4f v 16f88 x",
    "16f8f v 16fa0 x 16fe0 v 16fe5 x 16ff0 v 16ff7 x 17000 v 18cd6 x 18cff v 18d1f x 18d80 v",
    "18df3 x 1aff0 v 1aff4 x 1aff5 v 1affc x 1affd v 1afff x 1b000 v 1b123 x 1b132 v 1b133 x",
    "1b150 v 1b153 x 1b155 v 1b156 x 1b164 v 1b168 x 1b170 v 1b2fc x 1bc00 v 1bc6b x 1bc70 v",
    "1bc7d x 1bc80 v 1bc89 x 1bc90 v 1bc9a x 1bc9c v 1bca0 i 1bca4 x 1cc00 v 1ccfd x 1cd00 v",
    "1ceb4 x 1ceba v 1ced1 x 1cee0 v 1cef1 x 1cf00 v 1cf2e x 1cf30 v 1cf47 x 1cf50 v 1cfc4 x",
    "1d000 v 1d0f6 x 1d100 v 1d127 x 1d129 v 1d173 i 1d17b v 1d1eb x 1d200 v 1d246 x 1d2c0 v",
    "1d2d4 x 1d2e0 v 1d2f4 x 1d300 v 1d357 x 1d360 v 1d379 x 1d800 v 1da8c x 1da9b v 1daa0 x",
    "1daa1 v 1dab0 x 1df00 v 1df1f x 1df25 v 1df2b x 1e000 v 1e007 x 1e008 v 1e019 x 1e01b v",
    "1e022 x 1e023 v 1e025 x 1e026 v 1e02b x 1e08f v 1e090 x 1e100 v 1e12d x 1e130 v 1e13e x",
    "1e140 v 1e14a x 1e14e v 1e150 x 1e290 v 1e2af x 1e2c0 v 1e2fa x 1e2ff v 1e300 x 1e4d0 v",
    "1e4fa x 1e5d0 v 1e5fb x 1e5ff v 1e600 x 1e6c0 v 1e6df x 1e6e0 v 1e6f6 x 1e6fe v 1e700 x",
    "1e7e0 v 1e7e7 x 1e7e8 v 1e7ec x 1e7ed v 1e7ef x 1e7f0 v 1e7ff x 1e800 v 1e8c5 x 1e8c7 v",
    "1e8d7 x 1e922 v 1e94c x 1e950 v 1e95a x 1e95e v 1e960 x 1ec71 v 1ecb5 x 1ed01 v 1ed3e x",
    "1eef0 v 1eef2 x 1f000 v 1f02c x 1f030 v 1f094 x 1f0a0 v 1f0af x 1f0b1 v 1f0c0 x 1f0c1 v",
    "1f0d0 x 1f0d1 v 1f0f6 x 1f10b v 1f1ae x 1f1e6 v 1f203 x 1f260 v 1f266 x 1f300 v 1f6d9 x",
    "1f6dc v 1f6ed x 1f6f0 v 1f6fd x 1f700 v 1f7da x 1f7e0 v 1f7ec x 1f7f0 v 1f7f1 x 1f800 v",
    "1f80c x 1f810 v 1f848 x 1f850 v 1f85a x 1f860 v 1f888 x 1f890 v 1f8ae x 1f8b0 v 1f8bc x",
    "1f8c0 v 1f8c2 x 1f8d0 v 1f8d9 x 1f900 v 1fa58 x 1fa60 v 1fa6e x 1fa70 v 1fa7d x 1fa80 v",
    "1fa8b x 1fa8e v 1fac7 x 1fac8 v 1fac9 x 1facd v 1fadd x 1fadf v 1faeb x 1faef v 1faf9 x",
    "1fb00 v 1fb93 x 1fb94 v 1fbfb x 20000 v 2a6e0 x 2a700 v 2b81e x 2b820 v 2ceae x 2ceb0 v",
    "2ebe1 x 2ebf0 v 2ee5e x 30000 v 3134b x 31350 v 3347a x e0100 i e01f0 x"]

/-- Characters that are replaced by one letter or digit each: the first of a row, and the
replacements in order; an underscore stands for a character that is not replaced. -/
def letterRows : List (Nat × String) :=
  [
    (0x41, "abcdefghijklmnopqrstuvwxyz"),
    (0xAA, "a_______23_μ___1o_____àáâãäåæçèéêëìíîïðñòóôõö_øùúûüýþ"),
    (0x100, "ā_ă_ą_ć_ĉ_ċ_č_ď_đ_ē_ĕ_ė_ę_ě_ĝ_ğ_ġ_ģ_ĥ_ħ_ĩ_ī_ĭ_į_____ĵ_ķ__ĺ_ļ_ľ___ł_ń_ņ_ň__ŋ_ō"),
    (0x14E, "ŏ_ő_œ_ŕ_ŗ_ř_ś_ŝ_ş_š_ţ_ť_ŧ_ũ_ū_ŭ_ů_ű_ų_ŵ_ŷ_ÿź_ż_ž_s_ɓƃ_ƅ_ɔƈ_ɖɗƌ__ǝəɛƒ_ɠɣ_ɩɨƙ"),
    (0x19C, "ɯɲ_ɵơ_ƣ_ƥ_ʀƨ_ʃ__ƭ_ʈư_ʊʋƴ_ƶ_ʒƹ___ƽ"),
    (0x1CD, "ǎ_ǐ_ǒ_ǔ_ǖ_ǘ_ǚ_ǜ__ǟ_ǡ_ǣ_ǥ_ǧ_ǩ_ǫ_ǭ_ǯ_____ǵ_ƕƿǹ_ǻ_ǽ_ǿ_ȁ_ȃ_ȅ_ȇ_ȉ_ȋ_ȍ_ȏ_ȑ_ȓ_ȕ_ȗ_ș_ț"),
    (0x21C, "ȝ_ȟ_ƞ_ȣ_ȥ_ȧ_ȩ_ȫ_ȭ_ȯ_ȱ_ȳ_______ⱥȼ_ƚⱦ__ɂ_ƀʉʌɇ_ɉ_ɋ_ɍ_ɏ"), (0x2B0, "hɦjrɹɻʁwy"),
    (0x2E0, "ɣlsxʕ"), (0x345, "ι"), (0x370, "ͱ_ͳ___ͷ"),
    (0x37F, "ϳ______ά_έήί_ό_ύώ_αβγδεζηθικλμνξοπρ_στυφχψωϊϋ"),
    (0x3CF, "ϗβθυύϋφπ_ϙ_ϛ_ϝ_ϟ_ϡ_ϣ_ϥ_ϧ_ϩ_ϫ_ϭ_ϯ_κρσ_θε_ϸ_σϻ__ͻͼͽѐёђѓєѕіїјљњћќѝўџабвгдежзийклм"),
    (0x41D, "нопрстуфхцчшщъыьэюя"), (0x460, "ѡ_ѣ_ѥ_ѧ_ѩ_ѫ_ѭ_ѯ_ѱ_ѳ_ѵ_ѷ_ѹ_ѻ_ѽ_ѿ_ҁ"),
    (0x48A, "ҋ_ҍ_ҏ_ґ_ғ_ҕ_җ_ҙ_қ_ҝ_ҟ_ҡ_ң_ҥ_ҧ_ҩ_ҫ_ҭ_ү_ұ_ҳ_ҵ_ҷ_ҹ_һ_ҽ_ҿ_ӏӂ_ӄ_ӆ_ӈ_ӊ_ӌ_ӎ__ӑ_ӓ_ӕ_ӗ"),
    (0x4D8, "ә_ӛ_ӝ_ӟ_ӡ_ӣ_ӥ_ӧ_ө_ӫ_ӭ_ӯ_ӱ_ӳ_ӵ_ӷ_ӹ_ӻ_ӽ_ӿ_ԁ_ԃ_ԅ_ԇ_ԉ_ԋ_ԍ_ԏ_ԑ_ԓ_ԕ_ԗ_ԙ_ԛ_ԝ_ԟ_ԡ_ԣ_ԥ"),
    (0x526, "ԧ_ԩ_ԫ_ԭ_ԯ__աբգդեզէըթժիլխծկհձղճմյնշոչպջռսվտրցւփքօֆ"),
    (0x10A0, "ⴀⴁⴂⴃⴄⴅⴆⴇⴈⴉⴊⴋⴌⴍⴎⴏⴐⴑⴒⴓⴔⴕⴖⴗⴘⴙⴚⴛⴜⴝⴞⴟⴠⴡⴢⴣⴤⴥ_ⴧ_____ⴭ"), (0x10FC, "ნ"), (0x13F8, "ᏰᏱᏲᏳᏴᏵ"),
    (0x1C80, "вдосттъѣꙋ_______აბგდევზთიკლმნოპჟრსტუფქღყშჩცძწჭხჯჰჱჲჳჴჵჶჷჸჹჺ__ჽჾჿ"),
    (0x1D2C, "aæb_deǝghijklmn_oȣprtuwaɐɑᴂbdeəɛɜg_kmŋoɔᴖᴗptuᴝɯvᴥβγδφχiruvβγρφχ"), (0x1D78, "н"),
    (0x1D9B, "ɒcɕðɜfɟɡɥɨɩɪᵻʝɭᶅʟɱɰɲɳɴɵɸʂʃƫʉʊᴜʋʌzʐʑʒθ"),
    (0x1E00, "ḁ_ḃ_ḅ_ḇ_ḉ_ḋ_ḍ_ḏ_ḑ_ḓ_ḕ_ḗ_ḙ_ḛ_ḝ_ḟ_ḡ_ḣ_ḥ_ḧ_ḩ_ḫ_ḭ_ḯ_ḱ_ḳ_ḵ_ḷ_ḹ_ḻ_ḽ_ḿ_ṁ_ṃ_ṅ_ṇ_ṉ_ṋ_ṍ"),
    (0x1E4E, "ṏ_ṑ_ṓ_ṕ_ṗ_ṙ_ṛ_ṝ_ṟ_ṡ_ṣ_ṥ_ṧ_ṩ_ṫ_ṭ_ṯ_ṱ_ṳ_ṵ_ṷ_ṹ_ṻ_ṽ_ṿ_ẁ_ẃ_ẅ_ẇ_ẉ_ẋ_ẍ_ẏ_ẑ_ẓ_ẕ______ṡ"),
    (0x1E9E, "ß_ạ_ả_ấ_ầ_ẩ_ẫ_ậ_ắ_ằ_ẳ_ẵ_ặ_ẹ_ẻ_ẽ_ế_ề_ể_ễ_ệ_ỉ_ị_ọ_ỏ_ố_ồ_ổ_ỗ_ộ_ớ_ờ_ở_ỡ_ợ_ụ_ủ_ứ"),
    (0x1EEA, "ừ_ử_ữ_ự_ỳ_ỵ_ỷ_ỹ_ỻ_ỽ_ỿ"), (0x1F08, "ἀἁἂἃἄἅἆἇ"), (0x1F18, "ἐἑἒἓἔἕ"),
    (0x1F28, "ἠἡἢἣἤἥἦἧ"), (0x1F38, "ἰἱἲἳἴἵἶἷ"), (0x1F48, "ὀὁὂὃὄὅ"), (0x1F59, "ὑ_ὓ_ὕ_ὗ"),
    (0x1F68, "ὠὡὢὣὤὥὦὧ_ά_έ_ή_ί_ό_ύ_ώ"), (0x1FB8, "ᾰᾱὰά__ι"),
    (0x1FC8, "ὲέὴή_______ΐ____ῐῑὶί_______ΰ____ῠῡὺύῥ"), (0x1FF8, "ὸόὼώ"),
    (0x2070, "0i__456789_____n0123456789______aeoxəhklmnpst"),
    (0x2102, "c____ɛ__ghhhhħiill_n___pqrrr______z_ω_z_kåbc_eefⅎmo____i__πγγπ_____ddeij"),
    (0x2160, "i___v____x__lcdmi___v____x__lcdm___ↄ"), (0x2460, "123456789"),
    (0x24B6, "abcdefghijklmnopqrstuvwxyzabcdefghijklmnopqrstuvwxyz0"),
    (0x2C00, "ⰰⰱⰲⰳⰴⰵⰶⰷⰸⰹⰺⰻⰼⰽⰾⰿⱀⱁⱂⱃⱄⱅⱆⱇⱈⱉⱊⱋⱌⱍⱎⱏⱐⱑⱒⱓⱔⱕⱖⱗⱘⱙⱚⱛⱜⱝⱞⱟ"),
    (0x2C60, "ⱡ_ɫᵽɽ__ⱨ_ⱪ_ⱬ_ɑɱɐɒ_ⱳ__ⱶ______jvȿɀⲁ_ⲃ_ⲅ_ⲇ_ⲉ_ⲋ_ⲍ_ⲏ_ⲑ_ⲓ_ⲕ_ⲗ_ⲙ_ⲛ_ⲝ_ⲟ_ⲡ_ⲣ_ⲥ_ⲧ_ⲩ_ⲫ_ⲭ"),
    (0x2CAE, "ⲯ_ⲱ_ⲳ_ⲵ_ⲷ_ⲹ_ⲻ_ⲽ_ⲿ_ⳁ_ⳃ_ⳅ_ⳇ_ⳉ_ⳋ_ⳍ_ⳏ_ⳑ_ⳓ_ⳕ_ⳗ_ⳙ_ⳛ_ⳝ_ⳟ_ⳡ_ⳣ"), (0x2CEB, "ⳬ_ⳮ____ⳳ"),
    (0x2D6F, "ⵡ"), (0x2E9F, "母"), (0x2EF3, "龟"),
    (0x2F00, "一丨丶丿乙亅二亠人儿入八冂冖冫几凵刀力勹匕匚匸十卜卩厂厶又口囗土士夂夊夕大女子宀寸小尢尸屮山巛工己巾干幺广廴廾弋弓彐彡彳心戈戶手支攴文斗斤方无日曰月木欠止歹"),
    (0x2F4E, "殳毋比毛氏气水火爪父爻爿片牙牛犬玄玉瓜瓦甘生用田疋疒癶白皮皿目矛矢石示禸禾穴立竹米糸缶网羊羽老而耒耳聿肉臣自至臼舌舛舟艮色艸虍虫血行衣襾見角言谷豆豕豸貝赤走"),
    (0x2F9C, "足身車辛辰辵邑酉釆里金長門阜隶隹雨靑非面革韋韭音頁風飛食首香馬骨高髟鬥鬯鬲鬼魚鳥鹵鹿麥麻黃黍黑黹黽鼎鼓鼠鼻齊齒龍龜龠"), (0x3002, "."),
    (0x3038, "十卄卅"),
    (0x3131, "ᄀᄁᆪᄂᆬᆭᄃᄄᄅᆰᆱᆲᆳᆴᆵᄚᄆᄇᄈᄡᄉᄊᄋᄌᄍᄎᄏᄐᄑ하ᅢᅣᅤᅥᅦᅧᅨᅩᅪᅫᅬᅭᅮᅯᅰᅱᅲᅳᅴᅵ_ᄔᄕᇇᇈᇌᇎᇓᇗᇙᄜᇝᇟᄝᄞᄠᄢᄣᄧᄩᄫᄬᄭᄮᄯᄲᄶ"),
    (0x317F, "ᅀᅇᅌᇱᇲᅗᅘᅙᆄᆅᆈᆑᆒᆔᆞᆡ___一二三四上中下甲乙丙丁天地人"), (0x3244, "問幼文箏"),
    (0x3260, "ᄀᄂᄃᄅᄆᄇᄉᄋᄌᄎᄏᄐᄑᄒ가나다라마바사아자차카타파하__우_一二三四五六七八九十月火水木金土日株有社名特財祝労秘男女適優印注項休写正上中下左右医宗学監企"),
    (0x32AE, "資協夜"), (0x32D0, "アイウエオカキクケコサシスセソタチツテトナニヌネノハヒフヘホマミムメモヤユヨラリルレロワヰヱヲ"),
    (0xA640, "ꙁ_ꙃ_ꙅ_ꙇ_ꙉ_ꙋ_ꙍ_ꙏ_ꙑ_ꙓ_ꙕ_ꙗ_ꙙ_ꙛ_ꙝ_ꙟ_ꙡ_ꙣ_ꙥ_ꙧ_ꙩ_ꙫ_ꙭ"),
    (0xA680, "ꚁ_ꚃ_ꚅ_ꚇ_ꚉ_ꚋ_ꚍ_ꚏ_ꚑ_ꚓ_ꚕ_ꚗ_ꚙ_ꚛ_ъь"),
    (0xA722, "ꜣ_ꜥ_ꜧ_ꜩ_ꜫ_ꜭ_ꜯ___ꜳ_ꜵ_ꜷ_ꜹ_ꜻ_ꜽ_ꜿ_ꝁ_ꝃ_ꝅ_ꝇ_ꝉ_ꝋ_ꝍ_ꝏ_ꝑ_ꝓ_ꝕ_ꝗ_ꝙ_ꝛ_ꝝ_ꝟ_ꝡ_ꝣ_ꝥ_ꝧ_ꝩ_ꝫ_ꝭ_ꝯ"),
    (0xA770, "ꝯ"),
    (0xA779, "ꝺ_ꝼ_ᵹꝿ_ꞁ_ꞃ_ꞅ_ꞇ____ꞌ_ɥ__ꞑ_ꞓ___ꞗ_ꞙ_ꞛ_ꞝ_ꞟ_ꞡ_ꞣ_ꞥ_ꞧ_ꞩ_ɦɜɡɬɪ_ʞʇʝꭓꞵ_ꞷ_ꞹ_ꞻ_ꞽ_ꞿ_ꟁ_ꟃ_ꞔʂᶎ"),
    (0xA7C7, "ꟈ_ꟊ_ɤ____ꟑ_ꟓ_ꟕ_ꟗ_ꟙ___ƛ"), (0xA7F1, "scfqꟶ__ħœ"), (0xAB5C, "ꜧꬷɫꭒ"),
    (0xAB69, "ʍ______ᎠᎡᎢᎣᎤᎥᎦᎧᎨᎩᎪᎫᎬᎭᎮᎯᎰᎱᎲᎳᎴᎵᎶᎷᎸᎹᎺᎻᎼᎽᎾᎿᏀᏁᏂᏃᏄᏅᏆᏇᏈᏉᏊᏋᏌᏍᏎᏏᏐᏑᏒᏓᏔᏕᏖᏗᏘᏙᏚᏛᏜᏝᏞᏟᏠᏡᏢᏣᏤᏥᏦ"),
    (0xABB7, "ᏧᏨᏩᏪᏫᏬᏭᏮᏯ"),
    (0xF900, "豈更車賈滑串句龜龜契金喇奈懶癩羅蘿螺裸邏樂洛烙珞落酪駱亂卵欄爛蘭鸞嵐濫藍襤拉臘蠟廊朗浪狼郎來冷勞擄櫓爐盧老蘆虜路露魯鷺碌祿綠菉錄鹿論壟弄籠聾牢磊賂雷壘屢樓淚"),
    (0xF94E, "漏累縷陋勒肋凜凌稜綾菱陵讀拏樂諾丹寧怒率異北磻便復不泌數索參塞省葉說殺辰沈拾若掠略亮兩凉梁糧良諒量勵呂女廬旅濾礪閭驪麗黎力曆歷轢年憐戀撚漣煉璉秊練聯輦蓮連鍊"),
    (0xF99C, "列劣咽烈裂說廉念捻殮簾獵令囹寧嶺怜玲瑩羚聆鈴零靈領例禮醴隸惡了僚寮尿料樂燎療蓼遼龍暈阮劉杻柳流溜琉留硫紐類六戮陸倫崙淪輪律慄栗率隆利吏履易李梨泥理痢罹裏裡里"),
    (0xF9EA, "離匿溺吝燐璘藺隣鱗麟林淋臨立笠粒狀炙識什茶刺切度拓糖宅洞暴輻行降見廓兀嗀__塚_晴__凞猪益礼神祥福靖精羽_蘒_諸__逸都___飯飼館鶴郞隷侮僧免勉勤卑喝嘆"),
    (0xFA38, "器塀墨層屮悔慨憎懲敏既暑梅海渚漢煮爫琢碑社祉祈祐祖祝禍禎穀突節練縉繁署者臭艹艹著褐視謁謹賓贈辶逸難響頻恵𤋮舘__並况全侀充冀勇勺喝啕喙嗢塚墳奄奔婢嬨廒廙彩徭"),
    (0xFA86, "惘慎愈憎慠懲戴揄搜摒敖晴朗望杖歹殺流滛滋漢瀞煮瞧爵犯猪瑱甆画瘝瘟益盛直睊着磌窱節类絛練缾者荒華蝹襁覆視調諸請謁諾諭謹變贈輸遲醙鉶陼難靖韛響頋頻鬒龜𢡊𢡄𣏕㮝䀘"),
    (0xFAD4, "䀹𥉉𥳐𧻓齃龎"), (0xFE63, "-"),
    (0xFF0D, "-._0123456789_______abcdefghijklmnopqrstuvwxyz______abcdefghijklmnopqrstuvwxyz"),
    (0xFF61, ".____ヲァィゥェォャュョッ_アイウエオカキクケコサシスセソタチツテトナニヌネノハヒフヘホマミムメモヤユヨラリルレロワン___ᄀᄁᆪᄂᆬᆭᄃᄄ"),
    (0xFFA9, "ᄅᆰᆱᆲᆳᆴᆵᄚᄆᄇᄈᄡᄉᄊᄋᄌᄍᄎᄏᄐᄑᄒ___ᅡᅢᅣᅤᅥᅦ__ᅧᅨᅩᅪᅫᅬ__ᅭᅮᅯᅰᅱᅲ__ᅳᅴᅵ"),
    (0x10400, "𐐨𐐩𐐪𐐫𐐬𐐭𐐮𐐯𐐰𐐱𐐲𐐳𐐴𐐵𐐶𐐷𐐸𐐹𐐺𐐻𐐼𐐽𐐾𐐿𐑀𐑁𐑂𐑃𐑄𐑅𐑆𐑇𐑈𐑉𐑊𐑋𐑌𐑍𐑎𐑏"),
    (0x104B0, "𐓘𐓙𐓚𐓛𐓜𐓝𐓞𐓟𐓠𐓡𐓢𐓣𐓤𐓥𐓦𐓧𐓨𐓩𐓪𐓫𐓬𐓭𐓮𐓯𐓰𐓱𐓲𐓳𐓴𐓵𐓶𐓷𐓸𐓹𐓺𐓻"),
    (0x10570, "𐖗𐖘𐖙𐖚𐖛𐖜𐖝𐖞𐖟𐖠𐖡_𐖣𐖤𐖥𐖦𐖧𐖨𐖩𐖪𐖫𐖬𐖭𐖮𐖯𐖰𐖱_𐖳𐖴𐖵𐖶𐖷𐖸𐖹_𐖻𐖼"),
    (0x10783, "æʙɓ_ʣꭦʥʤɖɗᶑɘɞʩɤɢɠʛħʜɧʄʪʫɬ𝼄ꞎɮ𝼅ʎ𝼆øɶɷqɺ𝼈ɽɾʀʨʦꭧʧʈⱱ_ʏʡʢʘǀǁǂ𝼊𝼞"),
    (0x118A0, "𑣀𑣁𑣂𑣃𑣄𑣅𑣆𑣇𑣈𑣉𑣊𑣋𑣌𑣍𑣎𑣏𑣐𑣑𑣒𑣓𑣔𑣕𑣖𑣗𑣘𑣙𑣚𑣛𑣜𑣝𑣞𑣟"), (0x16E40, "𖹠𖹡𖹢𖹣𖹤𖹥𖹦𖹧𖹨𖹩𖹪𖹫𖹬𖹭𖹮𖹯𖹰𖹱𖹲𖹳𖹴𖹵𖹶𖹷𖹸𖹹𖹺𖹻𖹼𖹽𖹾𖹿"),
    (0x1CCD6, "abcdefghijklmnopqrstuvwxyz0123456789"),
    (0x1D400, "abcdefghijklmnopqrstuvwxyzabcdefghijklmnopqrstuvwxyzabcdefghijklmnopqrstuvwxyz"),
    (0x1D44E, "abcdefg_ijklmnopqrstuvwxyzabcdefghijklmnopqrstuvwxyzabcdefghijklmnopqrstuvwxyz"),
    (0x1D49C, "a_cd__g__jk__nopq_stuvwxyzabcd_f_hijklmn_pqrstuvwxyzabcdefghijklmnopqrstuvwxyz"),
    (0x1D4EA, "abcdefghijklmnopqrstuvwxyzab_defg__jklmnopq_stuvwxy_abcdefghijklmnopqrstuvwxyz"),
    (0x1D538, "ab_defg_ijklm_o___stuvwxy_abcdefghijklmnopqrstuvwxyzabcdefghijklmnopqrstuvwxyz"),
    (0x1D586, "abcdefghijklmnopqrstuvwxyzabcdefghijklmnopqrstuvwxyzabcdefghijklmnopqrstuvwxyz"),
    (0x1D5D4, "abcdefghijklmnopqrstuvwxyzabcdefghijklmnopqrstuvwxyzabcdefghijklmnopqrstuvwxyz"),
    (0x1D622, "abcdefghijklmnopqrstuvwxyzabcdefghijklmnopqrstuvwxyzabcdefghijklmnopqrstuvwxyz"),
    (0x1D670, "abcdefghijklmnopqrstuvwxyzabcdefghijklmnopqrstuvwxyzıȷ__αβγδεζηθικλμνξοπρθστυφ"),
    (0x1D6BE, "χψω_αβγδεζηθικλμνξοπρσστυφχψω_εθκφρπαβγδεζηθικλμνξοπρθστυφχψω_αβγδεζηθικλμνξοπ"),
    (0x1D70C, "ρσστυφχψω_εθκφρπαβγδεζηθικλμνξοπρθστυφχψω_αβγδεζηθικλμνξοπρσστυφχψω_εθκφρπαβγδ"),
    (0x1D75A, "εζηθικλμνξοπρθστυφχψω_αβγδεζηθικλμνξοπρσστυφχψω_εθκφρπαβγδεζηθικλμνξοπρθστυφχψ"),
    (0x1D7A8, "ω_αβγδεζηθικλμνξοπρσστυφχψω_εθκφρπϝϝ__0123456789012345678901234567890123456789"),
    (0x1D7F6, "0123456789"),
    (0x1E030, "абвгдежзиклмопрстуфхцчшыэюꚉәіјөүӏабвгдежзиклопсуфхцчшъыґіѕџҫꙑұ"),
    (0x1F12B, "cr___abcdefghijklmnopqrstuvwxyz"), (0x1F202, "サ"),
    (0x1F210, "手字双デ二多解天交映無料前後再新初終生販声吹演投捕一三遊左中右指走打禁空合満有月申割営配"), (0x1F250, "得可"),
    (0x1FBF0, "0123456789"),
    (0x2F800, "丽丸乁𠄢你侮侻倂偺備僧像㒞𠘺免兔兤具𠔜㒹內再𠕋冗冤仌冬况𩇟凵刃㓟刻剆割剷㔕勇勉勤勺包匆北卉卑博即卽卿卿卿𠨬灰及叟𠭣叫叱吆咞吸呈周咢哶唐啓啣善善喙喫喳嗂圖嘆圗"),
    (0x2F84E, "噑噴切壮城埴堍型堲報墬𡓤売壷夆多夢奢𡚨𡛪姬娛娧姘婦㛮㛼嬈嬾嬾𡧈寃寘寧寳𡬘寿将当尢㞁屠屮峀岍𡷤嵃𡷦嵮嵫嵼巡巢㠯巽帨帽幩㡢𢆃㡼庰庳庶廊𪎒廾𢌱𢌱舁弢弢㣇𣊸𦇚形彫㣣"),
    (0x2F89C, "徚忍志忹悁㤺㤜悔𢛔惇慈慌慎慌慺憎憲憤憯懞懲懶成戛扝抱拔捐𢬌挽拼捨掃揤𢯱搢揅掩㨮摩摾撝摷㩬敏敬𣀊旣書晉㬙暑㬈㫤冒冕最暜肭䏙朗望朡杞杓𣏃㭉柺枅桒梅𣑭梎栟椔㮝楂榣"),
    (0x2F8EA, "槪檨𣚣櫛㰘次𣢧歔㱎歲殟殺殻𣪍𡴋𣫺汎𣲼沿泍汧洖派海流浩浸涅𣴞洴港湮㴳滋滇𣻑淹潮𣽞𣾎濆瀹瀞瀛㶖灊災灷炭𠔥煅𤉣熜𤎫爨爵牐𤘈犀犕𤜵𤠔獺王㺬玥㺸㺸瑇瑜瑱璅瓊㼛甤𤰶甾𤲒"),
    (0x2F938, "異𢆟瘐𤾡𤾸𥁄㿼䀈直𥃳𥃲𥄙𥄳眞真真睊䀹瞋䁆䂖𥐝硎碌磌䃣𥘦祖𥚚𥛅福秫䄯穀穊穏𥥼𥪧𥪧竮䈂𥮫篆築䈧𥲀糒䊠糨糣紀𥾆絣䌁緇縂繅䌴𦈨𦉇䍙𦋙罺𦌾羕翺者𦓚𦔣聠𦖨聰𣍟䏕育脃䐋脾"),
    (0x2F986, "媵𦞧𦞵𣎓𣎜舁舄辞䑫芑芋芝劳花芳芽苦𦬼若茝荣莭茣莽菧著荓菊菌菜𦰶𦵫𦳕䔫蓱蓳蔖𧏊蕤𦼬䕝䕡𦾱𧃒䕫虐虜虧虩蚩蚈蜎蛢蝹蜨蝫螆䗗蟡蠁䗹衠衣𧙧裗裞䘵裺㒻𧢮𧥦䚾䛇誠諭變豕𧲨"),
    (0x2F9D4, "貫賁贛起𧼯𠠄跋趼跰𠣞軔輸𨗒𨗭邔郱鄑𨜮鄛鈸鋗鋘鉼鏹鐕𨯺開䦕閷𨵷䧦雃嶲霣𩅅𩈚䩮䩶韠𩐊䪲𩒖頋頋頩𩖶飢䬳餩馧駂駾䯎𩬰鬒鱀鳽䳎䳭鵧𪃎䳸𪄅𪈎𪊑麻䵖黹黾鼅鼏鼖鼻𪘀")]

/-- All other replacements, by code points with `+` between them. -/
def otherReplacements : List (Nat × String) :=
  Text.Runs.read [
    "a0 20 a8 20+308 af 20+304 b4 20+301 b8 20+327 bc 31+2044+34 bd 31+2044+32 be 33+2044+34",
    "130 69+307 132 69+6a 133 69+6a 13f 6c+b7 140 6c+b7 149 2bc+6e 1c4 64+17e 1c5 64+17e 1c6 64+17e",
    "1c7 6c+6a 1c8 6c+6a 1c9 6c+6a 1ca 6e+6a 1cb 6e+6a 1cc 6e+6a 1f1 64+7a 1f2 64+7a 1f3 64+7a",
    "2d8 20+306 2d9 20+307 2da 20+30a 2db 20+328 2dc 20+303 2dd 20+30b 340 300 341 301 343 313",
    "344 308+301 374 2b9 37a 20+3b9 37e 3b 384 20+301 385 20+308+301 387 b7 587 565+582 675 627+674",
    "676 648+674 677 6c7+674 678 64a+674 958 915+93c 959 916+93c 95a 917+93c 95b 91c+93c",
    "95c 921+93c 95d 922+93c 95e 92b+93c 95f 92f+93c 9dc 9a1+9bc 9dd 9a2+9bc 9df 9af+9bc",
    "a33 a32+a3c a36 a38+a3c a59 a16+a3c a5a a17+a3c a5b a1c+a3c a5e a2b+a3c b5c b21+b3c",
    "b5d b22+b3c e33 e4d+e32 eb3 ecd+eb2 edc eab+e99 edd eab+ea1 f0c f0b f43 f42+fb7 f4d f4c+fb7",
    "f52 f51+fb7 f57 f56+fb7 f5c f5b+fb7 f69 f40+fb5 f73 f71+f72 f75 f71+f74 f76 fb2+f80",
    "f77 fb2+f71+f80 f78 fb3+f80 f79 fb3+f71+f80 f81 f71+f80 f93 f92+fb7 f9d f9c+fb7 fa2 fa1+fb7",
    "fa7 fa6+fb7 fac fab+fb7 fb9 f90+fb5 1c89 1c8a 1e9a 61+2be 1f80 1f00+3b9 1f81 1f01+3b9",
    "1f82 1f02+3b9 1f83 1f03+3b9 1f84 1f04+3b9 1f85 1f05+3b9 1f86 1f06+3b9 1f87 1f07+3b9",
    "1f88 1f00+3b9 1f89 1f01+3b9 1f8a 1f02+3b9 1f8b 1f03+3b9 1f8c 1f04+3b9 1f8d 1f05+3b9",
    "1f8e 1f06+3b9 1f8f 1f07+3b9 1f90 1f20+3b9 1f91 1f21+3b9 1f92 1f22+3b9 1f93 1f23+3b9",
    "1f94 1f24+3b9 1f95 1f25+3b9 1f96 1f26+3b9 1f97 1f27+3b9 1f98 1f20+3b9 1f99 1f21+3b9",
    "1f9a 1f22+3b9 1f9b 1f23+3b9 1f9c 1f24+3b9 1f9d 1f25+3b9 1f9e 1f26+3b9 1f9f 1f27+3b9",
    "1fa0 1f60+3b9 1fa1 1f61+3b9 1fa2 1f62+3b9 1fa3 1f63+3b9 1fa4 1f64+3b9 1fa5 1f65+3b9",
    "1fa6 1f66+3b9 1fa7 1f67+3b9 1fa8 1f60+3b9 1fa9 1f61+3b9 1faa 1f62+3b9 1fab 1f63+3b9",
    "1fac 1f64+3b9 1fad 1f65+3b9 1fae 1f66+3b9 1faf 1f67+3b9 1fb2 1f70+3b9 1fb3 3b1+3b9",
    "1fb4 3ac+3b9 1fb7 1fb6+3b9 1fbc 3b1+3b9 1fbd 20+313 1fbf 20+313 1fc0 20+342 1fc1 20+308+342",
    "1fc2 1f74+3b9 1fc3 3b7+3b9 1fc4 3ae+3b9 1fc7 1fc6+3b9 1fcc 3b7+3b9 1fcd 20+313+300",
    "1fce 20+313+301 1fcf 20+313+342 1fdd 20+314+300 1fde 20+314+301 1fdf 20+314+342",
    "1fed 20+308+300 1fee 20+308+301 1fef 60 1ff2 1f7c+3b9 1ff3 3c9+3b9 1ff4 3ce+3b9 1ff7 1ff6+3b9",
    "1ffc 3c9+3b9 1ffd 20+301 1ffe 20+314 2000 20 2001 20 2002 20 2003 20 2004 20 2005 20 2006 20",
    "2007 20 2008 20 2009 20 200a 20 2011 2010 2017 20+333 202f 20 2033 2032+2032",
    "2034 2032+2032+2032 2036 2035+2035 2037 2035+2035+2035 203c 21+21 203e 20+305 2047 3f+3f",
    "2048 3f+21 2049 21+3f 2057 2032+2032+2032+2032 205f 20 207a 2b 207b 2212 207c 3d 207d 28",
    "207e 29 208a 2b 208b 2212 208c 3d 208d 28 208e 29 20a8 72+73 2100 61+2f+63 2101 61+2f+73",
    "2103 b0+63 2105 63+2f+6f 2106 63+2f+75 2109 b0+66 2116 6e+6f 2120 73+6d 2121 74+65+6c",
    "2122 74+6d 2135 5d0 2136 5d1 2137 5d2 2138 5d3 213b 66+61+78 2140 2211 2150 31+2044+37",
    "2151 31+2044+39 2152 31+2044+31+30 2153 31+2044+33 2154 32+2044+33 2155 31+2044+35",
    "2156 32+2044+35 2157 33+2044+35 2158 34+2044+35 2159 31+2044+36 215a 35+2044+36",
    "215b 31+2044+38 215c 33+2044+38 215d 35+2044+38 215e 37+2044+38 215f 31+2044 2161 69+69",
    "2162 69+69+69 2163 69+76 2165 76+69 2166 76+69+69 2167 76+69+69+69 2168 69+78 216a 78+69",
    "216b 78+69+69 2171 69+69 2172 69+69+69 2173 69+76 2175 76+69 2176 76+69+69 2177 76+69+69+69",
    "2178 69+78 217a 78+69 217b 78+69+69 2189 30+2044+33 222c 222b+222b 222d 222b+222b+222b",
    "222f 222e+222e 2230 222e+222e+222e 2329 3008 232a 3009 2469 31+30 246a 31+31 246b 31+32",
    "246c 31+33 246d 31+34 246e 31+35 246f 31+36 2470 31+37 2471 31+38 2472 31+39 2473 32+30",
    "2474 28+31+29 2475 28+32+29 2476 28+33+29 2477 28+34+29 2478 28+35+29 2479 28+36+29",
    "247a 28+37+29 247b 28+38+29 247c 28+39+29 247d 28+31+30+29 247e 28+31+31+29 247f 28+31+32+29",
    "2480 28+31+33+29 2481 28+31+34+29 2482 28+31+35+29 2483 28+31+36+29 2484 28+31+37+29",
    "2485 28+31+38+29 2486 28+31+39+29 2487 28+32+30+29 249c 28+61+29 249d 28+62+29 249e 28+63+29",
    "249f 28+64+29 24a0 28+65+29 24a1 28+66+29 24a2 28+67+29 24a3 28+68+29 24a4 28+69+29",
    "24a5 28+6a+29 24a6 28+6b+29 24a7 28+6c+29 24a8 28+6d+29 24a9 28+6e+29 24aa 28+6f+29",
    "24ab 28+70+29 24ac 28+71+29 24ad 28+72+29 24ae 28+73+29 24af 28+74+29 24b0 28+75+29",
    "24b1 28+76+29 24b2 28+77+29 24b3 28+78+29 24b4 28+79+29 24b5 28+7a+29 2a0c 222b+222b+222b+222b",
    "2a74 3a+3a+3d 2a75 3d+3d 2a76 3d+3d+3d 2adc 2add+338 3000 20 3036 3012 309b 20+3099",
    "309c 20+309a 309f 3088+308a 30ff 30b3+30c8 3200 28+1100+29 3201 28+1102+29 3202 28+1103+29",
    "3203 28+1105+29 3204 28+1106+29 3205 28+1107+29 3206 28+1109+29 3207 28+110b+29",
    "3208 28+110c+29 3209 28+110e+29 320a 28+110f+29 320b 28+1110+29 320c 28+1111+29",
    "320d 28+1112+29 320e 28+ac00+29 320f 28+b098+29 3210 28+b2e4+29 3211 28+b77c+29",
    "3212 28+b9c8+29 3213 28+bc14+29 3214 28+c0ac+29 3215 28+c544+29 3216 28+c790+29",
    "3217 28+cc28+29 3218 28+ce74+29 3219 28+d0c0+29 321a 28+d30c+29 321b 28+d558+29",
    "321c 28+c8fc+29 321d 28+c624+c804+29 321e 28+c624+d6c4+29 3220 28+4e00+29 3221 28+4e8c+29",
    "3222 28+4e09+29 3223 28+56db+29 3224 28+4e94+29 3225 28+516d+29 3226 28+4e03+29",
    "3227 28+516b+29 3228 28+4e5d+29 3229 28+5341+29 322a 28+6708+29 322b 28+706b+29",
    "322c 28+6c34+29 322d 28+6728+29 322e 28+91d1+29 322f 28+571f+29 3230 28+65e5+29",
    "3231 28+682a+29 3232 28+6709+29 3233 28+793e+29 3234 28+540d+29 3235 28+7279+29",
    "3236 28+8ca1+29 3237 28+795d+29 3238 28+52b4+29 3239 28+4ee3+29 323a 28+547c+29",
    "323b 28+5b66+29 323c 28+76e3+29 323d 28+4f01+29 323e 28+8cc7+29 323f 28+5354+29",
    "3240 28+796d+29 3241 28+4f11+29 3242 28+81ea+29 3243 28+81f3+29 3250 70+74+65 3251 32+31",
    "3252 32+32 3253 32+33 3254 32+34 3255 32+35 3256 32+36 3257 32+37 3258 32+38 3259 32+39",
    "325a 33+30 325b 33+31 325c 33+32 325d 33+33 325e 33+34 325f 33+35 327c cc38+ace0",
    "327d c8fc+c758 32b1 33+36 32b2 33+37 32b3 33+38 32b4 33+39 32b5 34+30 32b6 34+31 32b7 34+32",
    "32b8 34+33 32b9 34+34 32ba 34+35 32bb 34+36 32bc 34+37 32bd 34+38 32be 34+39 32bf 35+30",
    "32c0 31+6708 32c1 32+6708 32c2 33+6708 32c3 34+6708 32c4 35+6708 32c5 36+6708 32c6 37+6708",
    "32c7 38+6708 32c8 39+6708 32c9 31+30+6708 32ca 31+31+6708 32cb 31+32+6708 32cc 68+67",
    "32cd 65+72+67 32ce 65+76 32cf 6c+74+64 32ff 4ee4+548c 3300 30a2+30d1+30fc+30c8",
    "3301 30a2+30eb+30d5+30a1 3302 30a2+30f3+30da+30a2 3303 30a2+30fc+30eb 3304 30a4+30cb+30f3+30b0",
    "3305 30a4+30f3+30c1 3306 30a6+30a9+30f3 3307 30a8+30b9+30af+30fc+30c9 3308 30a8+30fc+30ab+30fc",
    "3309 30aa+30f3+30b9 330a 30aa+30fc+30e0 330b 30ab+30a4+30ea 330c 30ab+30e9+30c3+30c8",
    "330d 30ab+30ed+30ea+30fc 330e 30ac+30ed+30f3 330f 30ac+30f3+30de 3310 30ae+30ac",
    "3311 30ae+30cb+30fc 3312 30ad+30e5+30ea+30fc 3313 30ae+30eb+30c0+30fc 3314 30ad+30ed",
    "3315 30ad+30ed+30b0+30e9+30e0 3316 30ad+30ed+30e1+30fc+30c8+30eb 3317 30ad+30ed+30ef+30c3+30c8",
    "3318 30b0+30e9+30e0 3319 30b0+30e9+30e0+30c8+30f3 331a 30af+30eb+30bc+30a4+30ed",
    "331b 30af+30ed+30fc+30cd 331c 30b1+30fc+30b9 331d 30b3+30eb+30ca 331e 30b3+30fc+30dd",
    "331f 30b5+30a4+30af+30eb 3320 30b5+30f3+30c1+30fc+30e0 3321 30b7+30ea+30f3+30b0",
    "3322 30bb+30f3+30c1 3323 30bb+30f3+30c8 3324 30c0+30fc+30b9 3325 30c7+30b7 3326 30c9+30eb",
    "3327 30c8+30f3 3328 30ca+30ce 3329 30ce+30c3+30c8 332a 30cf+30a4+30c4",
    "332b 30d1+30fc+30bb+30f3+30c8 332c 30d1+30fc+30c4 332d 30d0+30fc+30ec+30eb",
    "332e 30d4+30a2+30b9+30c8+30eb 332f 30d4+30af+30eb 3330 30d4+30b3 3331 30d3+30eb",
    "3332 30d5+30a1+30e9+30c3+30c9 3333 30d5+30a3+30fc+30c8 3334 30d6+30c3+30b7+30a7+30eb",
    "3335 30d5+30e9+30f3 3336 30d8+30af+30bf+30fc+30eb 3337 30da+30bd 3338 30da+30cb+30d2",
    "3339 30d8+30eb+30c4 333a 30da+30f3+30b9 333b 30da+30fc+30b8 333c 30d9+30fc+30bf",
    "333d 30dd+30a4+30f3+30c8 333e 30dc+30eb+30c8 333f 30db+30f3 3340 30dd+30f3+30c9",
    "3341 30db+30fc+30eb 3342 30db+30fc+30f3 3343 30de+30a4+30af+30ed 3344 30de+30a4+30eb",
    "3345 30de+30c3+30cf 3346 30de+30eb+30af 3347 30de+30f3+30b7+30e7+30f3 3348 30df+30af+30ed+30f3",
    "3349 30df+30ea 334a 30df+30ea+30d0+30fc+30eb 334b 30e1+30ac 334c 30e1+30ac+30c8+30f3",
    "334d 30e1+30fc+30c8+30eb 334e 30e4+30fc+30c9 334f 30e4+30fc+30eb 3350 30e6+30a2+30f3",
    "3351 30ea+30c3+30c8+30eb 3352 30ea+30e9 3353 30eb+30d4+30fc 3354 30eb+30fc+30d6+30eb",
    "3355 30ec+30e0 3356 30ec+30f3+30c8+30b2+30f3 3357 30ef+30c3+30c8 3358 30+70b9 3359 31+70b9",
    "335a 32+70b9 335b 33+70b9 335c 34+70b9 335d 35+70b9 335e 36+70b9 335f 37+70b9 3360 38+70b9",
    "3361 39+70b9 3362 31+30+70b9 3363 31+31+70b9 3364 31+32+70b9 3365 31+33+70b9 3366 31+34+70b9",
    "3367 31+35+70b9 3368 31+36+70b9 3369 31+37+70b9 336a 31+38+70b9 336b 31+39+70b9",
    "336c 32+30+70b9 336d 32+31+70b9 336e 32+32+70b9 336f 32+33+70b9 3370 32+34+70b9 3371 68+70+61",
    "3372 64+61 3373 61+75 3374 62+61+72 3375 6f+76 3376 70+63 3377 64+6d 3378 64+6d+32",
    "3379 64+6d+33 337a 69+75 337b 5e73+6210 337c 662d+548c 337d 5927+6b63 337e 660e+6cbb",
    "337f 682a+5f0f+4f1a+793e 3380 70+61 3381 6e+61 3382 3bc+61 3383 6d+61 3384 6b+61 3385 6b+62",
    "3386 6d+62 3387 67+62 3388 63+61+6c 3389 6b+63+61+6c 338a 70+66 338b 6e+66 338c 3bc+66",
    "338d 3bc+67 338e 6d+67 338f 6b+67 3390 68+7a 3391 6b+68+7a 3392 6d+68+7a 3393 67+68+7a",
    "3394 74+68+7a 3395 3bc+6c 3396 6d+6c 3397 64+6c 3398 6b+6c 3399 66+6d 339a 6e+6d 339b 3bc+6d",
    "339c 6d+6d 339d 63+6d 339e 6b+6d 339f 6d+6d+32 33a0 63+6d+32 33a1 6d+32 33a2 6b+6d+32",
    "33a3 6d+6d+33 33a4 63+6d+33 33a5 6d+33 33a6 6b+6d+33 33a7 6d+2215+73 33a8 6d+2215+73+32",
    "33a9 70+61 33aa 6b+70+61 33ab 6d+70+61 33ac 67+70+61 33ad 72+61+64 33ae 72+61+64+2215+73",
    "33af 72+61+64+2215+73+32 33b0 70+73 33b1 6e+73 33b2 3bc+73 33b3 6d+73 33b4 70+76 33b5 6e+76",
    "33b6 3bc+76 33b7 6d+76 33b8 6b+76 33b9 6d+76 33ba 70+77 33bb 6e+77 33bc 3bc+77 33bd 6d+77",
    "33be 6b+77 33bf 6d+77 33c0 6b+3c9 33c1 6d+3c9 33c3 62+71 33c4 63+63 33c5 63+64",
    "33c6 63+2215+6b+67 33c8 64+62 33c9 67+79 33ca 68+61 33cb 68+70 33cc 69+6e 33cd 6b+6b",
    "33ce 6b+6d 33cf 6b+74 33d0 6c+6d 33d1 6c+6e 33d2 6c+6f+67 33d3 6c+78 33d4 6d+62 33d5 6d+69+6c",
    "33d6 6d+6f+6c 33d7 70+68 33d9 70+70+6d 33da 70+72 33db 73+72 33dc 73+76 33dd 77+62",
    "33de 76+2215+6d 33df 61+2215+6d 33e0 31+65e5 33e1 32+65e5 33e2 33+65e5 33e3 34+65e5",
    "33e4 35+65e5 33e5 36+65e5 33e6 37+65e5 33e7 38+65e5 33e8 39+65e5 33e9 31+30+65e5",
    "33ea 31+31+65e5 33eb 31+32+65e5 33ec 31+33+65e5 33ed 31+34+65e5 33ee 31+35+65e5",
    "33ef 31+36+65e5 33f0 31+37+65e5 33f1 31+38+65e5 33f2 31+39+65e5 33f3 32+30+65e5",
    "33f4 32+31+65e5 33f5 32+32+65e5 33f6 32+33+65e5 33f7 32+34+65e5 33f8 32+35+65e5",
    "33f9 32+36+65e5 33fa 32+37+65e5 33fb 32+38+65e5 33fc 32+39+65e5 33fd 33+30+65e5",
    "33fe 33+31+65e5 33ff 67+61+6c a7cc a7cd a7ce a7cf a7da a7db fb00 66+66 fb01 66+69 fb02 66+6c",
    "fb03 66+66+69 fb04 66+66+6c fb05 73+74 fb06 73+74 fb13 574+576 fb14 574+565 fb15 574+56b",
    "fb16 57e+576 fb17 574+56d fb1d 5d9+5b4 fb1f 5f2+5b7 fb20 5e2 fb21 5d0 fb22 5d3 fb23 5d4",
    "fb24 5db fb25 5dc fb26 5dd fb27 5e8 fb28 5ea fb29 2b fb2a 5e9+5c1 fb2b 5e9+5c2",
    "fb2c 5e9+5bc+5c1 fb2d 5e9+5bc+5c2 fb2e 5d0+5b7 fb2f 5d0+5b8 fb30 5d0+5bc fb31 5d1+5bc",
    "fb32 5d2+5bc fb33 5d3+5bc fb34 5d4+5bc fb35 5d5+5bc fb36 5d6+5bc fb38 5d8+5bc fb39 5d9+5bc",
    "fb3a 5da+5bc fb3b 5db+5bc fb3c 5dc+5bc fb3e 5de+5bc fb40 5e0+5bc fb41 5e1+5bc fb43 5e3+5bc",
    "fb44 5e4+5bc fb46 5e6+5bc fb47 5e7+5bc fb48 5e8+5bc fb49 5e9+5bc fb4a 5ea+5bc fb4b 5d5+5b9",
    "fb4c 5d1+5bf fb4d 5db+5bf fb4e 5e4+5bf fb4f 5d0+5dc fb50 671 fb51 671 fb52 67b fb53 67b",
    "fb54 67b fb55 67b fb56 67e fb57 67e fb58 67e fb59 67e fb5a 680 fb5b 680 fb5c 680 fb5d 680",
    "fb5e 67a fb5f 67a fb60 67a fb61 67a fb62 67f fb63 67f fb64 67f fb65 67f fb66 679 fb67 679",
    "fb68 679 fb69 679 fb6a 6a4 fb6b 6a4 fb6c 6a4 fb6d 6a4 fb6e 6a6 fb6f 6a6 fb70 6a6 fb71 6a6",
    "fb72 684 fb73 684 fb74 684 fb75 684 fb76 683 fb77 683 fb78 683 fb79 683 fb7a 686 fb7b 686",
    "fb7c 686 fb7d 686 fb7e 687 fb7f 687 fb80 687 fb81 687 fb82 68d fb83 68d fb84 68c fb85 68c",
    "fb86 68e fb87 68e fb88 688 fb89 688 fb8a 698 fb8b 698 fb8c 691 fb8d 691 fb8e 6a9 fb8f 6a9",
    "fb90 6a9 fb91 6a9 fb92 6af fb93 6af fb94 6af fb95 6af fb96 6b3 fb97 6b3 fb98 6b3 fb99 6b3",
    "fb9a 6b1 fb9b 6b1 fb9c 6b1 fb9d 6b1 fb9e 6ba fb9f 6ba fba0 6bb fba1 6bb fba2 6bb fba3 6bb",
    "fba4 6c0 fba5 6c0 fba6 6c1 fba7 6c1 fba8 6c1 fba9 6c1 fbaa 6be fbab 6be fbac 6be fbad 6be",
    "fbae 6d2 fbaf 6d2 fbb0 6d3 fbb1 6d3 fbd3 6ad fbd4 6ad fbd5 6ad fbd6 6ad fbd7 6c7 fbd8 6c7",
    "fbd9 6c6 fbda 6c6 fbdb 6c8 fbdc 6c8 fbdd 6c7+674 fbde 6cb fbdf 6cb fbe0 6c5 fbe1 6c5 fbe2 6c9",
    "fbe3 6c9 fbe4 6d0 fbe5 6d0 fbe6 6d0 fbe7 6d0 fbe8 649 fbe9 649 fbea 626+627 fbeb 626+627",
    "fbec 626+6d5 fbed 626+6d5 fbee 626+648 fbef 626+648 fbf0 626+6c7 fbf1 626+6c7 fbf2 626+6c6",
    "fbf3 626+6c6 fbf4 626+6c8 fbf5 626+6c8 fbf6 626+6d0 fbf7 626+6d0 fbf8 626+6d0 fbf9 626+649",
    "fbfa 626+649 fbfb 626+649 fbfc 6cc fbfd 6cc fbfe 6cc fbff 6cc fc00 626+62c fc01 626+62d",
    "fc02 626+645 fc03 626+649 fc04 626+64a fc05 628+62c fc06 628+62d fc07 628+62e fc08 628+645",
    "fc09 628+649 fc0a 628+64a fc0b 62a+62c fc0c 62a+62d fc0d 62a+62e fc0e 62a+645 fc0f 62a+649",
    "fc10 62a+64a fc11 62b+62c fc12 62b+645 fc13 62b+649 fc14 62b+64a fc15 62c+62d fc16 62c+645",
    "fc17 62d+62c fc18 62d+645 fc19 62e+62c fc1a 62e+62d fc1b 62e+645 fc1c 633+62c fc1d 633+62d",
    "fc1e 633+62e fc1f 633+645 fc20 635+62d fc21 635+645 fc22 636+62c fc23 636+62d fc24 636+62e",
    "fc25 636+645 fc26 637+62d fc27 637+645 fc28 638+645 fc29 639+62c fc2a 639+645 fc2b 63a+62c",
    "fc2c 63a+645 fc2d 641+62c fc2e 641+62d fc2f 641+62e fc30 641+645 fc31 641+649 fc32 641+64a",
    "fc33 642+62d fc34 642+645 fc35 642+649 fc36 642+64a fc37 643+627 fc38 643+62c fc39 643+62d",
    "fc3a 643+62e fc3b 643+644 fc3c 643+645 fc3d 643+649 fc3e 643+64a fc3f 644+62c fc40 644+62d",
    "fc41 644+62e fc42 644+645 fc43 644+649 fc44 644+64a fc45 645+62c fc46 645+62d fc47 645+62e",
    "fc48 645+645 fc49 645+649 fc4a 645+64a fc4b 646+62c fc4c 646+62d fc4d 646+62e fc4e 646+645",
    "fc4f 646+649 fc50 646+64a fc51 647+62c fc52 647+645 fc53 647+649 fc54 647+64a fc55 64a+62c",
    "fc56 64a+62d fc57 64a+62e fc58 64a+645 fc59 64a+649 fc5a 64a+64a fc5b 630+670 fc5c 631+670",
    "fc5d 649+670 fc5e 20+64c+651 fc5f 20+64d+651 fc60 20+64e+651 fc61 20+64f+651 fc62 20+650+651",
    "fc63 20+651+670 fc64 626+631 fc65 626+632 fc66 626+645 fc67 626+646 fc68 626+649 fc69 626+64a",
    "fc6a 628+631 fc6b 628+632 fc6c 628+645 fc6d 628+646 fc6e 628+649 fc6f 628+64a fc70 62a+631",
    "fc71 62a+632 fc72 62a+645 fc73 62a+646 fc74 62a+649 fc75 62a+64a fc76 62b+631 fc77 62b+632",
    "fc78 62b+645 fc79 62b+646 fc7a 62b+649 fc7b 62b+64a fc7c 641+649 fc7d 641+64a fc7e 642+649",
    "fc7f 642+64a fc80 643+627 fc81 643+644 fc82 643+645 fc83 643+649 fc84 643+64a fc85 644+645",
    "fc86 644+649 fc87 644+64a fc88 645+627 fc89 645+645 fc8a 646+631 fc8b 646+632 fc8c 646+645",
    "fc8d 646+646 fc8e 646+649 fc8f 646+64a fc90 649+670 fc91 64a+631 fc92 64a+632 fc93 64a+645",
    "fc94 64a+646 fc95 64a+649 fc96 64a+64a fc97 626+62c fc98 626+62d fc99 626+62e fc9a 626+645",
    "fc9b 626+647 fc9c 628+62c fc9d 628+62d fc9e 628+62e fc9f 628+645 fca0 628+647 fca1 62a+62c",
    "fca2 62a+62d fca3 62a+62e fca4 62a+645 fca5 62a+647 fca6 62b+645 fca7 62c+62d fca8 62c+645",
    "fca9 62d+62c fcaa 62d+645 fcab 62e+62c fcac 62e+645 fcad 633+62c fcae 633+62d fcaf 633+62e",
    "fcb0 633+645 fcb1 635+62d fcb2 635+62e fcb3 635+645 fcb4 636+62c fcb5 636+62d fcb6 636+62e",
    "fcb7 636+645 fcb8 637+62d fcb9 638+645 fcba 639+62c fcbb 639+645 fcbc 63a+62c fcbd 63a+645",
    "fcbe 641+62c fcbf 641+62d fcc0 641+62e fcc1 641+645 fcc2 642+62d fcc3 642+645 fcc4 643+62c",
    "fcc5 643+62d fcc6 643+62e fcc7 643+644 fcc8 643+645 fcc9 644+62c fcca 644+62d fccb 644+62e",
    "fccc 644+645 fccd 644+647 fcce 645+62c fccf 645+62d fcd0 645+62e fcd1 645+645 fcd2 646+62c",
    "fcd3 646+62d fcd4 646+62e fcd5 646+645 fcd6 646+647 fcd7 647+62c fcd8 647+645 fcd9 647+670",
    "fcda 64a+62c fcdb 64a+62d fcdc 64a+62e fcdd 64a+645 fcde 64a+647 fcdf 626+645 fce0 626+647",
    "fce1 628+645 fce2 628+647 fce3 62a+645 fce4 62a+647 fce5 62b+645 fce6 62b+647 fce7 633+645",
    "fce8 633+647 fce9 634+645 fcea 634+647 fceb 643+644 fcec 643+645 fced 644+645 fcee 646+645",
    "fcef 646+647 fcf0 64a+645 fcf1 64a+647 fcf2 640+64e+651 fcf3 640+64f+651 fcf4 640+650+651",
    "fcf5 637+649 fcf6 637+64a fcf7 639+649 fcf8 639+64a fcf9 63a+649 fcfa 63a+64a fcfb 633+649",
    "fcfc 633+64a fcfd 634+649 fcfe 634+64a fcff 62d+649 fd00 62d+64a fd01 62c+649 fd02 62c+64a",
    "fd03 62e+649 fd04 62e+64a fd05 635+649 fd06 635+64a fd07 636+649 fd08 636+64a fd09 634+62c",
    "fd0a 634+62d fd0b 634+62e fd0c 634+645 fd0d 634+631 fd0e 633+631 fd0f 635+631 fd10 636+631",
    "fd11 637+649 fd12 637+64a fd13 639+649 fd14 639+64a fd15 63a+649 fd16 63a+64a fd17 633+649",
    "fd18 633+64a fd19 634+649 fd1a 634+64a fd1b 62d+649 fd1c 62d+64a fd1d 62c+649 fd1e 62c+64a",
    "fd1f 62e+649 fd20 62e+64a fd21 635+649 fd22 635+64a fd23 636+649 fd24 636+64a fd25 634+62c",
    "fd26 634+62d fd27 634+62e fd28 634+645 fd29 634+631 fd2a 633+631 fd2b 635+631 fd2c 636+631",
    "fd2d 634+62c fd2e 634+62d fd2f 634+62e fd30 634+645 fd31 633+647 fd32 634+647 fd33 637+645",
    "fd34 633+62c fd35 633+62d fd36 633+62e fd37 634+62c fd38 634+62d fd39 634+62e fd3a 637+645",
    "fd3b 638+645 fd3c 627+64b fd3d 627+64b fd50 62a+62c+645 fd51 62a+62d+62c fd52 62a+62d+62c",
    "fd53 62a+62d+645 fd54 62a+62e+645 fd55 62a+645+62c fd56 62a+645+62d fd57 62a+645+62e",
    "fd58 62c+645+62d fd59 62c+645+62d fd5a 62d+645+64a fd5b 62d+645+649 fd5c 633+62d+62c",
    "fd5d 633+62c+62d fd5e 633+62c+649 fd5f 633+645+62d fd60 633+645+62d fd61 633+645+62c",
    "fd62 633+645+645 fd63 633+645+645 fd64 635+62d+62d fd65 635+62d+62d fd66 635+645+645",
    "fd67 634+62d+645 fd68 634+62d+645 fd69 634+62c+64a fd6a 634+645+62e fd6b 634+645+62e",
    "fd6c 634+645+645 fd6d 634+645+645 fd6e 636+62d+649 fd6f 636+62e+645 fd70 636+62e+645",
    "fd71 637+645+62d fd72 637+645+62d fd73 637+645+645 fd74 637+645+64a fd75 639+62c+645",
    "fd76 639+645+645 fd77 639+645+645 fd78 639+645+649 fd79 63a+645+645 fd7a 63a+645+64a",
    "fd7b 63a+645+649 fd7c 641+62e+645 fd7d 641+62e+645 fd7e 642+645+62d fd7f 642+645+645",
    "fd80 644+62d+645 fd81 644+62d+64a fd82 644+62d+649 fd83 644+62c+62c fd84 644+62c+62c",
    "fd85 644+62e+645 fd86 644+62e+645 fd87 644+645+62d fd88 644+645+62d fd89 645+62d+62c",
    "fd8a 645+62d+645 fd8b 645+62d+64a fd8c 645+62c+62d fd8d 645+62c+645 fd8e 645+62e+62c",
    "fd8f 645+62e+645 fd92 645+62c+62e fd93 647+645+62c fd94 647+645+645 fd95 646+62d+645",
    "fd96 646+62d+649 fd97 646+62c+645 fd98 646+62c+645 fd99 646+62c+649 fd9a 646+645+64a",
    "fd9b 646+645+649 fd9c 64a+645+645 fd9d 64a+645+645 fd9e 628+62e+64a fd9f 62a+62c+64a",
    "fda0 62a+62c+649 fda1 62a+62e+64a fda2 62a+62e+649 fda3 62a+645+64a fda4 62a+645+649",
    "fda5 62c+645+64a fda6 62c+62d+649 fda7 62c+645+649 fda8 633+62e+649 fda9 635+62d+64a",
    "fdaa 634+62d+64a fdab 636+62d+64a fdac 644+62c+64a fdad 644+645+64a fdae 64a+62d+64a",
    "fdaf 64a+62c+64a fdb0 64a+645+64a fdb1 645+645+64a fdb2 642+645+64a fdb3 646+62d+64a",
    "fdb4 642+645+62d fdb5 644+62d+645 fdb6 639+645+64a fdb7 643+645+64a fdb8 646+62c+62d",
    "fdb9 645+62e+64a fdba 644+62c+645 fdbb 643+645+645 fdbc 644+62c+645 fdbd 646+62c+62d",
    "fdbe 62c+62d+64a fdbf 62d+62c+64a fdc0 645+62c+64a fdc1 641+645+64a fdc2 628+62d+64a",
    "fdc3 643+645+645 fdc4 639+62c+645 fdc5 635+645+645 fdc6 633+62e+64a fdc7 646+62c+64a",
    "fdf0 635+644+6d2 fdf1 642+644+6d2 fdf2 627+644+644+647 fdf3 627+643+628+631",
    "fdf4 645+62d+645+62f fdf5 635+644+639+645 fdf6 631+633+648+644 fdf7 639+644+64a+647",
    "fdf8 648+633+644+645 fdf9 635+644+649",
    "fdfa 635+644+649+20+627+644+644+647+20+639+644+64a+647+20+648+633+644+645",
    "fdfb 62c+644+20+62c+644+627+644+647 fdfc 631+6cc+627+644 fe10 2c fe11 3001 fe13 3a fe14 3b",
    "fe15 21 fe16 3f fe17 3016 fe18 3017 fe31 2014 fe32 2013 fe33 5f fe34 5f fe35 28 fe36 29",
    "fe37 7b fe38 7d fe39 3014 fe3a 3015 fe3b 3010 fe3c 3011 fe3d 300a fe3e 300b fe3f 3008",
    "fe40 3009 fe41 300c fe42 300d fe43 300e fe44 300f fe47 5b fe48 5d fe49 20+305 fe4a 20+305",
    "fe4b 20+305 fe4c 20+305 fe4d 5f fe4e 5f fe4f 5f fe50 2c fe51 3001 fe54 3b fe55 3a fe56 3f",
    "fe57 21 fe58 2014 fe59 28 fe5a 29 fe5b 7b fe5c 7d fe5d 3014 fe5e 3015 fe5f 23 fe60 26 fe61 2a",
    "fe62 2b fe64 3c fe65 3e fe66 3d fe68 5c fe69 24 fe6a 25 fe6b 40 fe70 20+64b fe71 640+64b",
    "fe72 20+64c fe74 20+64d fe76 20+64e fe77 640+64e fe78 20+64f fe79 640+64f fe7a 20+650",
    "fe7b 640+650 fe7c 20+651 fe7d 640+651 fe7e 20+652 fe7f 640+652 fe80 621 fe81 622 fe82 622",
    "fe83 623 fe84 623 fe85 624 fe86 624 fe87 625 fe88 625 fe89 626 fe8a 626 fe8b 626 fe8c 626",
    "fe8d 627 fe8e 627 fe8f 628 fe90 628 fe91 628 fe92 628 fe93 629 fe94 629 fe95 62a fe96 62a",
    "fe97 62a fe98 62a fe99 62b fe9a 62b fe9b 62b fe9c 62b fe9d 62c fe9e 62c fe9f 62c fea0 62c",
    "fea1 62d fea2 62d fea3 62d fea4 62d fea5 62e fea6 62e fea7 62e fea8 62e fea9 62f feaa 62f",
    "feab 630 feac 630 fead 631 feae 631 feaf 632 feb0 632 feb1 633 feb2 633 feb3 633 feb4 633",
    "feb5 634 feb6 634 feb7 634 feb8 634 feb9 635 feba 635 febb 635 febc 635 febd 636 febe 636",
    "febf 636 fec0 636 fec1 637 fec2 637 fec3 637 fec4 637 fec5 638 fec6 638 fec7 638 fec8 638",
    "fec9 639 feca 639 fecb 639 fecc 639 fecd 63a fece 63a fecf 63a fed0 63a fed1 641 fed2 641",
    "fed3 641 fed4 641 fed5 642 fed6 642 fed7 642 fed8 642 fed9 643 feda 643 fedb 643 fedc 643",
    "fedd 644 fede 644 fedf 644 fee0 644 fee1 645 fee2 645 fee3 645 fee4 645 fee5 646 fee6 646",
    "fee7 646 fee8 646 fee9 647 feea 647 feeb 647 feec 647 feed 648 feee 648 feef 649 fef0 649",
    "fef1 64a fef2 64a fef3 64a fef4 64a fef5 644+622 fef6 644+622 fef7 644+623 fef8 644+623",
    "fef9 644+625 fefa 644+625 fefb 644+627 fefc 644+627 ff01 21 ff02 22 ff03 23 ff04 24 ff05 25",
    "ff06 26 ff07 27 ff08 28 ff09 29 ff0a 2a ff0b 2b ff0c 2c ff0f 2f ff1a 3a ff1b 3b ff1c 3c",
    "ff1d 3d ff1e 3e ff1f 3f ff20 40 ff3b 5b ff3c 5c ff3d 5d ff3e 5e ff3f 5f ff40 60 ff5b 7b",
    "ff5c 7c ff5d 7d ff5e 7e ff5f 2985 ff60 2986 ff62 300c ff63 300d ff64 3001 ff65 30fb ff70 30fc",
    "ff9e 3099 ff9f 309a ffe0 a2 ffe1 a3 ffe2 ac ffe3 20+304 ffe4 a6 ffe5 a5 ffe6 20a9 ffe8 2502",
    "ffe9 2190 ffea 2191 ffeb 2192 ffec 2193 ffed 25a0 ffee 25cb 10781 2d0 10782 2d1 10c80 10cc0",
    "10c81 10cc1 10c82 10cc2 10c83 10cc3 10c84 10cc4 10c85 10cc5 10c86 10cc6 10c87 10cc7",
    "10c88 10cc8 10c89 10cc9 10c8a 10cca 10c8b 10ccb 10c8c 10ccc 10c8d 10ccd 10c8e 10cce",
    "10c8f 10ccf 10c90 10cd0 10c91 10cd1 10c92 10cd2 10c93 10cd3 10c94 10cd4 10c95 10cd5",
    "10c96 10cd6 10c97 10cd7 10c98 10cd8 10c99 10cd9 10c9a 10cda 10c9b 10cdb 10c9c 10cdc",
    "10c9d 10cdd 10c9e 10cde 10c9f 10cdf 10ca0 10ce0 10ca1 10ce1 10ca2 10ce2 10ca3 10ce3",
    "10ca4 10ce4 10ca5 10ce5 10ca6 10ce6 10ca7 10ce7 10ca8 10ce8 10ca9 10ce9 10caa 10cea",
    "10cab 10ceb 10cac 10cec 10cad 10ced 10cae 10cee 10caf 10cef 10cb0 10cf0 10cb1 10cf1",
    "10cb2 10cf2 10d50 10d70 10d51 10d71 10d52 10d72 10d53 10d73 10d54 10d74 10d55 10d75",
    "10d56 10d76 10d57 10d77 10d58 10d78 10d59 10d79 10d5a 10d7a 10d5b 10d7b 10d5c 10d7c",
    "10d5d 10d7d 10d5e 10d7e 10d5f 10d7f 10d60 10d80 10d61 10d81 10d62 10d82 10d63 10d83",
    "10d64 10d84 10d65 10d85 16ea0 16ebb 16ea1 16ebc 16ea2 16ebd 16ea3 16ebe 16ea4 16ebf",
    "16ea5 16ec0 16ea6 16ec1 16ea7 16ec2 16ea8 16ec3 16ea9 16ec4 16eaa 16ec5 16eab 16ec6",
    "16eac 16ec7 16ead 16ec8 16eae 16ec9 16eaf 16eca 16eb0 16ecb 16eb1 16ecc 16eb2 16ecd",
    "16eb3 16ece 16eb4 16ecf 16eb5 16ed0 16eb6 16ed1 16eb7 16ed2 16eb8 16ed3 1d15e 1d157+1d165",
    "1d15f 1d158+1d165 1d160 1d158+1d165+1d16e 1d161 1d158+1d165+1d16f 1d162 1d158+1d165+1d170",
    "1d163 1d158+1d165+1d171 1d164 1d158+1d165+1d172 1d1bb 1d1b9+1d165 1d1bc 1d1ba+1d165",
    "1d1bd 1d1b9+1d165+1d16e 1d1be 1d1ba+1d165+1d16e 1d1bf 1d1b9+1d165+1d16f",
    "1d1c0 1d1ba+1d165+1d16f 1d6c1 2207 1d6db 2202 1d6fb 2207 1d715 2202 1d735 2207 1d74f 2202",
    "1d76f 2207 1d789 2202 1d7a9 2207 1d7c3 2202 1e900 1e922 1e901 1e923 1e902 1e924 1e903 1e925",
    "1e904 1e926 1e905 1e927 1e906 1e928 1e907 1e929 1e908 1e92a 1e909 1e92b 1e90a 1e92c",
    "1e90b 1e92d 1e90c 1e92e 1e90d 1e92f 1e90e 1e930 1e90f 1e931 1e910 1e932 1e911 1e933",
    "1e912 1e934 1e913 1e935 1e914 1e936 1e915 1e937 1e916 1e938 1e917 1e939 1e918 1e93a",
    "1e919 1e93b 1e91a 1e93c 1e91b 1e93d 1e91c 1e93e 1e91d 1e93f 1e91e 1e940 1e91f 1e941",
    "1e920 1e942 1e921 1e943 1ee00 627 1ee01 628 1ee02 62c 1ee03 62f 1ee05 648 1ee06 632 1ee07 62d",
    "1ee08 637 1ee09 64a 1ee0a 643 1ee0b 644 1ee0c 645 1ee0d 646 1ee0e 633 1ee0f 639 1ee10 641",
    "1ee11 635 1ee12 642 1ee13 631 1ee14 634 1ee15 62a 1ee16 62b 1ee17 62e 1ee18 630 1ee19 636",
    "1ee1a 638 1ee1b 63a 1ee1c 66e 1ee1d 6ba 1ee1e 6a1 1ee1f 66f 1ee21 628 1ee22 62c 1ee24 647",
    "1ee27 62d 1ee29 64a 1ee2a 643 1ee2b 644 1ee2c 645 1ee2d 646 1ee2e 633 1ee2f 639 1ee30 641",
    "1ee31 635 1ee32 642 1ee34 634 1ee35 62a 1ee36 62b 1ee37 62e 1ee39 636 1ee3b 63a 1ee42 62c",
    "1ee47 62d 1ee49 64a 1ee4b 644 1ee4d 646 1ee4e 633 1ee4f 639 1ee51 635 1ee52 642 1ee54 634",
    "1ee57 62e 1ee59 636 1ee5b 63a 1ee5d 6ba 1ee5f 66f 1ee61 628 1ee62 62c 1ee64 647 1ee67 62d",
    "1ee68 637 1ee69 64a 1ee6a 643 1ee6c 645 1ee6d 646 1ee6e 633 1ee6f 639 1ee70 641 1ee71 635",
    "1ee72 642 1ee74 634 1ee75 62a 1ee76 62b 1ee77 62e 1ee79 636 1ee7a 638 1ee7b 63a 1ee7c 66e",
    "1ee7e 6a1 1ee80 627 1ee81 628 1ee82 62c 1ee83 62f 1ee84 647 1ee85 648 1ee86 632 1ee87 62d",
    "1ee88 637 1ee89 64a 1ee8b 644 1ee8c 645 1ee8d 646 1ee8e 633 1ee8f 639 1ee90 641 1ee91 635",
    "1ee92 642 1ee93 631 1ee94 634 1ee95 62a 1ee96 62b 1ee97 62e 1ee98 630 1ee99 636 1ee9a 638",
    "1ee9b 63a 1eea1 628 1eea2 62c 1eea3 62f 1eea5 648 1eea6 632 1eea7 62d 1eea8 637 1eea9 64a",
    "1eeab 644 1eeac 645 1eead 646 1eeae 633 1eeaf 639 1eeb0 641 1eeb1 635 1eeb2 642 1eeb3 631",
    "1eeb4 634 1eeb5 62a 1eeb6 62b 1eeb7 62e 1eeb8 630 1eeb9 636 1eeba 638 1eebb 63a 1f101 30+2c",
    "1f102 31+2c 1f103 32+2c 1f104 33+2c 1f105 34+2c 1f106 35+2c 1f107 36+2c 1f108 37+2c",
    "1f109 38+2c 1f10a 39+2c 1f110 28+61+29 1f111 28+62+29 1f112 28+63+29 1f113 28+64+29",
    "1f114 28+65+29 1f115 28+66+29 1f116 28+67+29 1f117 28+68+29 1f118 28+69+29 1f119 28+6a+29",
    "1f11a 28+6b+29 1f11b 28+6c+29 1f11c 28+6d+29 1f11d 28+6e+29 1f11e 28+6f+29 1f11f 28+70+29",
    "1f120 28+71+29 1f121 28+72+29 1f122 28+73+29 1f123 28+74+29 1f124 28+75+29 1f125 28+76+29",
    "1f126 28+77+29 1f127 28+78+29 1f128 28+79+29 1f129 28+7a+29 1f12a 3014+73+3015 1f12d 63+64",
    "1f12e 77+7a 1f14a 68+76 1f14b 6d+76 1f14c 73+64 1f14d 73+73 1f14e 70+70+76 1f14f 77+63",
    "1f16a 6d+63 1f16b 6d+64 1f16c 6d+72 1f190 64+6a 1f200 307b+304b 1f201 30b3+30b3",
    "1f240 3014+672c+3015 1f241 3014+4e09+3015 1f242 3014+4e8c+3015 1f243 3014+5b89+3015",
    "1f244 3014+70b9+3015 1f245 3014+6253+3015 1f246 3014+76d7+3015 1f247 3014+52dd+3015",
    "1f248 3014+6557+3015"]

end SafeReadme.Url.Domain
