import SafeReadme.Text.Basic

/-!
# Marks and composed characters

The order of marks behind a letter, and the characters that stand for a letter with a mark. Only
characters that domains can hold are listed.
-/

namespace SafeReadme.Text.Normal

/-- The combining classes in runs. Class 0 is that of letters and of marks that stay in place. -/
def classRuns : List (Nat × String) :=
  Runs.read [
    "0 0 300 230 315 232 316 220 31a 232 31b 216 31c 220 321 202 323 220 327 202 329 220 334 1",
    "339 220 33d 230 347 220 34a 230 34d 220 350 230 353 220 357 230 358 232 359 220 35b 230",
    "35c 233 35d 234 35f 233 360 234 362 233 363 230 371 0 483 230 488 0 591 220 592 230 596 220",
    "597 230 59a 222 59b 220 59c 230 5a2 220 5a8 230 5aa 220 5ab 230 5ad 222 5ae 228 5af 230 5b0 10",
    "5b1 11 5b2 12 5b3 13 5b4 14 5b5 15 5b6 16 5b7 17 5b8 18 5b9 19 5bb 20 5bc 21 5bd 22 5be 0",
    "5bf 23 5c0 0 5c1 24 5c2 25 5c3 0 5c4 230 5c5 220 5c6 0 5c7 18 5d0 0 610 230 618 30 619 31",
    "61a 32 61b 0 64b 27 64c 28 64d 29 64e 30 64f 31 650 32 651 33 652 34 653 230 655 220 657 230",
    "65c 220 65d 230 65f 220 660 0 670 35 671 0 6d6 230 6de 0 6df 230 6e3 220 6e4 230 6e5 0 6e7 230",
    "6e9 0 6ea 220 6eb 230 6ed 220 6ee 0 711 36 712 0 730 230 731 220 732 230 734 220 735 230",
    "737 220 73a 230 73b 220 73d 230 73e 220 73f 230 742 220 743 230 744 220 745 230 746 220",
    "747 230 748 220 749 230 74d 0 7eb 230 7f2 220 7f3 230 7f4 0 7fd 220 7fe 0 816 230 81a 0",
    "81b 230 824 0 825 230 828 0 829 230 830 0 859 220 85e 0 897 230 899 220 89c 230 8a0 0 8ca 230",
    "8cf 220 8d4 230 8e3 220 8e4 230 8e6 220 8e7 230 8e9 220 8ea 230 8ed 220 8f0 27 8f1 28 8f2 29",
    "8f3 230 8f6 220 8f7 230 8f9 220 8fb 230 900 0 93c 7 93d 0 94d 9 94e 0 951 230 952 220 953 230",
    "955 0 9bc 7 9bd 0 9cd 9 9ce 0 9fe 230 a01 0 a3c 7 a3e 0 a4d 9 a51 0 abc 7 abd 0 acd 9 ad0 0",
    "b3c 7 b3d 0 b4d 9 b55 0 bcd 9 bd0 0 c3c 7 c3d 0 c4d 9 c55 84 c56 91 c58 0 cbc 7 cbd 0 ccd 9",
    "cd5 0 d3b 9 d3d 0 d4d 9 d4e 0 dca 9 dcf 0 e38 103 e3a 9 e3f 0 e48 107 e4c 0 eb8 118 eba 9",
    "ebb 0 ec8 122 ecc 0 f18 220 f1a 0 f35 220 f36 0 f37 220 f38 0 f39 216 f3a 0 f71 129 f72 130",
    "f74 132 f7a 130 f7e 0 f80 130 f82 230 f84 9 f85 0 f86 230 f88 0 fc6 220 fc7 0 1037 7 1038 0",
    "1039 9 103b 0 108d 220 108e 0 135d 230 1360 0 1714 9 171f 0 1734 9 1735 0 17d2 9 17d3 0",
    "17dd 230 17e0 0 18a9 228 18aa 0 1939 222 193a 230 193b 220 1940 0 1a17 230 1a18 220 1a19 0",
    "1a60 9 1a61 0 1a75 230 1a7f 220 1a80 0 1ab0 230 1ab5 220 1abb 230 1abd 220 1abe 0 1abf 220",
    "1ac1 230 1ac3 220 1ac5 230 1aca 220 1acb 230 1add 220 1ae0 230 1ae6 220 1ae7 230 1aeb 234",
    "1b00 0 1b34 7 1b35 0 1b44 9 1b45 0 1b6b 230 1b6c 220 1b6d 230 1b74 0 1baa 9 1bac 0 1be6 7",
    "1be7 0 1bf2 9 1bfc 0 1c37 7 1c3b 0 1cd0 230 1cd3 0 1cd4 1 1cd5 220 1cda 230 1cdc 220 1ce0 230",
    "1ce1 0 1ce2 1 1ce9 0 1ced 220 1cee 0 1cf4 230 1cf5 0 1cf8 230 1cfa 0 1dc0 230 1dc2 220",
    "1dc3 230 1dca 220 1dcb 230 1dcd 234 1dce 214 1dcf 220 1dd0 202 1dd1 230 1df6 232 1df7 228",
    "1df9 220 1dfa 218 1dfb 230 1dfc 233 1dfd 220 1dfe 230 1dff 220 1e01 0 20d0 230 20d2 1 20d4 230",
    "20d8 1 20db 230 20dd 0 20e1 230 20e2 0 20e5 1 20e7 230 20e8 220 20e9 230 20ea 1 20ec 220",
    "20f0 230 2104 0 2cef 230 2cf3 0 2d7f 9 2d80 0 2de0 230 2e00 0 302a 218 302b 228 302c 232",
    "302d 222 302e 224 3030 0 3099 8 309d 0 a66f 230 a670 0 a674 230 a67e 0 a69e 230 a6a0 0",
    "a6f0 230 a6f2 0 a806 9 a807 0 a82c 9 a830 0 a8c4 9 a8c5 0 a8e0 230 a8f2 0 a92b 220 a92e 0",
    "a953 9 a95f 0 a9b3 7 a9b4 0 a9c0 9 a9c1 0 aab0 230 aab1 0 aab2 230 aab4 220 aab5 0 aab7 230",
    "aab9 0 aabe 230 aac0 0 aac1 230 aac2 0 aaf6 9 ab01 0 abed 9 abf0 0 fb1e 26 fbb2 0 fe20 230",
    "fe27 220 fe2e 230 fe45 0 101fd 220 10280 0 102e0 220 102e1 0 10376 230 10380 0 10a0d 220",
    "10a0e 0 10a0f 230 10a10 0 10a38 230 10a39 1 10a3a 220 10a3f 9 10a40 0 10ae5 230 10ae6 220",
    "10aeb 0 10d24 230 10d30 0 10d69 230 10d6e 0 10eab 230 10ead 0 10efa 220 10efc 0 10efd 220",
    "10f00 0 10f46 220 10f48 230 10f4b 220 10f4c 230 10f4d 220 10f51 0 10f82 230 10f83 220",
    "10f84 230 10f85 220 10f86 0 11046 9 11047 0 11070 9 11071 0 1107f 9 11080 0 110b9 9 110ba 7",
    "110bb 0 11100 230 11103 0 11133 9 11136 0 11173 7 11174 0 111c0 9 111c1 0 111ca 7 111cb 0",
    "11235 9 11236 7 11237 0 112e9 7 112ea 9 112f0 0 1133b 7 1133d 0 1134d 9 11350 0 11366 230",
    "11380 0 113ce 9 113d1 0 11442 9 11443 0 11446 7 11447 0 1145e 230 1145f 0 114c2 9 114c3 7",
    "114c4 0 115bf 9 115c0 7 115c1 0 1163f 9 11640 0 116b6 9 116b7 7 116b8 0 1172b 9 11730 0",
    "11839 9 1183a 7 1183b 0 1193d 9 1193f 0 11943 7 11944 0 119e0 9 119e1 0 11a34 9 11a35 0",
    "11a47 9 11a50 0 11a99 9 11a9a 0 11c3f 9 11c40 0 11d42 7 11d43 0 11d44 9 11d46 0 11d97 9",
    "11d98 0 11f41 9 11f43 0 1612f 9 16130 0 16af0 1 16af5 0 16b30 230 16b37 0 16ff0 6 16ff2 0",
    "1bc9e 1 1bc9f 0 1d165 216 1d167 1 1d16a 0 1d16d 226 1d16e 216 1d17b 220 1d183 0 1d185 230",
    "1d18a 220 1d18c 0 1d1aa 230 1d1ae 0 1d242 230 1d245 0 1e000 230 1e100 0 1e130 230 1e137 0",
    "1e2ae 230 1e2c0 0 1e2ec 230 1e2f0 0 1e4ec 232 1e4ee 220 1e4ef 230 1e4f0 0 1e5ee 230 1e5ef 220",
    "1e5f0 0 1e6e3 230 1e6e4 0 1e6e6 230 1e6e7 0 1e6ee 230 1e6f0 0 1e6f5 230 1e6fe 0 1e8d0 220",
    "1e922 0 1e944 230 1e94a 7 1e94b 0"]

/-- Composed characters by the mark in them: each letter is followed by the letter with the mark. -/
def compositeRows : List (Nat × String) :=
  [
    (0x300, "aàeèiìnǹoòuùwẁyỳâầêềôồüǜăằēḕōṑơờưừαὰεὲηὴιὶοὸυὺωὼϊῒϋῢеѐиѝἀἂἁἃἐἒἑἓἠἢἡἣἰἲἱἳὀὂὁὃὐὒ"),
    (0x300, "ὑὓὠὢὡὣ"),
    (0x301, "aácćeégǵiíkḱlĺmḿnńoópṕrŕsśuúwẃyýzźâấåǻæǽçḉêếïḯôốõṍøǿüǘăắēḗōṓũṹơớưứαάεέηήιίοόυύ"),
    (0x301, "ωώϊΐϋΰгѓкќἀἄἁἅἐἔἑἕἠἤἡἥἰἴἱἵὀὄὁὅὐὔὑὕὠὤὡὥ"), (0x302, "aâcĉeêgĝhĥiîjĵoôsŝuûwŵyŷzẑạậẹệọộ"),
    (0x303, "aãeẽiĩnñoõuũvṽyỹâẫêễôỗăẵơỡưữ"),
    (0x304, "aāeēgḡiīoōuūyȳäǟæǣõȭöȫüǖǫǭȧǡȯȱαᾱιῑυῡиӣуӯḷḹṛṝ"),
    (0x306, "aăeĕgğiĭoŏuŭȩḝαᾰιῐυῠаӑеӗжӂийуўạặ"),
    (0x307, "aȧbḃcċdḋeėfḟgġhḣmṁnṅoȯpṗrṙsṡtṫwẇxẋyẏzżśṥšṧṣṩ𐗒𐗉𐗚𐗤"),
    (0x308, "aäeëhḧiïoötẗuüwẅxẍyÿõṏūṻιϊυϋаӓеёжӝзӟиӥоӧуӱчӵыӹэӭіїәӛөӫ"),
    (0x309, "aảeẻiỉoỏuủyỷâẩêểôổăẳơởưử"), (0x30A, "aåuůwẘyẙ"), (0x30B, "oőuűуӳ"),
    (0x30C, "aǎcčdďeěgǧhȟiǐjǰkǩlľnňoǒrřsštťuǔzžüǚʒǯ"), (0x30F, "aȁeȅiȉoȍrȑuȕѵѷ"),
    (0x311, "aȃeȇiȋoȏrȓuȗ"), (0x313, "αἀεἐηἠιἰοὀρῤυὐωὠ"), (0x314, "αἁεἑηἡιἱοὁρῥυὑωὡ"),
    (0x31B, "oơuư"), (0x323, "aạbḅdḍeẹhḥiịkḳlḷmṃnṇoọrṛsṣtṭuụvṿwẉyỵzẓơợưự"), (0x324, "uṳ"),
    (0x325, "aḁ"), (0x326, "sștț"), (0x327, "cçdḑeȩgģhḩkķlļnņrŗsştţ"), (0x328, "aąeęiįoǫuų"),
    (0x32D, "dḓeḙlḽnṋtṱuṷ"), (0x32E, "hḫ"), (0x330, "eḛiḭuṵ"), (0x331, "bḇdḏhẖkḵlḻnṉrṟtṯzẕ"),
    (0x338, "<\u226e=\u2260>\u226f\u2190\u219a\u2192\u219b\u2194\u21ae\u21d0\u21cd"),
    (0x338, "\u21d2\u21cf\u21d4\u21ce\u2203\u2204\u2208\u2209\u220b\u220c\u2223\u2224"),
    (0x338, "\u2225\u2226\u223c\u2241\u2243\u2244\u2245\u2247\u2248\u2249\u224d\u226d"),
    (0x338, "\u2261\u2262\u2264\u2270\u2265\u2271\u2272\u2274\u2273\u2275\u2276\u2278"),
    (0x338, "\u2277\u2279\u227a\u2280\u227b\u2281\u227c\u22e0\u227d\u22e1\u2282\u2284"),
    (0x338, "\u2283\u2285\u2286\u2288\u2287\u2289\u2291\u22e2\u2292\u22e3\u22a2\u22ac"),
    (0x338, "\u22a8\u22ad\u22a9\u22ae\u22ab\u22af\u22b2\u22ea\u22b3\u22eb\u22b4\u22ec"),
    (0x338, "\u22b5\u22ed"), (0x342, "αᾶηῆιῖυῦωῶϊῗϋῧἀἆἁἇἠἦἡἧἰἶἱἷὐὖὑὗὠὦὡὧ"),
    (0x653, "\u0627\u0622"),
    (0x654, "\u0627\u0623\u0648\u0624\u064a\u0626\u06c1\u06c2\u06d2\u06d3\u06d5\u06c0"),
    (0x655, "\u0627\u0625"), (0x93C, "नऩरऱळऴ"), (0x9BE, "\u09c7\u09cb"), (0x9D7, "\u09c7\u09cc"),
    (0xB3E, "\u0b47\u0b4b"), (0xB56, "\u0b47\u0b48"), (0xB57, "\u0b47\u0b4c"),
    (0xBBE, "\u0bc6\u0bca\u0bc7\u0bcb"), (0xBD7, "ஒஔ\u0bc6\u0bcc"), (0xC56, "\u0c46\u0c48"),
    (0xCC2, "\u0cc6\u0cca"), (0xCD5, "\u0cbf\u0cc0\u0cc6\u0cc7\u0cca\u0ccb"),
    (0xCD6, "\u0cc6\u0cc8"), (0xD3E, "\u0d46\u0d4a\u0d47\u0d4b"), (0xD57, "\u0d46\u0d4c"),
    (0xDCA, "\u0dd9\u0dda\u0ddc\u0ddd"), (0xDCF, "\u0dd9\u0ddc"), (0xDDF, "\u0dd9\u0dde"),
    (0x102E, "ဥဦ"),
    (0x1B35, "ᬅᬆᬇᬈᬉᬊᬋᬌᬍᬎᬑᬒ\u1b3a\u1b3b\u1b3c\u1b3d\u1b3e\u1b40\u1b3f\u1b41\u1b42\u1b43"),
    (0x3099, "うゔかがきぎくぐけげこごさざしじすずせぜそぞただちぢつづてでとどはばひびふぶへべほぼ\u309d\u309eウヴカガキギクグケゲコゴサザシジスズセゼソゾタダ"),
    (0x3099, "チヂツヅテデトドハバヒビフブヘベホボワヷヰヸヱヹヲヺ\u30fd\u30fe"), (0x309A, "はぱひぴふぷへぺほぽハパヒピフプヘペホポ"),
    (0x110BA, "𑂙𑂚𑂛𑂜𑂥𑂫"), (0x11127, "𑄱𑄮𑄲𑄯"), (0x1133E, "𑍇𑍋"), (0x11357, "𑍇𑍌"), (0x113B8, "𑏅𑎸"),
    (0x113BB, "𑎄𑎅"), (0x113C2, "𑎋𑎎𑏅𑏂"), (0x113C9, "𑎂𑎃𑎐𑎑𑏅𑏉"), (0x114B0, "𑒹𑒼"), (0x114BA, "𑒹𑒻"),
    (0x114BD, "𑒹𑒾"), (0x115AF, "𑖸𑖺𑖹𑖻"), (0x11930, "𑤵𑤸"), (0x1611E, "𖄡𖄞"), (0x1611F, "𖄦𖄡𖄦𖄢𖄧𖄩𖄤"),
    (0x16120, "𖄨𖄡𖄨"), (0x16129, "𖄡𖄩"), (0x16D67, "𖵣𖵪𖵨𖵩𖵪")]

/-- Runs of marks (`m`) and of all else (`o`). -/
def markRuns : List (Nat × String) :=
  Runs.read [
    "0 o 300 m 371 o 483 m 48b o 591 m 5be o 5bf m 5c0 o 5c1 m 5c3 o 5c4 m 5c6 o 5c7 m 5d0 o 610 m",
    "61b o 64b m 660 o 670 m 671 o 6d6 m 6de o 6df m 6e5 o 6e7 m 6e9 o 6ea m 6ee o 711 m 712 o",
    "730 m 74d o 7a6 m 7b1 o 7eb m 7f4 o 7fd m 7fe o 816 m 81a o 81b m 824 o 825 m 828 o 829 m",
    "830 o 859 m 85e o 897 m 8a0 o 8ca m 904 o 93a m 93d o 93e m 950 o 951 m 960 o 962 m 964 o",
    "981 m 985 o 9bc m 9bd o 9be m 9ce o 9d7 m 9e0 o 9e2 m 9e6 o 9fe m a05 o a3c m a5c o a70 m",
    "a72 o a75 m a76 o a81 m a85 o abc m abd o abe m ad0 o ae2 m ae6 o afa m b05 o b3c m b3d o",
    "b3e m b5f o b62 m b66 o b82 m b83 o bbe m bd0 o bd7 m be6 o c00 m c05 o c3c m c3d o c3e m",
    "c58 o c62 m c66 o c81 m c84 o cbc m cbd o cbe m cdc o ce2 m ce6 o cf3 m d04 o d3b m d3d o",
    "d3e m d4e o d57 m d58 o d62 m d66 o d81 m d85 o dca m de6 o df2 m df4 o e31 m e32 o e34 m",
    "e3f o e47 m e4f o eb1 m eb2 o eb4 m ebd o ec8 m ed0 o f18 m f1a o f35 m f36 o f37 m f38 o",
    "f39 m f3a o f3e m f40 o f71 m f85 o f86 m f88 o f8d m fbe o fc6 m fc7 o 102b m 103f o 1056 m",
    "105a o 105e m 1061 o 1062 m 1065 o 1067 m 106e o 1071 m 1075 o 1082 m 108e o 108f m 1090 o",
    "109a m 109e o 135d m 1360 o 1712 m 171f o 1732 m 1735 o 1752 m 1760 o 1772 m 1780 o 17b6 m",
    "17d4 o 17dd m 17e0 o 1885 m 1887 o 18a9 m 18aa o 1920 m 1940 o 1a17 m 1a1e o 1a55 m 1a80 o",
    "1ab0 m 1b05 o 1b34 m 1b45 o 1b6b m 1b74 o 1b80 m 1b83 o 1ba1 m 1bae o 1be6 m 1bfc o 1c24 m",
    "1c3b o 1cd0 m 1cd3 o 1cd4 m 1ce9 o 1ced m 1cee o 1cf4 m 1cf5 o 1cf7 m 1cfa o 1dc0 m 1e01 o",
    "20d0 m 2104 o 2cef m 2cf3 o 2d7f m 2d80 o 2de0 m 2e00 o 302a m 3030 o 3099 m 309d o a66f m",
    "a673 o a674 m a67e o a69e m a6a0 o a6f0 m a6f2 o a802 m a803 o a806 m a807 o a80b m a80c o",
    "a823 m a828 o a82c m a830 o a880 m a882 o a8b4 m a8ce o a8e0 m a8f2 o a8ff m a900 o a926 m",
    "a92e o a947 m a95f o a980 m a984 o a9b3 m a9c1 o a9e5 m a9e6 o aa29 m aa40 o aa43 m aa44 o",
    "aa4c m aa50 o aa7b m aa7e o aab0 m aab1 o aab2 m aab5 o aab7 m aab9 o aabe m aac0 o aac1 m",
    "aac2 o aaeb m aaf0 o aaf5 m ab01 o abe3 m abeb o abec m abf0 o fb1e m fbb2 o fe20 m fe45 o",
    "101fd m 10280 o 102e0 m 102e1 o 10376 m 10380 o 10a01 m 10a10 o 10a38 m 10a40 o 10ae5 m",
    "10aeb o 10d24 m 10d30 o 10d69 m 10d6e o 10eab m 10ead o 10efa m 10f00 o 10f46 m 10f51 o",
    "10f82 m 10f86 o 11000 m 11003 o 11038 m 11047 o 11070 m 11071 o 11073 m 11075 o 1107f m",
    "11083 o 110b0 m 110bb o 110c2 m 110d0 o 11100 m 11103 o 11127 m 11136 o 11145 m 11147 o",
    "11173 m 11174 o 11180 m 11183 o 111b3 m 111c1 o 111c9 m 111cd o 111ce m 111d0 o 1122c m",
    "11238 o 1123e m 1123f o 11241 m 11280 o 112df m 112f0 o 11300 m 11305 o 1133b m 1133d o",
    "1133e m 11350 o 11357 m 1135d o 11362 m 11380 o 113b8 m 113d1 o 113d2 m 113d3 o 113e1 m",
    "11400 o 11435 m 11447 o 1145e m 1145f o 114b0 m 114c4 o 115af m 115c1 o 115dc m 11600 o",
    "11630 m 11641 o 116ab m 116b8 o 1171d m 11730 o 1182c m 1183b o 11930 m 1193f o 11940 m",
    "11941 o 11942 m 11944 o 119d1 m 119e1 o 119e4 m 11a00 o 11a01 m 11a0b o 11a33 m 11a3a o",
    "11a3b m 11a3f o 11a47 m 11a50 o 11a51 m 11a5c o 11a8a m 11a9a o 11b60 m 11bc0 o 11c2f m",
    "11c40 o 11c92 m 11d00 o 11d31 m 11d46 o 11d47 m 11d50 o 11d8a m 11d98 o 11ef3 m 11ef7 o",
    "11f00 m 11f02 o 11f03 m 11f04 o 11f34 m 11f43 o 11f5a m 11fb0 o 13440 m 13441 o 13447 m",
    "13460 o 1611e m 16130 o 16af0 m 16af5 o 16b30 m 16b37 o 16f4f m 16f50 o 16f51 m 16f93 o",
    "16fe4 m 16ff2 o 1bc9d m 1bc9f o 1cf00 m 1cf50 o 1d165 m 1d16a o 1d16d m 1d183 o 1d185 m",
    "1d18c o 1d1aa m 1d1ae o 1d242 m 1d245 o 1da00 m 1da37 o 1da3b m 1da6d o 1da75 m 1da76 o",
    "1da84 m 1da85 o 1da9b m 1df00 o 1e000 m 1e100 o 1e130 m 1e137 o 1e2ae m 1e2c0 o 1e2ec m",
    "1e2f0 o 1e4ec m 1e4f0 o 1e5ee m 1e5f0 o 1e6e3 m 1e6e4 o 1e6e6 m 1e6e7 o 1e6ee m 1e6f0 o",
    "1e6f5 m 1e6fe o 1e8d0 m 1e922 o 1e944 m 1e94b o"]

end SafeReadme.Text.Normal
