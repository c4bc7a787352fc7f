import DocumentStore.Character.Range

/-!
# Scripts

Every character belongs to one script, where common and inherited are scripts as well, and may be
used in others. The table is split to keep its parts short.
-/
namespace DocumentStore.Character

/-- A script with its names. -/
structure Script where
  names : List String
  runs : Runs
  /-- The runs of the characters of other scripts that are used in this one too. -/
  shared : Runs := ""

def scripts1 : List Script := [
  { names := ["adlm", "adlam"], runs := "125184 76 4 10 4 2",
    shared := "1567 1 32 1 6670 1 3569 1" },
  { names := ["ahom"], runs := "71424 27 2 15 4 23" },
  { names := ["hluw", "anatolianhieroglyphs"], runs := "82944 583" },
  { names := ["arab", "arabic"], runs := "1536 5 1 6 1 14 1 3 1 32 1 10 11 26 1 108 1 34 80 48
    240 31 1 2 5 75 1 29 62032 115 16 363 2 80 2 54 7 1 32 16 112 5 1 135 3939 31 67 3 55 4
    57088 4 1 27 1 2 1 1 2 1 1 10 1 4 1 1 1 1 6 1 4 1 1 1 1 1 1 3 1 2 1 1 2 1 1 1 1 1 1 1 1 1
    1 2 1 1 2 4 1 7 1 4 1 4 1 1 1 10 1 17 5 3 1 5 1 17 52 2",
    shared := "1548 1 14 1 3 1 32 1 10 11 26 1 6622 1 3569 1 52988 2 1440 28" },
  { names := ["armn", "armenian"], runs := "1329 38 2 50 2 3 62851 5",
    shared := "776 1" },
  { names := ["avst", "avestan"], runs := "68352 54 3 7",
    shared := "183 1 11640 2" },
  { names := ["bali", "balinese"], runs := "6912 77 1 50" },
  { names := ["bamu", "bamum"], runs := "42656 88 49416 569" },
  { names := ["bass", "bassavah"], runs := "92880 30 2 6" },
  { names := ["batk", "batak"], runs := "7104 52 8 4" },
  { names := ["beng", "bengali"], runs := "2432 4 1 8 2 2 2 22 1 7 1 1 3 4 2 9 2 2 2 4 8 1 4 2
    1 5 2 25",
    shared := "700 1 1684 2 17 2 4970 1 1 1 2 2 1 1 8 1 8 1 2 1 4 1 2 3 35833 1" },
  { names := ["bhks", "bhaiksuki"], runs := "72704 9 1 45 1 14 10 29" },
  { names := ["bopo", "bopomofo"], runs := "746 2 11801 43 112 32",
    shared := "711 1 1 3 13 1 11559 3 4 10 1 13 10 4 2 1 6 1 195 1 52553 2 282 5" },
  { names := ["brah", "brahmi"], runs := "69632 78 4 36 9 1" },
  { names := ["brai", "braille"], runs := "10240 256" },
  { names := ["bugi", "buginese"], runs := "6656 28 2 2",
    shared := "43471 1" },
  { names := ["buhd", "buhid"], runs := "5952 20",
    shared := "5941 2" },
  { names := ["cans", "canadianaboriginal"], runs := "5120 640 560 70 65978 16" },
  { names := ["cari", "carian"], runs := "66208 49",
    shared := "183 1 8098 1 2 1 3539 1" },
  { names := ["aghb", "caucasianalbanian"], runs := "66864 52 11 1",
    shared := "772 1 44 1 44 1" },
  { names := ["cakm", "chakma"], runs := "69888 53 1 18",
    shared := "2534 10 1616 10" },
  { names := ["cham"], runs := "43520 55 9 14 2 10 2 4" },
  { names := ["cher", "cherokee"], runs := "5024 86 2 6 38770 80",
    shared := "768 3 1 1 6 2 22 2 11 2" },
  { names := ["chrs", "chorasmian"], runs := "69552 28" },
  { names := ["zyyy", "common"], runs := "0 65 26 6 26 47 1 15 1 5 23 1 31 1 449 39 5 5 2 20
    116 1 9 1 6 1 1 1 637 1 6 1 14 1 3 1 32 1 156 1 516 1 129 2 1241 1 405 4 290 1 1519 3 71 2
    203 2 1 1 1229 1 13 1 7 4 1 6 1 3 2 1 773 12 2 87 1 11 3 11 1 15 17 33 63 38 1 3 2 6 1 27
    1 17 41 3 4 666 22 11 21 928 256 628 2 32 1 105 512 94 402 21 1 1 1 25 15 8 4 4 91 2 3 1
    90 2 147 16 32 38 9 1 48 64 31 81 47 1 88 168 6592 64 22784 34 102 3 165 10 244 1 160 1
    395 1 14 2 20946 2 208 10 22 35 1 19 1 4 147 1 1 32 26 6 26 11 10 1 45 2 64 7 1 7 10 5 258
    3 4 45 3 9 80 13 51 45 228 27 47524 4 3932 250 6 436 156 116 60 246 10 39 2 62 3 17 8 2 7
    30 4 61 213 20 12 20 12 87 9 25 135 85 1 71 1 2 2 1 2 2 2 4 1 12 1 1 1 7 1 65 1 4 2 8 1 7
    1 28 1 4 1 5 1 1 3 7 1 340 2 292 2 50 5233 68 76 61 706 44 4 100 12 15 2 15 1 15 1 37 10
    174 56 26 1 2 13 44 4 9 7 2 14 6 154 984 4 17 3 13 3 119 4 95 6 12 4 1 15 12 4 56 8 10 6
    40 8 30 2 12 4 2 62 340 12 14 2 13 3 10 5 56 7 15 2 11 6 9 7 147 1 102 787463 1 30 96" }]

def scripts2 : List Script := [
  { names := ["copt", "coptic", "qaac"], runs := "994 14 10384 116 5 7",
    shared := "183 1 584 1 3 2 1 1 108 2 10913 1 54472 28" },
  { names := ["xsux", "cuneiform"], runs := "73728 922 102 111 1 5 11 196" },
  { names := ["cprt", "cypriot"], runs := "67584 6 2 1 1 44 1 2 3 1 2 1",
    shared := "65792 3 4 45 3 9" },
  { names := ["cpmn", "cyprominoan"], runs := "77712 99",
    shared := "65792 2" },
  { names := ["cyrl", "cyrillic"], runs := "1024 133 2 169 5968 11 160 1 76 1 4199 32 30784 96
    22414 2 57856 62 33 1",
    shared := "700 1 67 3 1 1 1 1 1 1 2 1 5 1 371 2 6513 1 4170 1" },
  { names := ["dsrt", "deseret"], runs := "66560 80" },
  { names := ["deva", "devanagari"], runs := "2304 81 4 15 2 26 40800 32 29184 10",
    shared := "700 1 1684 2 17 2 4970 39 1 2 1014 1 34623 10" },
  { names := ["diak", "divesakuru"], runs := "71936 7 2 1 2 8 1 2 1 30 1 2 2 12 9 10" },
  { names := ["dogr", "dogra"], runs := "71680 60",
    shared := "2404 12 40640 10" },
  { names := ["dupl", "duployan"], runs := "113664 107 5 13 3 9 7 10 2 4",
    shared := "183 1 591 2 1 1 24 2 11031 1 101987 4" },
  { names := ["egyp", "egyptianhieroglyphs"], runs := "77824 1110 10 3995" },
  { names := ["elba", "elbasan"], runs := "66816 40",
    shared := "183 1 589 1" },
  { names := ["elym", "elymaic"], runs := "69600 23" },
  { names := ["ethi", "ethiopic"], runs := "4608 73 1 4 2 7 1 1 1 4 2 41 1 4 2 33 1 4 2 7 1 1
    1 4 2 15 1 57 1 4 2 67 2 32 3 26 6630 23 9 7 1 7 1 7 1 7 1 7 1 7 1 7 1 7 32034 6 2 6 2 6 9
    7 1 7 81073 7 1 4 1 2 1 15",
    shared := "782 1" },
  { names := ["gara", "garay"], runs := "68928 38 3 29 8 2",
    shared := "1548 1 14 1 3 1" },
  { names := ["geor", "georgian"], runs := "4256 38 1 1 5 1 2 43 1 4 2960 43 2 3 4160 38 1 1 5
    1",
    shared := "183 1 1233 1 2929 1 3934 1 3542 1" },
  { names := ["glag", "glagolitic"], runs := "11264 96 111520 7 1 17 2 7 1 2 1 5",
    shared := "183 1 587 1 1 1 382 1 2 1 257 1 2929 1 3934 1 3560 1 30763 1" },
  { names := ["goth", "gothic"], runs := "66352 27",
    shared := "183 1 588 2 2 1 40 1" },
  { names := ["gran", "grantha"], runs := "70400 4 1 8 2 2 2 22 1 7 1 2 1 5 2 9 2 2 2 3 2 1 6
    1 5 7 2 7 3 5",
    shared := "2385 2 17 2 640 14 4316 1 1 2 30 3 3 2 1014 1 62026 1 3220 2 1 1" },
  { names := ["grek", "greek"], runs := "880 4 1 3 2 4 1 1 4 1 1 1 1 3 1 1 1 20 1 63 14 16
    6438 5 50 5 4 5 84 1 320 22 2 6 2 38 2 6 2 8 1 1 1 1 1 1 1 31 2 53 1 15 1 14 2 6 1 19 2 3
    1 9 295 1 35390 1 21978 79 17 1 53343 70",
    shared := "183 1 584 2 2 1 1 1 1 1 10 1 46 1 2 1 46 1 6731 2 667 1" },
  { names := ["gujr", "gujarati"], runs := "2689 3 1 9 1 3 1 22 1 7 1 2 1 5 2 10 1 3 1 3 2 1
    15 4 2 12 7 7",
    shared := "2385 2 17 2 40650 10" },
  { names := ["gong", "gunjalagondi"], runs := "73056 6 1 2 1 37 1 2 1 6 7 10",
    shared := "183 1 2220 2" },
  { names := ["guru", "gurmukhi"], runs := "2561 3 1 6 4 2 2 22 1 7 1 2 1 2 1 2 2 1 1 5 4 2 2
    3 3 1 7 4 1 1 7 17",
    shared := "2385 2 17 2 40650 10" },
  { names := ["gukh", "gurungkhema"], runs := "90368 58",
    shared := "2405 1" },
  { names := ["hani", "han"], runs := "11904 26 1 89 12 214 47 1 1 1 25 9 14 4 964 6592 64
    20992 22784 366 2 106 29960 2 12 2 36878 42720 32 4154 6 222 2 5762 14 7473 15 622 2466
    542 1506 4939 5 4192",
    shared := "183 1 12088 16 1 3 2 1 1 10 1 13 10 4 2 1 6 1 4 4 187 1 148 16 32 38 9 1 48 40
    56 49 15 12 51 1 88 25 10 5 96 31 29441 8 22333 2 282 5 54266 18 7902 2" },
  { names := ["hang", "hangul"], runs := "4352 256 7726 2 257 94 113 31 65 31 30433 29 643
    11172 12 23 4 49 10148 31 3 6 2 6 2 6 2 3",
    shared := "12289 3 4 10 1 13 16 1 6 1 195 1 52553 2 282 5" }]

def scripts3 : List Script := [
  { names := ["rohg", "hanifirohingya"], runs := "68864 40 8 10",
    shared := "1548 1 14 1 3 1 32 1 147 1" },
  { names := ["hano", "hanunoo"], runs := "5920 21",
    shared := "5941 2" },
  { names := ["hatr", "hatran"], runs := "67808 19 1 2 5 5" },
  { names := ["hebr", "hebrew"], runs := "1425 55 8 27 4 6 62760 26 1 5 1 1 1 2 1 2 1 10",
    shared := "775 2" },
  { names := ["hira", "hiragana"], runs := "12353 86 6 3 98145 287 18 1 29 3 16557 1",
    shared := "12289 3 4 10 1 13 16 6 1 1 4 2 91 4 3 1 90 2 52552 2 282 5 10 1 45 2" },
  { names := ["armi", "imperialaramaic"], runs := "67648 22 1 9" },
  { names := ["zinh", "inherited", "qaai"], runs := "768 112 277 2 452 11 26 1 736 4 4443 31
    513 3 1 13 1 7 4 1 6 1 3 2 198 64 524 2 194 33 3897 4 107 2 52581 16 16 14 975 1 226 1
    4186 1 48068 46 2 23 544 3 17 8 2 7 30 4 798546 240" },
  { names := ["phli", "inscriptionalpahlavi"], runs := "68448 19 5 8" },
  { names := ["prti", "inscriptionalparthian"], runs := "68416 22 2 8" },
  { names := ["java", "javanese"], runs := "43392 78 2 10 4 2",
    shared := "43471 1" },
  { names := ["kthi", "kaithi"], runs := "69760 67 10 1",
    shared := "2406 10 9409 1 31230 10" },
  { names := ["knda", "kannada"], runs := "3200 13 1 3 1 23 1 10 1 5 2 9 1 3 1 4 7 2 6 2 1 4 2
    10 1 3",
    shared := "2385 2 17 2 4970 1 1 2 6 1 23 1 1 1 35643 6" },
  { names := ["kana", "katakana"], runs := "12449 90 2 3 240 16 208 47 1 88 52238 10 1 45
    45138 4 1 7 1 2 1 1 287 3 50 1 14 4",
    shared := "773 1 29 1 11485 3 4 10 1 13 16 6 1 1 4 2 91 4 3 1 90 2 52552 2 282 5 10 1 45 2" },
  { names := ["kawi"], runs := "73472 17 1 41 3 29" },
  { names := ["kali", "kayahli"], runs := "43264 46 1 1",
    shared := "43310 1" },
  { names := ["khar", "kharoshthi"], runs := "68096 4 1 2 5 8 1 3 1 29 2 3 4 10 7 9" },
  { names := ["kits", "khitansmallscript"], runs := "94180 1 6939 470 41 1" },
  { names := ["khmr", "khmer"], runs := "6016 94 2 10 6 10 486 32" },
  { names := ["khoj", "khojki"], runs := "70144 18 1 47",
    shared := "2790 10 40256 10" },
  { names := ["sind", "khudawadi"], runs := "70320 59 5 10",
    shared := "2404 2 40650 10" },
  { names := ["krai", "kiratrai"], runs := "93504 58" },
  { names := ["laoo", "lao"], runs := "3713 2 1 1 1 5 1 24 1 1 1 23 2 5 1 1 1 7 1 10 2 4" },
  { names := ["latn", "latin"], runs := "65 26 6 26 47 1 15 1 5 23 1 31 1 449 39 5 6683 38 6
    49 5 4 5 13 1 70 65 256 369 1 13 1 16 13 141 2 6 1 27 1 17 41 2775 32 31394 102 3 67 2 2 1
    1 1 8 21 14 816 43 1 9 1 4 20374 7 1050 26 6 26 2085 6 1 42 1 9 55109 31 6 6",
    shared := "183 1 516 1 10 1 1 3 1 1 9 1 1 1 38 15 1 2 1 1 15 3 7 2 1 2 38 1 5 1 4 13 277 2
    1226 2 1960 1 3324 1 566 1 192 1 3366 1 30952 8 550 1" },
  { names := ["lepc", "lepcha"], runs := "7168 56 3 15 3 3" },
  { names := ["limb", "limbu"], runs := "6400 31 1 12 4 12 4 1 3 12",
    shared := "2405 1" },
  { names := ["lina", "lineara"], runs := "67072 311 9 22 10 8",
    shared := "65799 45" },
  { names := ["linb", "linearb"], runs := "65536 12 1 26 1 19 1 2 1 15 2 14 34 123",
    shared := "65792 3 4 45 3 9" },
  { names := ["lisu"], runs := "42192 48 31408 1",
    shared := "700 1 16 1 11580 2" },
  { names := ["lyci", "lycian"], runs := "66176 29",
    shared := "8282 1" },
  { names := ["lydi", "lydian"], runs := "67872 26 5 1",
    shared := "183 1 11641 1" },
  { names := ["mahj", "mahajani"], runs := "69968 39",
    shared := "183 1 2220 12 40640 10" },
  { names := ["maka", "makasar"], runs := "73440 25" },
  { names := ["mlym", "malayalam"], runs := "3328 13 1 3 1 51 1 3 1 6 4 16 2 26",
    shared := "2385 2 17 2 4980 1 23 1 35645 3" },
  { names := ["mand", "mandaic"], runs := "2112 28 2 1",
    shared := "1600 1" },
  { names := ["mani", "manichaean"], runs := "68288 39 4 12",
    shared := "1600 1" },
  { names := ["marc", "marchen"], runs := "72816 32 2 22 1 14" },
  { names := ["gonm", "masaramgondi"], runs := "72960 7 1 2 1 44 3 1 1 2 1 9 8 10",
    shared := "2404 2" },
  { names := ["medf", "medefaidrin"], runs := "93760 91" },
  { names := ["mtei", "meeteimayek"], runs := "43744 23 201 46 2 10" },
  { names := ["mend", "mendekikakui"], runs := "124928 197 2 16" },
  { names := ["merc", "meroiticcursive"], runs := "68000 24 4 20 2 46" },
  { names := ["mero", "meroitichieroglyphs"], runs := "67968 32",
    shared := "8285 1" },
  { names := ["plrd", "miao"], runs := "93952 75 4 57 7 17" },
  { names := ["modi"], runs := "71168 69 11 10",
    shared := "43056 10" },
  { names := ["mong", "mongolian"], runs := "6144 2 2 1 1 20 6 89 7 43 64949 13",
    shared := "6146 2 1 1 2089 1 4049 2 5 4" },
  { names := ["mroo", "mro"], runs := "92736 31 1 10 4 2" },
  { names := ["mult", "multani"], runs := "70272 7 1 1 1 4 1 15 1 11",
    shared := "2662 10" },
  { names := ["mymr", "myanmar"], runs := "4096 160 39232 31 97 32 27728 20",
    shared := "43310 1" }]

def scripts4 : List Script := [
  { names := ["nbat", "nabataean"], runs := "67712 31 8 9" },
  { names := ["nagm", "nagmundari"], runs := "124112 42" },
  { names := ["nand", "nandinagari"], runs := "72096 8 2 46 2 11",
    shared := "2385 1 18 2 896 10 4089 1 8 1 7 1 35637 6" },
  { names := ["talu", "newtailue"], runs := "6528 44 4 26 6 11 3 2" },
  { names := ["newa"], runs := "70656 92 1 5",
    shared := "2385 2 4994 1 1 2 9 1 6 1 1 1 1 1" },
  { names := ["nkoo", "nko"], runs := "1984 59 2 3",
    shared := "1548 1 14 1 3 1 63262 2" },
  { names := ["nshu", "nushu"], runs := "94177 1 16782 396" },
  { names := ["hmnp", "nyiakengpuachuehmong"], runs := "123136 45 3 14 2 10 4 2" },
  { names := ["ogam", "ogham"], runs := "5760 29" },
  { names := ["olck", "olchiki"], runs := "7248 48" },
  { names := ["onao", "olonal"], runs := "124368 43 4 1",
    shared := "2404 2" },
  { names := ["hung", "oldhungarian"], runs := "68736 51 13 51 7 6",
    shared := "8282 1 2 1 3539 1 15 1" },
  { names := ["ital", "olditalic"], runs := "66304 36 9 3" },
  { names := ["narb", "oldnortharabian"], runs := "68224 32" },
  { names := ["perm", "oldpermic"], runs := "66384 43",
    shared := "183 1 584 1 5 3 10 1 367 1" },
  { names := ["xpeo", "oldpersian"], runs := "66464 36 4 14" },
  { names := ["sogo", "oldsogdian"], runs := "69376 40" },
  { names := ["sarb", "oldsoutharabian"], runs := "68192 32" },
  { names := ["orkh", "oldturkic"], runs := "68608 73",
    shared := "8282 1 3541 1" },
  { names := ["ougr", "olduyghur"], runs := "69488 26",
    shared := "1600 1 66737 1" },
  { names := ["orya", "oriya"], runs := "2817 3 1 8 2 2 2 22 1 7 1 2 1 5 2 9 2 2 2 3 7 3 4 2 1
    5 2 18",
    shared := "2385 2 17 2 4980 1 23 1" },
  { names := ["osge", "osage"], runs := "66736 36 4 36",
    shared := "769 1 2 1 6 1 76 1" },
  { names := ["osma", "osmanya"], runs := "66688 30 2 10" },
  { names := ["hmng", "pahawhhmong"], runs := "92928 70 10 10 1 7 1 21 5 19" },
  { names := ["palm", "palmyrene"], runs := "67680 32" },
  { names := ["pauc", "paucinhau"], runs := "72384 57" },
  { names := ["phag", "phagspa"], runs := "43072 56",
    shared := "6146 2 1 1 2089 1 4050 1" },
  { names := ["phnx", "phoenician"], runs := "67840 28 3 1" },
  { names := ["phlp", "psalterpahlavi"], runs := "68480 18 7 4 12 7",
    shared := "1600 1" },
  { names := ["rjng", "rejang"], runs := "43312 36 11 1" },
  { names := ["runr", "runic"], runs := "5792 75 3 11",
    shared := "5867 3" },
  { names := ["samr", "samaritan"], runs := "2048 46 2 15",
    shared := "11825 1" },
  { names := ["saur", "saurashtra"], runs := "43136 70 8 12" },
  { names := ["shrd", "sharada"], runs := "70016 96",
    shared := "2385 1 4997 1 1 1 2 2 2 1 9 1 2 1 35650 6 2 1" },
  { names := ["shaw", "shavian"], runs := "66640 48",
    shared := "183 1" },
  { names := ["sidd", "siddham"], runs := "71040 54 2 38" },
  { names := ["sgnw", "signwriting"], runs := "120832 652 15 5 1 15" },
  { names := ["sinh", "sinhala"], runs := "3457 3 1 18 3 24 1 9 1 1 2 7 3 1 4 6 1 1 1 8 6 10 2
    3 66540 20",
    shared := "2404 2 5004 1" },
  { names := ["sogd", "sogdian"], runs := "69424 42",
    shared := "1600 1" },
  { names := ["sora", "sorasompeng"], runs := "69840 25 7 10" },
  { names := ["soyo", "soyombo"], runs := "72272 83" },
  { names := ["sund", "sundanese"], runs := "7040 64 256 8" },
  { names := ["sunu", "sunuwar"], runs := "72640 34 14 10",
    shared := "768 2 1 1 9 1 2 1 28 1 3 1" },
  { names := ["sylo", "sylotinagri"], runs := "43008 45",
    shared := "2404 2 128 10" },
  { names := ["syrc", "syriac"], runs := "1792 14 1 60 2 3 272 11",
    shared := "771 2 2 2 1 1 24 3 7 2 1 2 730 1 14 2 2 1 32 1 10 11 26 1 6023 1 1 1" },
  { names := ["tglg", "tagalog"], runs := "5888 22 9 1",
    shared := "5941 2" },
  { names := ["tagb", "tagbanwa"], runs := "5984 13 1 3 1 2",
    shared := "5941 2" },
  { names := ["tale", "taile"], runs := "6480 30 2 5",
    shared := "768 2 5 2 3 1 3379 10" },
  { names := ["lana", "taitham"], runs := "6688 63 1 29 2 11 6 10 6 14" },
  { names := ["tavt", "taiviet"], runs := "43648 67 24 5" },
  { names := ["takr", "takri"], runs := "71296 58 6 10",
    shared := "2404 2 40650 10" },
  { names := ["taml", "tamil"], runs := "2946 2 1 6 3 3 1 4 3 2 1 1 1 2 3 2 3 3 3 12 4 5 3 3 1
    4 2 1 6 1 14 21 70597 50 13 1",
    shared := "2385 2 17 2 4980 1 35864 1 27149 1 1 1 55 2" },
  { names := ["tnsa", "tangsa"], runs := "92784 79 1 10" },
  { names := ["tang", "tangut"], runs := "94176 1 31 6136 8 768 512 9",
    shared := "12272 16 495 1" },
  { names := ["telu", "telugu"], runs := "3072 13 1 3 1 23 1 16 2 9 1 3 1 4 7 2 1 3 2 1 2 4 2
    10 7 9",
    shared := "2385 2 17 2 4975 2 1 1 1 1 23 1" },
  { names := ["thaa", "thaana"], runs := "1920 50",
    shared := "1548 1 14 2 2 1 64 10 63368 1 10 1" },
  { names := ["thai"], runs := "3585 58 5 28",
    shared := "700 1 26 1 43 1 45 1" },
  { names := ["tibt", "tibetan"], runs := "3840 72 1 36 4 39 1 36 1 15 1 7 4 2",
    shared := "12296 4" },
  { names := ["tfng", "tifinagh"], runs := "11568 56 7 2 14 1",
    shared := "770 1 1 1 1 4 25 1" },
  { names := ["tirh", "tirhuta"], runs := "70784 72 8 10",
    shared := "2385 2 17 2 4975 1 12 1 15 1 35645 10" },
  { names := ["todr", "todhri"], runs := "67008 52",
    shared := "769 1 2 1 2 1 9 1 1 1 74 1" },
  { names := ["toto"], runs := "123536 31",
    shared := "700 1" },
  { names := ["tutg", "tulutigalari"], runs := "70528 10 1 1 2 1 1 38 1 10 1 1 2 1 1 4 1 10 1
    2 8 2",
    shared := "3302 10 4098 1 1 1 35643 6 187 1" },
  { names := ["ugar", "ugaritic"], runs := "66432 30 1 1" },
  { names := ["zzzz", "unknown"], runs := "888 2 6 4 7 1 1 1 20 1 397 1 38 2 50 2 3 1 55 8 27
    4 6 11 270 1 60 2 101 14 59 2 49 2 15 1 28 2 1 1 11 5 34 5 237 1 8 2 2 2 22 1 7 1 1 3 4 2
    9 2 2 2 4 8 1 4 2 1 5 2 25 2 3 1 6 4 2 2 22 1 7 1 2 1 2 1 2 2 1 1 5 4 2 2 3 3 1 7 4 1 1 7
    17 10 3 1 9 1 3 1 22 1 7 1 2 1 5 2 10 1 3 1 3 2 1 15 4 2 12 7 7 1 3 1 8 2 2 2 22 1 7 1 2 1
    5 2 9 2 2 2 3 7 3 4 2 1 5 2 18 10 2 1 6 3 3 1 4 3 2 1 1 1 2 3 2 3 3 3 12 4 5 3 3 1 4 2 1 6
    1 14 21 5 13 1 3 1 23 1 16 2 9 1 3 1 4 7 2 1 3 1 2 2 4 2 10 7 22 1 3 1 23 1 10 1 5 2 9 1 3
    1 4 7 2 5 3 1 4 2 10 1 3 12 13 1 3 1 51 1 3 1 6 4 16 2 26 1 3 1 18 3 24 1 9 1 1 2 7 3 1 4
    6 1 1 1 8 6 10 2 3 12 58 4 29 37 2 1 1 1 5 1 24 1 1 1 23 2 5 1 1 1 7 1 10 2 4 32 72 1 36 4
    39 1 36 1 15 1 13 37 198 1 1 5 1 2 377 1 4 2 7 1 1 1 4 2 41 1 4 2 33 1 4 2 7 1 1 1 4 2 15
    1 57 1 4 2 67 2 32 3 26 6 86 2 6 2 669 3 89 7 22 9 24 9 20 12 13 1 3 1 2 12 94 2 10 6 10 6
    26 6 89 7 43 5 70 10 31 1 12 4 12 4 1 3 42 2 5 11 44 4 26 6 11 3 62 2 65 1 29 2 11 6 10 6
    14 2 46 2 12 20 77 1 166 8 60 3 15 3 62 5 43 2 11 8 43 5 534 2 6 2 38 2 6 2 8 1 1 1 1 1 1
    1 31 2 53 1 15 1 14 2 6 1 19 2 3 1 9 1 101 1 12 2 27 1 13 3 34 14 33 15 140 4 666 22 11 21
    1812 2 382 5 45 1 1 5 1 2 56 7 2 14 24 9 7 1 7 1 7 1 7 1 7 1 7 1 7 1 7 1 126 34 26 1 89 12
    214 26 80 1 86 2 103 5 43 1 94 1 86 9 48 1 29293 3 55 9 348 20 184 8 221 20 60 3 10 6 56 8
    70 8 12 6 116 11 30 3 78 1 11 4 33 1 55 9 14 2 10 2 103 24 28 10 6 2 6 2 6 9 7 1 7 1 60 4
    126 2 10 6 11172 12 23 4 49 8452 366 2 106 38 7 12 5 5 26 1 5 1 1 1 2 1 2 1 650 32 42 6 51
    1 19 1 4 4 5 1 135 2 1 1 190 3 6 2 6 2 6 2 3 3 7 1 7 10 5 2 12 1 26 1 19 1 2 1 15 2 14 34
    123 5 3 4 45 3 88 1 13 3 1 47 46 130 29 3 49 15 28 4 36 9 30 5 43 5 30 1 37 4 14 42 158 2
    10 6 36 4 36 4 40 8 52 11 12 1 15 1 7 1 2 1 11 1 15 1 7 1 2 3 52 12 311 9 22 10 8 24 6 1
    42 1 9 69 6 2 1 1 44 1 2 3 1 2 23 1 72 8 9 48 19 1 2 5 33 3 27 5 27 38 56 4 20 2 50 1 2 5
    8 1 3 1 29 2 3 4 10 7 9 7 64 32 39 4 12 9 54 3 29 2 27 5 26 7 4 12 7 80 73 55 51 13 51 7
    46 8 10 6 38 3 29 8 2 208 31 1 42 1 3 2 2 16 6 8 9 33 46 8 42 22 26 38 28 20 23 9 78 4 36
    9 68 10 1 2 25 7 10 6 53 1 18 8 39 9 96 1 20 11 18 1 47 62 7 1 1 1 4 1 15 1 11 6 59 5 10 6
    4 1 8 2 2 2 22 1 7 1 2 1 5 1 10 2 2 2 3 2 1 6 1 5 7 2 7 3 5 11 10 1 1 2 1 1 38 1 10 1 1 2
    1 1 4 1 10 1 2 8 2 29 92 1 5 30 72 8 10 166 54 2 38 34 69 11 10 6 13 19 58 6 10 6 20 28 27
    2 15 4 23 185 60 100 83 12 8 2 1 2 8 1 2 1 30 1 2 2 12 9 10 70 8 2 46 2 11 27 72 8 83 13
    73 7 10 86 8 88 34 14 10 6 9 1 45 1 14 10 29 3 32 2 22 1 14 73 7 1 2 1 44 3 1 1 2 1 9 8 10
    6 6 1 2 1 37 1 2 1 6 7 10 6 44 4 10 246 25 7 17 1 41 3 29 85 1 15 50 13 923 102 111 1 5 11
    196 2636 99 13 1110 10 3995 5 583 6841 58 1734 569 7 31 1 10 4 81 1 10 6 30 2 6 10 70 10
    10 1 7 1 21 5 19 432 58 198 91 5 25 2 25 44 75 4 57 7 17 64 5 11 7 9 7382 41 32 97 115
    8701 4 1 7 1 2 1 291 15 1 29 3 2 1 14 4 8 396 2308 107 5 13 3 9 7 10 2 8 3932 253 3 436 6
    23 15 17 15 46 2 23 9 116 60 246 10 39 2 194 21 70 122 20 12 20 12 87 9 25 135 85 1 71 1 2
    2 1 2 2 2 4 1 12 1 1 1 7 1 65 1 4 2 8 1 7 1 28 1 4 1 5 1 1 3 7 1 340 2 292 2 702 15 5 1 15
    1104 31 6 6 213 7 1 17 2 7 1 2 1 5 5 62 33 1 112 45 3 14 2 10 4 2 320 31 17 58 5 1 464 42
    214 43 4 1 192 31 1 22 8 2 224 7 1 4 1 2 1 15 1 197 2 16 41 76 4 10 4 2 785 68 76 61 194 4
    1 27 1 2 1 1 2 1 1 10 1 4 1 1 1 1 6 1 4 1 1 1 1 1 1 3 1 2 1 1 2 1 1 1 1 1 1 1 1 1 1 2 1 1
    2 4 1 7 1 4 1 4 1 1 1 10 1 17 5 3 1 5 1 17 52 2 270 44 4 100 12 15 2 15 1 15 1 37 10 174
    56 29 13 44 4 9 7 2 14 6 154 985 3 17 3 13 3 218 6 12 4 1 15 12 4 56 8 10 6 40 8 30 2 12 4
    2 14 9 39 344 8 14 2 13 3 11 3 57 1 1 4 16 2 12 4 10 7 147 1 103 1029 42720 32 4382 2 5774
    2 7473 15 622 2466 542 1506 4939 5 8490 707463 1 30 96 128 240 196112" }]

def scripts5 : List Script := [
  { names := ["vaii", "vai"], runs := "42240 300" },
  { names := ["vith", "vithkuqi"], runs := "66928 11 1 15 1 7 1 2 1 11 1 15 1 7 1 2" },
  { names := ["wcho", "wancho"], runs := "123584 58 5 1" },
  { names := ["wara", "warangciti"], runs := "71840 83 12 1" },
  { names := ["yezi", "yezidi"], runs := "69248 42 1 3 2 2",
    shared := "1548 1 14 1 3 1 64 10" },
  { names := ["yiii", "yi"], runs := "40960 1165 3 55",
    shared := "12289 2 5 10 2 8 223 1 52837 5" },
  { names := ["zanb", "zanabazarsquare"], runs := "72192 72" }]

def scripts : List Script :=
  scripts1 ++ scripts2 ++ scripts3 ++ scripts4 ++ scripts5

end DocumentStore.Character
