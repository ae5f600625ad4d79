import SmartForm.Unicode.CodeSet

/-!
# Scripts

Every assigned character belongs to one script. The tables follow the character
database, version 17. A script is found under its long name or its four-letter
one; `SmartForm.Script.find?` expects the name in lower case and without marks
between its words.
-/

namespace SmartForm

namespace Script

/-- The scripts, each with its two names and its table. -/
def tables : List (String × String × String) :=
  [("adlam", "adlm",
    "2olc-23 5-9 5-1"),
   ("caucasianalbanian", "aghb",
    "1flc-1f c"),
   ("ahom", "ahom",
    "1j40-q 3-e 5-m"),
   ("arabic", "arab",
    "16o-4 2-5 2-d 2-2 2-v 2-9 c-p 2-2z 2-x 29-1b 6p-x 6-22 2-s 1bv5-dp 3-3z x-f 35-4 2-3q
    31g-u 1w-5 9-8 y-5 181t-3 2-q 2-1 2 3 2-9 2-3 2 2 7 5 2 2 2-2 2-1 2 3 2 2 2 2 2-1 2
    3-3 2-6 2-3 2-3 2 2-9 2-g 6-2 2-4 2-g 1h-1"),
   ("imperialaramaic", "armi",
    "1g74-l 2-8"),
   ("armenian", "armn",
    "10x-11 3-1d 3-2 1chw-4"),
   ("avestan", "avst",
    "1gqo-1h 4-6"),
   ("balinese", "bali",
    "5c0-24 2-1d"),
   ("bamum", "bamu",
    "www-2f 124p-fs"),
   ("bassavah", "bass",
    "1zo0-t 3-5"),
   ("batak", "batk",
    "5hc-1f 9-3"),
   ("bengali", "beng",
    "1vk-3 2-7 3-1 3-l 2-6 2 4-3 3-8 3-1 3-3 9 5-1 2-4 3-o"),
   ("bhaiksuki", "bhks",
    "1k3k-8 2-18 2-d b-s"),
   ("bopomofo", "bopo",
    "kq-1 93u-16 35-v"),
   ("brahmi", "brah",
    "1hq8-25 5-z a"),
   ("braille", "brai",
    "7wg-73"),
   ("buginese", "bugi",
    "54w-r 3-1"),
   ("buhid", "buhd",
    "4lc-j"),
   ("chakma", "cakm",
    "1hxc-1g 2-h"),
   ("canadianaboriginal", "cans",
    "3y8-hr fl-1x 1ewr-f"),
   ("carian", "cari",
    "1f34-1c"),
   ("cham", "cham",
    "xkw-1i a-d 3-9 3-3"),
   ("cherokee", "cher",
    "3vk-2d 3-5 twz-27"),
   ("chorasmian", "chrs",
    "1ho0-r"),
   ("coptic", "copt",
    "rm-d 80h-37 6-6"),
   ("cyprominoan", "cpmn",
    "1nyo-2q"),
   ("cypriot", "cprt",
    "1g5c-5 3 2-17 2-1 4 3"),
   ("cyrillic", "cyrl",
    "sg-3o 3-4o 4lt-a 4h 25 38o-v nr5-2n han-1 18n5-1p y"),
   ("devanagari", "deva",
    "1s0-28 5-e 3-p vhd-v mip-9"),
   ("divesakuru", "diak",
    "1ji8-6 3 3-7 2-1 2-t 2-1 3-b a-9"),
   ("dogra", "dogr",
    "1jb4-1n"),
   ("deseret", "dsrt",
    "1fcw-27"),
   ("duployan", "dupl",
    "2fpc-2y 6-c 4-8 8-9 3-3"),
   ("egyptianhieroglyphs", "egyp",
    "1o1s-ut b-32y"),
   ("elbasan", "elba",
    "1fk0-13"),
   ("elymaic", "elym",
    "1hpc-m"),
   ("ethiopic", "ethi",
    "3k0-20 2-3 3-6 2 2-3 3-14 2-3 3-w 2-3 3-6 2 2-3 3-e 2-1k 2-3 3-1u 3-v 4-p 547-m a-6
    2-6 2-6 2-6 2-6 2-6 2-6 2-6 opv-5 3-5 3-5 a-6 2-6 1qk2-6 2-3 2-1 2-e"),
   ("georgian", "geor",
    "3a8-11 2 6 3-16 2-3 2a9-16 3-2 37l-11 2 6"),
   ("glagolitic", "glag",
    "8ow-2n 2e1t-6 2-g 3-6 2-1 2-4"),
   ("gunjalagondi", "gong",
    "1kdc-5 2-1 2-10 2-1 2-5 8-9"),
   ("masaramgondi", "gonm",
    "1kao-6 2-1 2-17 4 2-1 2-8 9-9"),
   ("gothic", "goth",
    "1f74-q"),
   ("grantha", "gran",
    "1ibk-3 2-7 3-1 3-l 2-6 2-1 2-4 3-8 3-1 3-2 3 7 6-6 3-6 4-4"),
   ("greek", "grek",
    "og-3 2-2 3-3 2 5 2 2-2 2 2-j 2-1q f-f 4yv-4 1f-4 5-4 2d 8x-l 3-5 3-11 3-5 3-7 2 2 2
    2-u 3-1g 2-e 2-d 3-5 2-i 3-2 2-8 88 rb3 gyj-26 i 155s-1x"),
   ("gujarati", "gujr",
    "22p-2 2-8 2-2 2-l 2-6 2-1 2-4 3-9 2-2 2-2 3 g-3 3-b 8-6"),
   ("gurmukhi", "guru",
    "1z5-2 2-5 5-1 3-l 2-6 2-1 2-1 2-1 3 2-4 5-1 3-2 4 8-3 2 8-g"),
   ("hangul", "hang",
    "3cw-73 5yn-1 76-2l 36-u 1u-u nhe-s hw-8mb d-m 5-1c 7tx-u 4-5 3-5 3-5 3-2"),
   ("han", "hani",
    "96o-p 2-2g d-5x 1c 2 q-8 f-3 qt-533 1t-g73 hkx-a5 3-2x n49-1 d-6 sga-wyn x-3dp 3-4gd
    3-5rk g-h9 1wj-f1 15v-3t6 6-6jt"),
   ("hanunoo", "hano",
    "4kg-k"),
   ("hatran", "hatr",
    "1gbk-i 2-1 6-4"),
   ("hebrew", "hebr",
    "13l-1i 9-q 5-5 1cfd-p 2-4 2 2-1 2-1 2-9"),
   ("hiragana", "hira",
    "9j5-2d 7-2 23qa-7y j u-2 cry"),
   ("anatolianhieroglyphs", "hluw",
    "1s00-g6"),
   ("pahawhhmong", "hmng",
    "1zpc-1x b-9 2-6 2-k 6-i"),
   ("nyiakengpuachuehmong", "hmnp",
    "2n0g-18 4-d 3-9 5-1"),
   ("oldhungarian", "hung",
    "1h1c-1e e-1e 8-5"),
   ("olditalic", "ital",
    "1f5s-z a-2"),
   ("javanese", "java",
    "xhc-25 3-9 5-1"),
   ("kayahli", "kali",
    "xds-19 2"),
   ("katakana", "kana",
    "9lt-2h 3-2 6p-f 5t-1a 2-2f 14b3-9 2-18 ytv-3 2-6 2-1 2 80-2 1f f-3"),
   ("kawi", "kawi",
    "1kow-g 2-14 4-s"),
   ("kharoshthi", "khar",
    "1gjk-3 2-1 6-7 2-2 2-s 3-2 5-9 8-8"),
   ("khmer", "khmr",
    "4n4-2l 3-9 7-9 dj-v"),
   ("khojki", "khoj",
    "1i4g-h 2-1a"),
   ("khitansmallscript", "kits",
    "20o4 5cs-d1 16"),
   ("kannada", "knda",
    "2gw-c 2-2 2-m 2-9 2-4 3-8 2-2 2-3 8-1 6-2 2-3 3-9 2-2"),
   ("kaithi", "kthi",
    "1hts-1u b"),
   ("taitham", "lana",
    "55s-1q 2-s 3-a 7-9 7-d"),
   ("lao", "laoo",
    "2v5-1 2 2-4 2-n 2 2-m 3-4 2 2-6 2-9 3-3"),
   ("latin", "latn",
    "1t-p 7-p 1c g 6-m 2-u 2-cg 14-4 55o-11 7-1c 6-3 6-c 2-1x 1u-73 aa e h-c 3y-1 7 s i-14
    254-v o83-2t 4-29 l-e mp-16 2-8 2-3 fpz-6 t7-p 7-p 1ly-5 2-15 2-8 16iu-u 7-5"),
   ("lepcha", "lepc",
    "5j4-1j 4-e 4-2"),
   ("limbu", "limb",
    "4xs-u 2-b 5-b 5 4-b"),
   ("lineara", "lina",
    "1fr4-8m a-l b-7"),
   ("linearb", "linb",
    "1ekg-b 2-p 2-i 2-1 2-e 3-d z-3e"),
   ("lisu", "lisu",
    "wk0-1b o8h"),
   ("lycian", "lyci",
    "1f28-s"),
   ("lydian", "lydi",
    "1gdc-p 6"),
   ("mahajani", "mahj",
    "1hzk-12"),
   ("makasar", "maka",
    "1ko0-o"),
   ("mandaic", "mand",
    "1mo-r 3"),
   ("manichaean", "mani",
    "1gow-12 5-b"),
   ("marchen", "marc",
    "1k6o-v 3-l 2-d"),
   ("medefaidrin", "medf",
    "20cg-2i"),
   ("mendekikakui", "mend",
    "2oe8-5g 3-f"),
   ("meroiticcursive", "merc",
    "1ggw-n 5-j 3-19"),
   ("meroitichieroglyphs", "mero",
    "1gg0-v"),
   ("malayalam", "mlym",
    "2kg-c 2-2 2-1e 2-2 2-5 5-f 3-p"),
   ("modi", "modi",
    "1iww-1w c-9"),
   ("mongolian", "mong",
    "4qo-1 3 2-j 7-2g 8-16 1e46-c"),
   ("mro", "mroo",
    "1zk0-u 2-9 5-1"),
   ("meeteimayek", "mtei",
    "xr4-m 5m-19 3-9"),
   ("multani", "mult",
    "1i80-6 2 2-3 2-e 2-a"),
   ("myanmar", "mymr",
    "35s-4f u9t-u 2q-v le9-j"),
   ("nagmundari", "nagm",
    "2nrk-15"),
   ("nandinagari", "nand",
    "1jmo-7 3-19 3-a"),
   ("oldnortharabian", "narb",
    "1gn4-v"),
   ("nabataean", "nbat",
    "1g8w-u 9-8"),
   ("newa", "newa",
    "1iio-2j 2-4"),
   ("nko", "nkoo",
    "1j4-1m 3-2"),
   ("nushu", "nshu",
    "20o1 cy7-az"),
   ("ogham", "ogam",
    "4g0-s"),
   ("olchiki", "olck",
    "5lc-1b"),
   ("oldturkic", "orkh",
    "1gxs-20"),
   ("oriya", "orya",
    "269-2 2-7 3-1 3-l 2-6 2-1 2-4 3-8 3-1 3-2 8-2 5-1 2-4 3-h"),
   ("osage", "osge",
    "1fhs-z 5-z"),
   ("osmanya", "osma",
    "1fgg-t 3-9"),
   ("olduyghur", "ougr",
    "1hm8-p"),
   ("palmyrene", "palm",
    "1g80-v"),
   ("paucinhau", "pauc",
    "1juo-1k"),
   ("oldpermic", "perm",
    "1f80-16"),
   ("phagspa", "phag",
    "x8g-1j"),
   ("inscriptionalpahlavi", "phli",
    "1gtc-i 6-7"),
   ("psalterpahlavi", "phlp",
    "1gu8-h 8-3 d-6"),
   ("phoenician", "phnx",
    "1gcg-r 4"),
   ("miao", "plrd",
    "20hs-22 5-1k 8-g"),
   ("inscriptionalparthian", "prti",
    "1gsg-l 3-7"),
   ("rejang", "rjng",
    "xf4-z c"),
   ("hanifirohingya", "rohg",
    "1h4w-13 9-9"),
   ("runic", "runr",
    "4gw-22 4-a"),
   ("samaritan", "samr",
    "1kw-19 3-e"),
   ("oldsoutharabian", "sarb",
    "1gm8-v"),
   ("saurashtra", "saur",
    "xa8-1x 9-b"),
   ("signwriting", "sgnw",
    "2l8g-i3 g-4 2-e"),
   ("shavian", "shaw",
    "1ff4-1b"),
   ("sharada", "shrd",
    "1i0w-2n 1vl-7"),
   ("siddham", "sidd",
    "1itc-1h 3-11"),
   ("khudawadi", "sind",
    "1i9c-1m 6-9"),
   ("sinhala", "sinh",
    "2o1-2 2-h 4-n 2-8 2 3-6 4 5-5 2 2-7 7-9 3-2 1fcd-j"),
   ("sogdian", "sogd",
    "1hkg-15"),
   ("oldsogdian", "sogo",
    "1hj4-13"),
   ("sorasompeng", "sora",
    "1hw0-o 8-9"),
   ("soyombo", "soyo",
    "1jrk-2a"),
   ("sundanese", "sund",
    "5fk-1r 75-7"),
   ("sylotinagri", "sylo",
    "x6o-18"),
   ("syriac", "syrc",
    "1ds-d 2-1n 3-2 7l-a"),
   ("tagbanwa", "tagb",
    "4m8-c 2-2 2-1"),
   ("takri", "takr",
    "1j0g-1l 7-9"),
   ("taile", "tale",
    "500-t 3-4"),
   ("newtailue", "talu",
    "51c-17 5-p 7-a 4-1"),
   ("tamil", "taml",
    "29u-1 2-5 4-2 2-3 4-1 2 2-1 4-1 4-2 4-b 5-4 4-2 2-3 3 7 f-k 1ih2-1d e"),
   ("tangut", "tang",
    "20o0 w-5bz e9-u 2q-36"),
   ("taiviet", "tavt",
    "xog-1u p-4"),
   ("telugu", "telu",
    "2dc-c 2-2 2-m 2-f 3-8 2-2 2-3 8-1 2-2 2-1 3-3 3-9 8-8"),
   ("tifinagh", "tfng",
    "8xc-1j 8-1 f"),
   ("tagalog", "tglg",
    "4jk-l a"),
   ("thaana", "thaa",
    "1hc-1d"),
   ("thai", "thai",
    "2rl-1l 6-r"),
   ("tibetan", "tibt",
    "2yo-1z 2-z 5-12 2-z 2-e 2-6 5-1"),
   ("tirhuta", "tirh",
    "1im8-1z 9-9"),
   ("tangsa", "tnsa",
    "1zlc-26 2-9"),
   ("toto", "toto",
    "2nbk-u"),
   ("ugaritic", "ugar",
    "1f9c-t 2"),
   ("vai", "vaii",
    "wlc-8b"),
   ("vithkuqi", "vith",
    "1fn4-a 2-e 2-6 2-1 2-a 2-e 2-6 2-1"),
   ("warangciti", "wara",
    "1jfk-2a d"),
   ("wancho", "wcho",
    "2ncw-1l 6"),
   ("oldpersian", "xpeo",
    "1fa8-z 5-d"),
   ("cuneiform", "xsux",
    "1kw0-pl 2v-32 2-4 c-5f"),
   ("yezidi", "yezi",
    "1hfk-15 2-2 3-1"),
   ("yi", "yiii",
    "vls-wc 4-1i"),
   ("zanabazarsquare", "zanb",
    "1jpc-1z"),
   ("inherited", "zinh",
    "lc-33 7q-1 cl-a r kh-3 3fg-19 3-b dh-2 2-c 2-6 5 7 4-1 5j-1r el-1 5f-w 30a-3 30-1
    14km-f h-d r4 6b 38b 1139-19 3-m f5-2 i-7 3-6 v-3 h45v-6n"),
   ("common", "zyyy",
    "0-1s r-5 r-1a 2-e 2-4 o w ci-12 6-4 3-j 39 a 7 2 hq 7 f 4 x 4d ed 3m-1 yi ba-3 83
    168-2 20-1 5o-1 2 y6 e 8-3 2-5 2-2 3 li-b 3-2e 2-a 4-a 2-e i-x 1r-11 2-2 3-5 2-q 2-g
    16-2 5-ih n-a m-pr 75-hf 3-3t e9-2l b7-k 2 2-o g-7 5-3 2k-1 4 2j-1 44-f x-11 a 1d-1r
    w-28 1c 2h-4n 535-1r hkx-x 2v-2 4m-9 6t 4h b0 f-1 g5v-1 5t-9 n-y 2-i 2-3 44 2-v r-5
    r-a b 1a-1 1t-6 2-6 b-4 77-2 5-18 4-8 29-c 1g-18 6d-q 10o5-3 319-70 4-c3 7-m g-g 2o-37
    1p-6t b-12 3-1p 4-g 9-1 8-t 5-1o 5y-j d-j d-2e a-o 3s-2c 2-1y 2-1 3 3-1 3-3 2-b 2 2-6
    2-1s 2-3 3-7 2-6 2-r 2-3 2-4 2 4-6 2-9f 3-83 3-1d 41e-1v 25-1o jn-17 5-2r d-e 3-e 2-e
    2-10 b-4t 1l-p 2-1 e-17 5-8 8-1 f-5 4b-rc 4-g 4-c 4-61 7-b 5 g-b 5-1j 9-9 7-13 9-t 3-b
    5-1 f-8 14-9j 9-d 3-c 4-a 4-1k 2 5-f 3-b 5-9 8-42 2-2u gvlz v-2n"),
   ("garay", "gara",
    "1h6o-11 4-s 9-1"),
   ("gurungkhema", "gukh",
    "1xq8-1l"),
   ("kiratrai", "krai",
    "205c-1l"),
   ("olonal", "onao",
    "2nyo-16 5"),
   ("sunuwar", "sunu",
    "1k1s-x f-9"),
   ("todhri", "todr",
    "1fpc-1f"),
   ("tulutigalari", "tutg",
    "1if4-9 2 3 2-11 2-9 2 3 2-3 2-9 2-1 9-1"),
   ("sidetic", "sidt",
    "1ge8-p"),
   ("beriaerfe", "berf",
    "20f4-o 3-o"),
   ("tolongsiki", "tols",
    "1kfk-17 5-9"),
   ("taiyo", "tayo",
    "2o5c-u 2-l 9-1")]

/-- The table of the script with the given name. -/
def find? (name : String) : Option String :=
  (tables.find? fun s => s.1 = name || s.2.1 = name).map fun s => s.2.2

end Script

end SmartForm
