import QueryTail.Text.RangeTable

/-!
# Script

Data of the Unicode character database, edition 16.0: the scripts. Every value has its names in the
loose form, without case, spaces, hyphens and underscores.
-/

namespace QueryTail.Text.Property

/-- The values of this property and the characters that have them. -/
def script : List PropertyValue :=
  [⟨["adlam", "adlm"],
     ["1e900 4b 5 9 5 1"]⟩,
   ⟨["aghb", "caucasianalbanian"],
     ["10530 33 c 0"]⟩,
   ⟨["ahom"],
     ["11700 1a 3 e 5 16"]⟩,
   ⟨["anatolianhieroglyphs", "hluw"],
     ["14400 246"]⟩,
   ⟨["arab", "arabic"],
     ["600 4 2 5 2 d 2 2 2 1f 2 9 c 19 2 6b 2 21 51 2f f1 1e 2 1 6 4a 2 1c f251 72 11 16a 3 4f 3",
      "35 8 0 21 f 71 4 2 86 f64 1e 44 2 38 3 df01 3 2 1a 2 1 2 0 3 0 2 9 2 3 2 0 2 0 7 0 5 0 2 0",
      "2 0 2 2 2 1 2 0 3 0 2 0 2 0 2 0 2 0 2 1 2 0 3 3 2 6 2 3 2 3 2 0 2 9 2 10 6 2 2 4 2 10 35 1"]⟩,
   ⟨["armenian", "armn"],
     ["531 25 3 31 3 2 f584 4"]⟩,
   ⟨["armi", "imperialaramaic"],
     ["10840 15 2 8"]⟩,
   ⟨["avestan", "avst"],
     ["10b00 35 4 6"]⟩,
   ⟨["bali", "balinese"],
     ["1b00 4c 2 31"]⟩,
   ⟨["bamu", "bamum"],
     ["a6a0 57 c109 238"]⟩,
   ⟨["bass", "bassavah"],
     ["16ad0 1d 3 5"]⟩,
   ⟨["batak", "batk"],
     ["1bc0 33 9 3"]⟩,
   ⟨["beng", "bengali"],
     ["980 3 2 7 3 1 3 15 2 6 2 0 4 3 3 8 3 1 3 3 9 0 5 1 2 4 3 18"]⟩,
   ⟨["bhaiksuki", "bhks"],
     ["11c00 8 2 2c 2 d b 1c"]⟩,
   ⟨["bopo", "bopomofo"],
     ["2ea 1 2e1a 2a 71 1f"]⟩,
   ⟨["brah", "brahmi"],
     ["11000 4d 5 23 a 0"]⟩,
   ⟨["brai", "braille"],
     ["2800 ff"]⟩,
   ⟨["bugi", "buginese"],
     ["1a00 1b 3 1"]⟩,
   ⟨["buhd", "buhid"],
     ["1740 13"]⟩,
   ⟨["cakm", "chakma"],
     ["11100 34 2 11"]⟩,
   ⟨["canadianaboriginal", "cans"],
     ["1400 27f 231 45 101bb f"]⟩,
   ⟨["cari", "carian"],
     ["102a0 30"]⟩,
   ⟨["cham"],
     ["aa00 36 a d 3 9 3 3"]⟩,
   ⟨["cher", "cherokee"],
     ["13a0 55 3 5 9773 4f"]⟩,
   ⟨["chorasmian", "chrs"],
     ["10fb0 1b"]⟩,
   ⟨["common", "zyyy"],
     ["0 40 1b 5 1b 2e 2 e 2 4 18 0 20 0 1c2 26 6 4 3 13 75 0 a 0 7 0 2 0 27e 0 7 0 f 0 4 0 21 0",
      "9d 0 205 0 82 1 4da 0 196 3 123 0 5f0 2 48 1 cc 1 2 0 4ce 0 e 0 8 3 2 5 2 2 3 0 306 b 3 56",
      "2 a 4 a 2 e 12 20 40 25 2 2 3 5 2 1a 2 10 2a 2 5 299 17 a 16 39f 101 273 3 1f 2 68 201 5d",
      "193 14 2 0 2 18 10 7 5 3 5c 1 4 0 5b 1 94 f 21 25 a 0 31 3f 20 50 30 0 59 a7 19c1 3f 5901",
      "21 67 2 a6 9 f5 0 a1 0 18c 0 f 1 51d3 1 d1 9 17 22 2 12 2 3 94 0 2 1f 1b 5 1b a b 0 2e 1",
      "41 6 2 6 b 4 103 2 5 2c 4 8 51 c 34 2c e5 1a b9a5 3 f5d f9 7 1b3 9d 73 3d f5 b 26 3 3d 4",
      "10 9 1 8 1d 5 3c d6 13 d 13 d 56 a 18 88 54 2 46 2 1 3 0 3 1 3 3 2 b 2 0 2 6 2 40 2 3 3 7",
      "2 6 2 1b 2 3 2 4 2 0 4 6 2 153 3 123 3 31 1472 43 4d 3c 2c3 2b 5 63 d e 3 e 2 e 2 24 b ad",
      "39 19 2 1 e 2b 5 8 8 1 f 5 9b 3d7 5 10 4 c 4 76 5 5e 7 b 5 0 10 b 5 37 9 9 7 27 9 1d 3 b 5",
      "1 3f 153 d d 3 c 4 9 6 37 8 e 3 a 7 8 8 92 2 65 c0408 0 1f 5f"]⟩,
   ⟨["copt", "coptic", "qaac"],
     ["3e2 d 2891 73 6 6"]⟩,
   ⟨["cpmn", "cyprominoan"],
     ["12f90 62"]⟩,
   ⟨["cprt", "cypriot"],
     ["10800 5 3 0 2 2b 2 1 4 0 3 0"]⟩,
   ⟨["cuneiform", "xsux"],
     ["12000 399 67 6e 2 4 c c3"]⟩,
   ⟨["cyrillic", "cyrl"],
     ["400 84 3 a8 1751 a a1 0 4d 0 1068 1f 7841 5f 578f 1 e201 3d 22 0"]⟩,
   ⟨["deseret", "dsrt"],
     ["10400 4f"]⟩,
   ⟨["deva", "devanagari"],
     ["900 50 5 e 3 19 9f61 1f 7201 9"]⟩,
   ⟨["diak", "divesakuru"],
     ["11900 6 3 0 3 7 2 1 2 1d 2 1 3 b a 9"]⟩,
   ⟨["dogr", "dogra"],
     ["11800 3b"]⟩,
   ⟨["dupl", "duployan"],
     ["1bc00 6a 6 c 4 8 8 9 3 3"]⟩,
   ⟨["egyp", "egyptianhieroglyphs"],
     ["13000 455 b f9a"]⟩,
   ⟨["elba", "elbasan"],
     ["10500 27"]⟩,
   ⟨["elym", "elymaic"],
     ["10fe0 16"]⟩,
   ⟨["ethi", "ethiopic"],
     ["1200 48 2 3 3 6 2 0 2 3 3 28 2 3 3 20 2 3 3 6 2 0 2 3 3 e 2 38 2 3 3 42 3 1f 4 19 19e7 16",
      "a 6 2 6 2 6 2 6 2 6 2 6 2 6 2 6 7d23 5 3 5 3 5 a 6 2 6 13cb2 6 2 3 2 1 2 e"]⟩,
   ⟨["gara", "garay"],
     ["10d40 25 4 1c 9 1"]⟩,
   ⟨["geor", "georgian"],
     ["10a0 25 2 0 6 0 3 2a 2 3 b91 2a 3 2 1041 25 2 0 6 0"]⟩,
   ⟨["glag", "glagolitic"],
     ["2c00 5f 1b3a1 6 2 10 3 6 2 1 2 4"]⟩,
   ⟨["gong", "gunjalagondi"],
     ["11d60 5 2 1 2 24 2 1 2 5 8 9"]⟩,
   ⟨["gonm", "masaramgondi"],
     ["11d00 6 2 1 2 2b 4 0 2 1 2 8 9 9"]⟩,
   ⟨["goth", "gothic"],
     ["10330 1a"]⟩,
   ⟨["gran", "grantha"],
     ["11300 3 2 7 3 1 3 15 2 6 2 1 2 4 3 8 3 1 3 2 3 0 7 0 6 6 3 6 4 4"]⟩,
   ⟨["greek", "grek"],
     ["370 3 2 2 3 3 2 0 5 0 2 0 2 2 2 0 2 13 2 3e f f 1927 4 33 4 5 4 55 0 141 15 3 5 3 25 3 5 3",
      "7 2 0 2 0 2 0 2 1e 3 34 2 e 2 d 3 5 2 12 3 2 2 8 128 0 8a3f 0 55db 4e 12 0 d060 45"]⟩,
   ⟨["gujarati", "gujr"],
     ["a81 2 2 8 2 2 2 15 2 6 2 1 2 4 3 9 2 2 2 2 3 0 10 3 3 b 8 6"]⟩,
   ⟨["gukh", "gurungkhema"],
     ["16100 39"]⟩,
   ⟨["gurmukhi", "guru"],
     ["a01 2 2 5 5 1 3 15 2 6 2 1 2 1 2 1 3 0 2 4 5 1 3 2 4 0 8 3 2 0 8 10"]⟩,
   ⟨["han", "hani"],
     ["2e80 19 2 58 d d5 30 0 2 0 1a 8 f 3 3c5 19bf 41 51ff 5901 16d 3 69 7509 1 d 1 900f a6df 21",
      "1039 7 dd 3 1681 f 1d30 10 26d 9a3 21d 5e3 134a 6 105f"]⟩,
   ⟨["hang", "hangul"],
     ["1100 ff 1e2f 1 102 5d 72 1e 42 1e 76e2 1c 284 2ba3 d 16 5 30 27a5 1e 4 5 3 5 3 5 3 2"]⟩,
   ⟨["hanifirohingya", "rohg"],
     ["10d00 27 9 9"]⟩,
   ⟨["hano", "hanunoo"],
     ["1720 14"]⟩,
   ⟨["hatr", "hatran"],
     ["108e0 12 2 1 6 4"]⟩,
   ⟨["hebr", "hebrew"],
     ["591 36 9 1a 5 5 f529 19 2 4 2 0 2 1 2 1 2 9"]⟩,
   ⟨["hira", "hiragana"],
     ["3041 55 7 2 17f62 11e 13 0 1e 2 40ae 0"]⟩,
   ⟨["hmng", "pahawhhmong"],
     ["16b00 45 b 9 2 6 2 14 6 12"]⟩,
   ⟨["hmnp", "nyiakengpuachuehmong"],
     ["1e100 2c 4 d 3 9 5 1"]⟩,
   ⟨["hung", "oldhungarian"],
     ["10c80 32 e 32 8 5"]⟩,
   ⟨["inherited", "qaai", "zinh"],
     ["300 6f 116 1 1c5 a 1b 0 2e1 3 115c 1e 202 2 2 c 2 6 5 0 7 0 4 1 c7 3f 20d 1 c3 20 f3a 3 6c",
      "1 cd66 f 11 d 3d0 0 e3 0 105b 0 bbc5 2d 3 16 221 2 12 7 3 6 1f 3 c2f53 ef"]⟩,
   ⟨["inscriptionalpahlavi", "phli"],
     ["10b60 12 6 7"]⟩,
   ⟨["inscriptionalparthian", "prti"],
     ["10b40 15 3 7"]⟩,
   ⟨["ital", "olditalic"],
     ["10300 23 a 2"]⟩,
   ⟨["java", "javanese"],
     ["a980 4d 3 9 5 1"]⟩,
   ⟨["kaithi", "kthi"],
     ["11080 42 b 0"]⟩,
   ⟨["kali", "kayahli"],
     ["a900 2d 2 0"]⟩,
   ⟨["kana", "katakana"],
     ["30a1 59 3 2 f1 f d1 2e 2 57 cc0f 9 2 2c b053 3 2 6 2 1 2 0 120 2 33 0 f 3"]⟩,
   ⟨["kannada", "knda"],
     ["c80 c 2 2 2 16 2 9 2 4 3 8 2 2 2 3 8 1 7 1 2 3 3 9 2 2"]⟩,
   ⟨["kawi"],
     ["11f00 10 2 28 4 1c"]⟩,
   ⟨["khar", "kharoshthi"],
     ["10a00 3 2 1 6 7 2 2 2 1c 3 2 5 9 8 8"]⟩,
   ⟨["khitansmallscript", "kits"],
     ["16fe4 0 1b1c 1d5 2a 0"]⟩,
   ⟨["khmer", "khmr"],
     ["1780 5d 3 9 7 9 1e7 1f"]⟩,
   ⟨["khoj", "khojki"],
     ["11200 11 2 2e"]⟩,
   ⟨["khudawadi", "sind"],
     ["112b0 3a 6 9"]⟩,
   ⟨["kiratrai", "krai"],
     ["16d40 39"]⟩,
   ⟨["lana", "taitham"],
     ["1a20 3e 2 1c 3 a 7 9 7 d"]⟩,
   ⟨["lao", "laoo"],
     ["e81 1 2 0 2 4 2 17 2 0 2 16 3 4 2 0 2 6 2 9 3 3"]⟩,
   ⟨["latin", "latn"],
     ["41 19 7 19 30 0 10 0 6 16 2 1e 2 1c0 28 4 1a1c 25 7 30 6 3 6 c 2 45 42 ff 172 0 e 0 11 c",
      "8e 1 7 0 1c 0 12 28 ad8 1f 7aa3 65 4 42 3 1 2 0 2 7 16 d 331 2a 2 8 2 3 4f97 6 41b 19 7 19",
      "826 5 2 29 2 8 d746 1e 7 5"]⟩,
   ⟨["lepc", "lepcha"],
     ["1c00 37 4 e 4 2"]⟩,
   ⟨["limb", "limbu"],
     ["1900 1e 2 b 5 b 5 0 4 b"]⟩,
   ⟨["lina", "lineara"],
     ["10600 136 a 15 b 7"]⟩,
   ⟨["linb", "linearb"],
     ["10000 b 2 19 2 12 2 1 2 e 3 d 23 7a"]⟩,
   ⟨["lisu"],
     ["a4d0 2f 7ab1 0"]⟩,
   ⟨["lyci", "lycian"],
     ["10280 1c"]⟩,
   ⟨["lydi", "lydian"],
     ["10920 19 6 0"]⟩,
   ⟨["mahajani", "mahj"],
     ["11150 26"]⟩,
   ⟨["maka", "makasar"],
     ["11ee0 18"]⟩,
   ⟨["malayalam", "mlym"],
     ["d00 c 2 2 2 32 2 2 2 5 5 f 3 19"]⟩,
   ⟨["mand", "mandaic"],
     ["840 1b 3 0"]⟩,
   ⟨["mani", "manichaean"],
     ["10ac0 26 5 b"]⟩,
   ⟨["marc", "marchen"],
     ["11c70 1f 3 15 2 d"]⟩,
   ⟨["medefaidrin", "medf"],
     ["16e40 5a"]⟩,
   ⟨["meeteimayek", "mtei"],
     ["aae0 16 ca 2d 3 9"]⟩,
   ⟨["mend", "mendekikakui"],
     ["1e800 c4 3 f"]⟩,
   ⟨["merc", "meroiticcursive"],
     ["109a0 17 5 13 3 2d"]⟩,
   ⟨["mero", "meroitichieroglyphs"],
     ["10980 1f"]⟩,
   ⟨["miao", "plrd"],
     ["16f00 4a 5 38 8 10"]⟩,
   ⟨["modi"],
     ["11600 44 c 9"]⟩,
   ⟨["mong", "mongolian"],
     ["1800 1 3 0 2 13 7 58 8 2a fdb6 c"]⟩,
   ⟨["mro", "mroo"],
     ["16a40 1e 2 9 5 1"]⟩,
   ⟨["mult", "multani"],
     ["11280 6 2 0 2 3 2 e 2 a"]⟩,
   ⟨["myanmar", "mymr"],
     ["1000 9f 9941 1e 62 1f 6c51 13"]⟩,
   ⟨["nabataean", "nbat"],
     ["10880 1e 9 8"]⟩,
   ⟨["nagm", "nagmundari"],
     ["1e4d0 29"]⟩,
   ⟨["nand", "nandinagari"],
     ["119a0 7 3 2d 3 a"]⟩,
   ⟨["narb", "oldnortharabian"],
     ["10a80 1f"]⟩,
   ⟨["newa"],
     ["11400 5b 2 4"]⟩,
   ⟨["newtailue", "talu"],
     ["1980 2b 5 19 7 a 4 1"]⟩,
   ⟨["nko", "nkoo"],
     ["7c0 3a 3 2"]⟩,
   ⟨["nshu", "nushu"],
     ["16fe1 0 418f 18b"]⟩,
   ⟨["ogam", "ogham"],
     ["1680 1c"]⟩,
   ⟨["olchiki", "olck"],
     ["1c50 2f"]⟩,
   ⟨["oldpermic", "perm"],
     ["10350 2a"]⟩,
   ⟨["oldpersian", "xpeo"],
     ["103a0 23 5 d"]⟩,
   ⟨["oldsogdian", "sogo"],
     ["10f00 27"]⟩,
   ⟨["oldsoutharabian", "sarb"],
     ["10a60 1f"]⟩,
   ⟨["oldturkic", "orkh"],
     ["10c00 48"]⟩,
   ⟨["olduyghur", "ougr"],
     ["10f70 19"]⟩,
   ⟨["olonal", "onao"],
     ["1e5d0 2a 5 0"]⟩,
   ⟨["oriya", "orya"],
     ["b01 2 2 7 3 1 3 15 2 6 2 1 2 4 3 8 3 1 3 2 8 2 5 1 2 4 3 11"]⟩,
   ⟨["osage", "osge"],
     ["104b0 23 5 23"]⟩,
   ⟨["osma", "osmanya"],
     ["10480 1d 3 9"]⟩,
   ⟨["palm", "palmyrene"],
     ["10860 1f"]⟩,
   ⟨["pauc", "paucinhau"],
     ["11ac0 38"]⟩,
   ⟨["phag", "phagspa"],
     ["a840 37"]⟩,
   ⟨["phlp", "psalterpahlavi"],
     ["10b80 11 8 3 d 6"]⟩,
   ⟨["phnx", "phoenician"],
     ["10900 1b 4 0"]⟩,
   ⟨["rejang", "rjng"],
     ["a930 23 c 0"]⟩,
   ⟨["runic", "runr"],
     ["16a0 4a 4 a"]⟩,
   ⟨["samaritan", "samr"],
     ["800 2d 3 e"]⟩,
   ⟨["saur", "saurashtra"],
     ["a880 45 9 b"]⟩,
   ⟨["sgnw", "signwriting"],
     ["1d800 28b 10 4 2 e"]⟩,
   ⟨["sharada", "shrd"],
     ["11180 5f"]⟩,
   ⟨["shavian", "shaw"],
     ["10450 2f"]⟩,
   ⟨["sidd", "siddham"],
     ["11580 35 3 25"]⟩,
   ⟨["sinh", "sinhala"],
     ["d81 2 2 11 4 17 2 8 2 0 3 6 4 0 5 5 2 0 2 7 7 9 3 2 103ed 13"]⟩,
   ⟨["sogd", "sogdian"],
     ["10f30 29"]⟩,
   ⟨["sora", "sorasompeng"],
     ["110d0 18 8 9"]⟩,
   ⟨["soyo", "soyombo"],
     ["11a50 52"]⟩,
   ⟨["sund", "sundanese"],
     ["1b80 3f 101 7"]⟩,
   ⟨["sunu", "sunuwar"],
     ["11bc0 21 f 9"]⟩,
   ⟨["sylo", "sylotinagri"],
     ["a800 2c"]⟩,
   ⟨["syrc", "syriac"],
     ["700 d 2 3b 3 2 111 a"]⟩,
   ⟨["tagalog", "tglg"],
     ["1700 15 a 0"]⟩,
   ⟨["tagb", "tagbanwa"],
     ["1760 c 2 2 2 1"]⟩,
   ⟨["taile", "tale"],
     ["1950 1d 3 4"]⟩,
   ⟨["taiviet", "tavt"],
     ["aa80 42 19 4"]⟩,
   ⟨["takr", "takri"],
     ["11680 39 7 9"]⟩,
   ⟨["tamil", "taml"],
     ["b82 1 2 5 4 2 2 3 4 1 2 0 2 1 4 1 4 2 4 b 5 4 4 2 2 3 3 0 7 0 f 14 113c6 31 e 0"]⟩,
   ⟨["tang", "tangut"],
     ["16fe0 0 20 17f7 9 2ff 201 8"]⟩,
   ⟨["tangsa", "tnsa"],
     ["16a70 4e 2 9"]⟩,
   ⟨["telu", "telugu"],
     ["c00 c 2 2 2 16 2 f 3 8 2 2 2 3 8 1 2 2 3 0 3 3 3 9 8 8"]⟩,
   ⟨["tfng", "tifinagh"],
     ["2d30 37 8 1 f 0"]⟩,
   ⟨["thaa", "thaana"],
     ["780 31"]⟩,
   ⟨["thai"],
     ["e01 39 6 1b"]⟩,
   ⟨["tibetan", "tibt"],
     ["f00 47 2 23 5 26 2 23 2 e 2 6 5 1"]⟩,
   ⟨["tirh", "tirhuta"],
     ["11480 47 9 9"]⟩,
   ⟨["todhri", "todr"],
     ["105c0 33"]⟩,
   ⟨["toto"],
     ["1e290 1e"]⟩,
   ⟨["tulutigalari", "tutg"],
     ["11380 9 2 0 3 0 2 25 2 9 2 0 3 0 2 3 2 9 2 1 9 1"]⟩,
   ⟨["ugar", "ugaritic"],
     ["10380 1d 2 0"]⟩,
   ⟨["vai", "vaii"],
     ["a500 12b"]⟩,
   ⟨["vith", "vithkuqi"],
     ["10570 a 2 e 2 6 2 1 2 a 2 e 2 6 2 1"]⟩,
   ⟨["wancho", "wcho"],
     ["1e2c0 39 6 0"]⟩,
   ⟨["wara", "warangciti"],
     ["118a0 52 d 0"]⟩,
   ⟨["yezi", "yezidi"],
     ["10e80 29 2 2 3 1"]⟩,
   ⟨["yi", "yiii"],
     ["a000 48c 4 36"]⟩,
   ⟨["zanabazarsquare", "zanb"],
     ["11a00 47"]⟩]

end QueryTail.Text.Property
