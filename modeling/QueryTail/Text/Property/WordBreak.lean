import QueryTail.Text.RangeTable

/-!
# Word break

Data of the Unicode character database, edition 16.0: the classes that decide where words end. Every
value has its names in the loose form, without case, spaces, hyphens and underscores.
-/

namespace QueryTail.Text.Property

/-- The values of this property and the characters that have them. -/
def wordBreak : List PropertyValue :=
  [⟨["aletter", "le"],
     ["41 19 7 19 30 0 b 0 5 0 6 16 2 1e 2 1df 7 21 71 4 2 1 3 3 2 0 7 0 2 2 2 0 2 13 2 52 2 8a 9",
      "a5 2 25 3 3 2 0 2 28 2 0 69 0 2d 2a 24 1 2 62 2 0 10 1 8 1 b 2 3 0 10 1 2 1d 1e 58 c 0 19",
      "20 a 1 5 0 6 15 5 0 a 0 4 0 18 18 8 a 6 17 2 5 12 29 3b 35 4 0 13 0 8 9 10 f 5 7 3 1 3 15",
      "2 6 2 0 4 3 4 0 11 0 e 1 2 2 f 1 b 0 9 5 5 1 3 15 2 6 2 1 2 1 2 1 20 3 2 0 14 2 11 8 2 2 2",
      "15 2 6 2 1 2 4 4 0 13 0 10 1 18 0 c 7 3 1 3 15 2 6 2 1 2 4 4 0 1f 1 2 2 10 0 12 0 2 5 4 2",
      "2 3 4 1 2 0 2 1 4 1 4 2 4 b 17 0 35 7 2 2 2 16 2 f 4 0 1b 2 3 0 3 1 1f 0 5 7 2 2 2 16 2 9",
      "2 4 4 0 20 1 2 1 10 1 12 8 2 2 2 28 3 0 11 0 6 2 9 2 19 5 6 11 4 17 2 8 2 0 3 6 13a 0 40 7",
      "2 23 1c 4 114 25 2 0 6 0 3 2a 2 14c 2 3 3 6 2 0 2 3 3 28 2 3 3 20 2 3 3 6 2 0 2 3 3 e 2 38",
      "2 3 3 42 26 f 11 55 3 5 4 26b 3 10 2 19 6 4a 4 a 8 11 e 12 f 11 f c 2 2 b0 58 8 4 3 21 2 0",
      "6 45 b 1e e2 16 ef 2e 12 7 37 1d e 1 b 2b 1b 23 2a 2 b 23 3 a 6 2a 3 2 2a 3 2 5 2 1 4 0 6",
      "bf 41 115 3 5 3 25 3 5 3 7 2 0 2 0 2 0 2 1e 3 34 2 6 2 0 4 2 2 6 4 3 3 5 5 c 6 2 2 6 75 0",
      "e 0 11 c 66 0 5 0 3 9 2 0 4 4 7 0 2 0 2 0 2 3 2 a 3 3 6 4 5 0 12 28 32e 33 717 e4 7 3 4 1",
      "d 25 2 0 6 0 3 37 8 0 11 16 a 6 2 6 2 6 2 6 2 6 2 6 2 6 2 6 51 0 1d6 0 36 1 c9 2a 2 5d 12",
      "1f 6e41 48c 44 2d 3 10c 4 f b 1 15 2e 11 1e 3 4f 19 c5 3 1 2 0 2 7 16 f 2 2 2 3 2 16 1e 33",
      "f 31 3f 5 4 0 2 1 c 1b b 16 1a 1c 8 2e 1d 0 31 28 18 2 2 7 95 a 8 2 d 5 3 5 3 5 a 6 2 6 2",
      "39 7 72 1e 2ba3 d 16 5 30 2305 6 d 4 39 61 22 16a 13 3f 3 35 29 b 75 4 2 86 25 19 7 19 46",
      "1e 4 5 3 5 3 5 3 2 24 b 2 19 2 12 2 1 2 e 3 d 23 7a 46 34 10c 1c 4 30 30 1f e 1d 6 25 b 1d",
      "3 23 5 7 2 4 2b 9d 13 23 5 23 5 27 9 33 d a 2 e 2 6 2 1 2 a 2 e 2 6 2 1 4 33 d 136 a 15 b",
      "7 19 5 2 29 2 8 46 5 3 0 2 2b 2 1 4 0 3 16 b 16 a 1e 42 12 2 1 b 15 b 19 47 37 7 1 41 0 10",
      "3 2 2 2 1c 2b 1c 4 1c 24 7 2 1b 1c 35 b 15 b 12 e 11 6f 48 38 32 e 32 e 23 27 1b a 16 fb",
      "29 7 1 11 2 3c 1c b 0 9 15 2b 11 2f 14 1c 16 d 34 3a 1 3 0 e 2c 21 18 1b 23 1e 0 3 0 9 22",
      "4 0 d 2f f 3 16 0 2 0 24 11 2 18 14 1 40 6 2 0 2 3 2 e 2 9 8 2e 27 7 3 1 3 15 2 6 2 1 2 4",
      "4 0 13 0 d 4 1f 9 2 0 3 0 2 25 2 0 1a 0 2 0 2d 34 13 3 15 2 1f 2f 15 1 2 0 b9 2e 2a 3 25",
      "2f 15 0 3c 2a e 0 148 2b 75 3f 20 7 3 0 3 7 2 1 2 17 10 0 2 0 5f 7 3 26 11 0 2 0 1d 0 b 27",
      "8 0 16 0 c 2d 14 0 13 48 c8 20 20 8 2 24 12 0 32 1d 71 6 2 1 2 25 16 0 1a 5 2 1 2 1f f 0",
      "148 12 10 0 2 c 2 21 7d 0 50 399 67 6e 12 c3 a4d 60 10 42f 12 5 1a f9a 6 246 1aba 1d 6e3",
      "238 8 1e 12 4e 12 1d 13 2f 11 3 20 14 6 12 1b1 2c d4 3f 81 4a 6 0 43 c 41 1 2 0 4c1d 6a 6",
      "c 4 8 8 9 1767 54 2 46 2 1 3 0 3 1 3 3 2 b 2 0 2 6 2 40 2 3 3 7 2 6 2 1b 2 3 2 4 2 0 4 6 2",
      "153 3 18 2 18 2 1e 2 18 2 1e 2 18 2 1e 2 18 2 1e 2 18 2 7 735 1e 7 5 106 3d 93 2c b 6 11 0",
      "142 1d 13 2b 1e5 1b e5 1d 3 0 1f0 6 2 3 2 1 2 e 2 c4 3c 43 8 0 4b5 3 2 1a 2 1 2 0 3 0 2 9",
      "2 3 2 0 2 0 7 0 5 0 2 0 2 0 2 2 2 1 2 0 3 0 2 0 2 0 2 0 2 0 2 1 2 0 3 3 2 6 2 3 2 3 2 0 2",
      "9 2 10 6 2 2 4 2 10 275 19 7 19 7 19"]⟩,
   ⟨["cr"],
     ["d 0"]⟩,
   ⟨["doublequote", "dq"],
     ["22 0"]⟩,
   ⟨["ex", "extendnumlet"],
     ["5f 0 1fd0 0 10 1 14 0 dddf 1 19 2 f0 0"]⟩,
   ⟨["extend"],
     ["300 6f 114 6 108 2c 2 0 2 1 2 1 2 0 49 a 31 14 11 0 66 6 3 5 3 1 2 3 24 0 1f 1a 5c a 3b 8",
      "a 0 19 3 2 8 2 2 2 4 2c 2 3c 8 2b 17 2 20 37 2 2 11 2 6 b 1 1e 2 39 0 2 6 3 1 3 2 a 0 b 1",
      "1b 0 3 2 39 0 2 4 5 1 3 2 4 0 1f 1 4 0 c 2 39 0 2 7 2 2 2 2 15 1 17 5 2 2 39 0 2 6 3 1 3 2",
      "8 2 b 1 1f 0 3c 4 4 2 2 3 a 0 29 4 38 0 2 6 2 2 2 3 8 1 c 1 1e 2 39 0 2 6 2 2 2 3 8 1 c 1",
      "10 0 d 3 38 1 2 6 2 2 2 3 a 0 b 1 1e 2 47 0 5 5 2 0 2 7 13 1 3e 0 3 6 d 7 63 0 3 8 c 6 4a",
      "1 1c 0 2 0 2 0 5 1 32 13 2 1 6 a 2 23 a 0 65 13 18 3 5 2 2 2 3 6 4 3 e b 2 0 b 3 2c0 2 3b3",
      "3 1d 2 1e 1 1f 1 41 1f a 0 2e 2 2 0 76 1 23 0 77 b 5 b dc 4 3a 9 2 1c 3 0 31 1e 32 4 30 10",
      "27 8 d 2 1f c 39 d 31 13 99 2 2 14 5 0 7 0 3 2 c7 3f 20d 0 c4 20 bff 2 8e 0 61 1f 22b 5 6a",
      "1 75d5 3 2 9 21 1 51 1 111 0 4 0 5 0 18 4 5 0 54 1 33 11 1b 11 e 0 27 7 1a c 2d 3 30 d 25",
      "0 44 d d 0 9 1 2e 2 33 0 2 2 3 1 6 1 2 0 2a 4 6 1 ed 7 2 1 4f31 0 2e2 f 11 f 16f 1 25e 0",
      "e3 0 96 4 687 2 2 1 6 3 29 2 5 0 a6 1 23e 3 42 4 13e 1 50 3 47 a 32 3 7b 2 36 e 2a 0 3 1 b",
      "3 2e a 8 0 3e 2 25 d 11 1 2d 0 d 2 31 d 9 3 2 1 5d b 7 0 3 0 9e b 16 3 38 1 2 6 3 1 3 2 a",
      "0 b 1 3 6 4 4 44 8 2 0 3 0 2 3 2 4 2 0 f 1 53 11 18 0 52 13 ec 6 3 8 1c 1 53 10 6b c 66 e",
      "101 e f6 5 2 1 3 3 2 0 2 1 8e 6 3 6 4 0 1d 9 29 6 2 3 9 0 a a 2f f 196 7 2 7 53 15 2 d 7b",
      "5 4 0 2 1 2 6 2 0 43 4 2 1 2 4 15c 3 a 1 2 0 31 6 4 4 18 0 14e6 0 7 e 2cc9 11 9c1 4 3c 6",
      "419 0 2 36 8 3 52 0 c 1 4cac 1 1262 2d 3 16 21f 4 4 5 9 7 3 6 1f 3 95 2 7bc 36 5 31 9 0 f",
      "0 17 4 2 e 551 6 2 10 3 6 2 1 2 4 65 0 a1 6 178 0 3e 3 1fd 3 ff 1 2e1 6 6e 6 ab1 4 c0c21",
      "5f 81 ef"]⟩,
   ⟨["fo", "format"],
     ["ad 0 56f 0 11f2 0 800 1 1b 4 32 4 2 9 de90 0 fa 2 3435 f 8861 3 14d0 7 c2e87 0"]⟩,
   ⟨["hebrewletter", "hl"],
     ["5d0 1a 5 3 f52b 0 2 9 2 c 2 4 2 0 2 1 2 1 2 9"]⟩,
   ⟨["ka", "katakana"],
     ["3031 4 66 1 4 5a 2 3 f1 f d1 2e 2 57 cc0f 37 b053 3 2 6 2 1 2 0 120 2 33 0 f 3"]⟩,
   ⟨["lf"],
     ["a 0"]⟩,
   ⟨["mb", "midnumlet"],
     ["2e 0 1fea 1 b 0 de2e 0 b5 0 7 0"]⟩,
   ⟨["midletter", "ml"],
     ["3a 0 7d 0 2d0 0 1d8 0 95 0 1a33 0 ddec 0 42 0 c5 0"]⟩,
   ⟨["midnum", "mn"],
     ["2c 0 f 0 343 0 20b 0 83 1 5f 0 18c 0 184c 0 de0c 0 4 0 b8 0 f 0"]⟩,
   ⟨["newline", "nl"],
     ["b 1 79 0 1fa3 1"]⟩,
   ⟨["nu", "numeric"],
     ["30 9 5c7 5 5b 9 2 0 72 0 13 9 c7 9 c7 1 51 0 84 9 77 9 77 9 77 9 77 9 77 9 77 9 77 9 77 9",
      "77 9 61 9 77 9 47 9 117 9 47 9 747 9 27 9 12d 9 81 a a6 9 7 9 b7 9 57 9 87 9 7 9 89c7 9",
      "2a7 9 27 9 c7 9 17 9 57 9 197 9 5317 9 587 9 887 9 7 9 31d 9 4e 0 10 0 23 9 3d 9 91 9 117",
      "9 157 9 77 9 177 9 67 9 7 13 4d 9 1a7 9 67 9 297 9 57 9 f7 9 47 9 1a7 9 41d7 9 927 9 57 9",
      "87 9 217 9 5f77 9 ad5 31 941 9 1a7 9 1f7 9 f8 9 356 9 1297 9"]⟩,
   ⟨["regionalindicator", "ri"],
     ["1f1e6 19"]⟩,
   ⟨["singlequote", "sq"],
     ["27 0"]⟩,
   ⟨["wsegspace"],
     ["20 0 1660 0 980 6 2 2 55 0 fa1 0"]⟩,
   ⟨["zwj"],
     ["200d 0"]⟩]

end QueryTail.Text.Property
