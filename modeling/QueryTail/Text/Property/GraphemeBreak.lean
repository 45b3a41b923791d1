import QueryTail.Text.RangeTable

/-!
# Grapheme cluster break

Data of the Unicode character database, edition 16.0: the classes that decide where grapheme
clusters end. Every value has its names in the loose form, without case, spaces, hyphens and
underscores.
-/

namespace QueryTail.Text.Property

/-- The values of this property and the characters that have them. -/
def graphemeBreak : List PropertyValue :=
  [⟨["cn", "control"],
     ["0 9 2 1 2 11 60 20 e 0 56f 0 11f2 0 7fd 0 3 1 19 6 32 f de90 0 f1 b 3435 f 8861 3 14d0 7",
      "c2e86 1f 61 7f f1 e0f"]⟩,
   ⟨["cr"],
     ["d 0"]⟩,
   ⟨["ex", "extend"],
     ["300 6f 114 6 108 2c 2 0 2 1 2 1 2 0 49 a 31 14 11 0 66 6 3 5 3 1 2 3 24 0 1f 1a 5c a 3b 8",
      "a 0 19 3 2 8 2 2 2 4 2c 2 3c 8 2b 17 2 1f 38 0 2 0 5 7 5 0 4 6 b 1 1e 0 3b 0 2 0 3 3 9 0 a",
      "0 b 1 1b 0 3 1 3a 0 5 1 5 1 3 2 4 0 1f 1 4 0 c 1 3a 0 5 4 2 1 5 0 15 1 17 5 2 0 3b 0 2 1 2",
      "3 9 0 8 2 b 1 1f 0 3c 0 2 0 d 0 a 0 29 0 4 0 38 0 2 2 6 2 2 3 8 1 c 1 1e 0 3b 0 3 1 2 0 4",
      "2 2 3 8 1 c 1 1d 1 3a 1 2 0 3 3 9 0 a 0 b 1 1e 0 49 0 5 0 3 2 2 0 9 0 52 0 3 6 d 7 63 0 3",
      "8 c 6 4a 1 1c 0 2 0 2 0 38 d 2 4 2 1 6 a 2 23 a 0 67 3 2 5 2 1 3 1 1a 1 5 2 11 3 e 0 3 1 7",
      "0 10 0 2c0 2 3b3 3 1d 2 1e 1 1f 1 41 1 2 6 9 0 3 a a 0 2e 2 2 0 76 1 23 0 77 2 5 1 a 0 7 2",
      "dc 1 3 0 3b 0 2 6 2 0 2 0 3 7 7 9 3 0 31 1e 32 3 31 9 5 2 27 8 d 1 21 3 3 5 39 0 2 1 4 0 2",
      "4 39 7 3 1 99 2 2 c 2 6 5 0 7 0 4 1 c7 3f 20d 0 c4 20 bff 2 8e 0 61 1f 22b 5 6a 1 75d5 3 2",
      "9 21 1 51 1 111 0 4 0 5 0 1a 1 6 0 98 1 1b 11 e 0 27 7 1a a 2 0 2d 2 31 0 3 3 3 1 3 0 25 0",
      "44 5 3 1 3 1 d 0 9 0 30 0 34 0 2 2 3 1 6 1 2 0 2b 1 9 0 ef 0 3 0 5 0 4f31 0 2e2 f 11 f 16f",
      "1 25e 0 e3 0 96 4 687 2 2 1 6 3 29 2 5 0 a6 1 23e 3 42 4 13e 1 50 3 47 a 32 3 7c 0 37 e 2a",
      "0 3 1 b 2 32 3 3 1 8 0 3e 2 25 4 2 7 3f 0 d 1 35 8 2 0 9 3 3 0 60 2 3 3 7 0 3 0 9e 0 4 7",
      "16 1 3a 1 2 0 2 0 d 0 a 0 f 6 4 4 44 0 3 5 2 0 3 0 2 2 5 2 2 0 f 1 56 7 3 2 2 0 18 0 52 0",
      "3 5 2 0 3 0 2 1 2 1 ec 0 3 3 7 1 2 1 1c 1 56 7 3 0 2 1 6b 0 2 0 3 7 66 0 2 0 3 3 2 4 104 8",
      "2 1 f6 0 b 3 5 0 91 3 3 1 5 0 21 9 29 5 3 3 9 0 a 5 3 2 2f c 2 1 197 6 2 5 2 0 53 15 3 6 2",
      "1 2 1 7b 5 4 0 2 1 2 6 2 0 49 1 4 0 2 0 15c 1 c 1 35 4 6 2 18 0 14e6 0 7 e 2cc9 b 4 2 9c1",
      "4 3c 6 419 0 40 3 52 0 c 1 4cac 1 1262 2d 3 16 21f 4 4 5 9 7 3 6 1f 3 95 2 7bc 36 5 31 9 0",
      "f 0 17 4 2 e 551 6 2 10 3 6 2 1 2 4 65 0 a1 6 178 0 3e 3 1fd 3 ff 1 2e1 6 6e 6 ab1 4 c0c21",
      "5f 81 ef"]⟩,
   ⟨["l"],
     ["1100 5f 9801 1c"]⟩,
   ⟨["lf"],
     ["a 0"]⟩,
   ⟨["lv"],
     ["ac00 0 1c 0 1c 0 1c 0 1c 0 1c 0 1c 0 1c 0 1c 0 1c 0 1c 0 1c 0 1c 0 1c 0 1c 0 1c 0 1c 0 1c",
      "0 1c 0 1c 0 1c 0 1c 0 1c 0 1c 0 1c 0 1c 0 1c 0 1c 0 1c 0 1c 0 1c 0 1c 0 1c 0 1c 0 1c 0 1c",
      "0 1c 0 1c 0 1c 0 1c 0 1c 0 1c 0 1c 0 1c 0 1c 0 1c 0 1c 0 1c 0 1c 0 1c 0 1c 0 1c 0 1c 0 1c",
      "0 1c 0 1c 0 1c 0 1c 0 1c 0 1c 0 1c 0 1c 0 1c 0 1c 0 1c 0 1c 0 1c 0 1c 0 1c 0 1c 0 1c 0 1c",
      "0 1c 0 1c 0 1c 0 1c 0 1c 0 1c 0 1c 0 1c 0 1c 0 1c 0 1c 0 1c 0 1c 0 1c 0 1c 0 1c 0 1c 0 1c",
      "0 1c 0 1c 0 1c 0 1c 0 1c 0 1c 0 1c 0 1c 0 1c 0 1c 0 1c 0 1c 0 1c 0 1c 0 1c 0 1c 0 1c 0 1c",
      "0 1c 0 1c 0 1c 0 1c 0 1c 0 1c 0 1c 0 1c 0 1c 0 1c 0 1c 0 1c 0 1c 0 1c 0 1c 0 1c 0 1c 0 1c",
      "0 1c 0 1c 0 1c 0 1c 0 1c 0 1c 0 1c 0 1c 0 1c 0 1c 0 1c 0 1c 0 1c 0 1c 0 1c 0 1c 0 1c 0 1c",
      "0 1c 0 1c 0 1c 0 1c 0 1c 0 1c 0 1c 0 1c 0 1c 0 1c 0 1c 0 1c 0 1c 0 1c 0 1c 0 1c 0 1c 0 1c",
      "0 1c 0 1c 0 1c 0 1c 0 1c 0 1c 0 1c 0 1c 0 1c 0 1c 0 1c 0 1c 0 1c 0 1c 0 1c 0 1c 0 1c 0 1c",
      "0 1c 0 1c 0 1c 0 1c 0 1c 0 1c 0 1c 0 1c 0 1c 0 1c 0 1c 0 1c 0 1c 0 1c 0 1c 0 1c 0 1c 0 1c",
      "0 1c 0 1c 0 1c 0 1c 0 1c 0 1c 0 1c 0 1c 0 1c 0 1c 0 1c 0 1c 0 1c 0 1c 0 1c 0 1c 0 1c 0 1c",
      "0 1c 0 1c 0 1c 0 1c 0 1c 0 1c 0 1c 0 1c 0 1c 0 1c 0 1c 0 1c 0 1c 0 1c 0 1c 0 1c 0 1c 0 1c",
      "0 1c 0 1c 0 1c 0 1c 0 1c 0 1c 0 1c 0 1c 0 1c 0 1c 0 1c 0 1c 0 1c 0 1c 0 1c 0 1c 0 1c 0 1c",
      "0 1c 0 1c 0 1c 0 1c 0 1c 0 1c 0 1c 0 1c 0 1c 0 1c 0 1c 0 1c 0 1c 0 1c 0 1c 0 1c 0 1c 0 1c",
      "0 1c 0 1c 0 1c 0 1c 0 1c 0 1c 0 1c 0 1c 0 1c 0 1c 0 1c 0 1c 0 1c 0 1c 0 1c 0 1c 0 1c 0 1c",
      "0 1c 0 1c 0 1c 0 1c 0 1c 0 1c 0 1c 0 1c 0 1c 0 1c 0 1c 0 1c 0 1c 0 1c 0 1c 0 1c 0 1c 0 1c",
      "0 1c 0 1c 0 1c 0 1c 0 1c 0 1c 0 1c 0 1c 0 1c 0 1c 0 1c 0 1c 0 1c 0 1c 0 1c 0 1c 0 1c 0 1c",
      "0 1c 0 1c 0 1c 0 1c 0 1c 0 1c 0 1c 0 1c 0 1c 0 1c 0 1c 0 1c 0 1c 0 1c 0 1c 0 1c 0 1c 0 1c",
      "0 1c 0 1c 0 1c 0 1c 0 1c 0 1c 0 1c 0 1c 0 1c 0 1c 0 1c 0 1c 0 1c 0 1c 0 1c 0 1c 0 1c 0 1c",
      "0 1c 0 1c 0 1c 0 1c 0 1c 0 1c 0 1c 0 1c 0 1c 0 1c 0 1c 0 1c 0 1c 0 1c 0 1c 0 1c 0 1c 0 1c",
      "0 1c 0 1c 0 1c 0 1c 0 1c 0 1c 0 1c 0 1c 0 1c 0 1c 0 1c 0 1c 0 1c 0 1c 0 1c 0 1c 0 1c 0 1c",
      "0 1c 0 1c 0 1c 0"]⟩,
   ⟨["lvt"],
     ["ac01 1a 2 1a 2 1a 2 1a 2 1a 2 1a 2 1a 2 1a 2 1a 2 1a 2 1a 2 1a 2 1a 2 1a 2 1a 2 1a 2 1a 2",
      "1a 2 1a 2 1a 2 1a 2 1a 2 1a 2 1a 2 1a 2 1a 2 1a 2 1a 2 1a 2 1a 2 1a 2 1a 2 1a 2 1a 2 1a 2",
      "1a 2 1a 2 1a 2 1a 2 1a 2 1a 2 1a 2 1a 2 1a 2 1a 2 1a 2 1a 2 1a 2 1a 2 1a 2 1a 2 1a 2 1a 2",
      "1a 2 1a 2 1a 2 1a 2 1a 2 1a 2 1a 2 1a 2 1a 2 1a 2 1a 2 1a 2 1a 2 1a 2 1a 2 1a 2 1a 2 1a 2",
      "1a 2 1a 2 1a 2 1a 2 1a 2 1a 2 1a 2 1a 2 1a 2 1a 2 1a 2 1a 2 1a 2 1a 2 1a 2 1a 2 1a 2 1a 2",
      "1a 2 1a 2 1a 2 1a 2 1a 2 1a 2 1a 2 1a 2 1a 2 1a 2 1a 2 1a 2 1a 2 1a 2 1a 2 1a 2 1a 2 1a 2",
      "1a 2 1a 2 1a 2 1a 2 1a 2 1a 2 1a 2 1a 2 1a 2 1a 2 1a 2 1a 2 1a 2 1a 2 1a 2 1a 2 1a 2 1a 2",
      "1a 2 1a 2 1a 2 1a 2 1a 2 1a 2 1a 2 1a 2 1a 2 1a 2 1a 2 1a 2 1a 2 1a 2 1a 2 1a 2 1a 2 1a 2",
      "1a 2 1a 2 1a 2 1a 2 1a 2 1a 2 1a 2 1a 2 1a 2 1a 2 1a 2 1a 2 1a 2 1a 2 1a 2 1a 2 1a 2 1a 2",
      "1a 2 1a 2 1a 2 1a 2 1a 2 1a 2 1a 2 1a 2 1a 2 1a 2 1a 2 1a 2 1a 2 1a 2 1a 2 1a 2 1a 2 1a 2",
      "1a 2 1a 2 1a 2 1a 2 1a 2 1a 2 1a 2 1a 2 1a 2 1a 2 1a 2 1a 2 1a 2 1a 2 1a 2 1a 2 1a 2 1a 2",
      "1a 2 1a 2 1a 2 1a 2 1a 2 1a 2 1a 2 1a 2 1a 2 1a 2 1a 2 1a 2 1a 2 1a 2 1a 2 1a 2 1a 2 1a 2",
      "1a 2 1a 2 1a 2 1a 2 1a 2 1a 2 1a 2 1a 2 1a 2 1a 2 1a 2 1a 2 1a 2 1a 2 1a 2 1a 2 1a 2 1a 2",
      "1a 2 1a 2 1a 2 1a 2 1a 2 1a 2 1a 2 1a 2 1a 2 1a 2 1a 2 1a 2 1a 2 1a 2 1a 2 1a 2 1a 2 1a 2",
      "1a 2 1a 2 1a 2 1a 2 1a 2 1a 2 1a 2 1a 2 1a 2 1a 2 1a 2 1a 2 1a 2 1a 2 1a 2 1a 2 1a 2 1a 2",
      "1a 2 1a 2 1a 2 1a 2 1a 2 1a 2 1a 2 1a 2 1a 2 1a 2 1a 2 1a 2 1a 2 1a 2 1a 2 1a 2 1a 2 1a 2",
      "1a 2 1a 2 1a 2 1a 2 1a 2 1a 2 1a 2 1a 2 1a 2 1a 2 1a 2 1a 2 1a 2 1a 2 1a 2 1a 2 1a 2 1a 2",
      "1a 2 1a 2 1a 2 1a 2 1a 2 1a 2 1a 2 1a 2 1a 2 1a 2 1a 2 1a 2 1a 2 1a 2 1a 2 1a 2 1a 2 1a 2",
      "1a 2 1a 2 1a 2 1a 2 1a 2 1a 2 1a 2 1a 2 1a 2 1a 2 1a 2 1a 2 1a 2 1a 2 1a 2 1a 2 1a 2 1a 2",
      "1a 2 1a 2 1a 2 1a 2 1a 2 1a 2 1a 2 1a 2 1a 2 1a 2 1a 2 1a 2 1a 2 1a 2 1a 2 1a 2 1a 2 1a 2",
      "1a 2 1a 2 1a 2 1a 2 1a 2 1a 2 1a 2 1a 2 1a 2 1a 2 1a 2 1a 2 1a 2 1a 2 1a 2 1a 2 1a 2 1a 2",
      "1a 2 1a 2 1a 2 1a 2 1a 2 1a 2 1a 2 1a 2 1a 2 1a 2 1a 2 1a 2 1a 2 1a 2 1a 2 1a 2 1a 2 1a 2",
      "1a 2 1a 2 1a 2 1a"]⟩,
   ⟨["pp", "prepend"],
     ["600 5 d8 0 32 0 181 1 51 0 46c 0 1036f 0 10 0 f5 1 20e 0 56e 0 2 0 f9 0 4a 5 2bd 0 1bc 0"]⟩,
   ⟨["regionalindicator", "ri"],
     ["1f1e6 19"]⟩,
   ⟨["sm", "spacingmark"],
     ["903 0 38 0 3 2 9 3 2 1 33 1 3c 1 7 1 3 1 37 0 3b 2 43 0 3b 2 9 0 2 1 36 1 3d 0 7 1 3 1 73",
      "0 2 1 4 2 2 2 35 2 3e 3 3e 1 3b 0 3 0 2 1 2f 0 f 1 3c 1 6 2 2 2 36 1 4d 1 7 6 14 1 40 0 80",
      "0 8b 1 40 0 b2 0 a 1 1a 1 2d 0 732 0 8 7 2 1 15b 3 3 2 5 1 2 5 e1 1 3b 0 2 0 16 5 92 0 3a",
      "3 41 0 1f 0 5 1 40 0 3 2 2 0 36 7 9 1 ac 0 16 0 8b2c 1 3 0 59 1 33 f 8f 0 31 0 31 1 5 1 3",
      "1 70 1 3 1 19 0 9e 0 3 1 6 0 ee 1 2 1 2 1 2 0 6414 0 2 0 80 0 2e 2 5 1 74 0 19 1 3c 0 31 2",
      "a 0 f 0 5e 2 4 1 ad 2 20 1 3c 0 2 3 3 1 3 1 16 1 56 1 10 0 2 1 68 2 9 1 4 0 6c 1 7 0 2 1 2",
      "0 3 0 ef 1 7 3 3 0 72 2 9 1 2 0 6e 0 2 1 6f 0 8 0 106 2 a 0 f9 4 2 1 8 0 2 0 8f 2 9 3 5 0",
      "55 0 1e 1 3f 0 198 0 f 0 6b 0 8 0 3 0 d6 4 5 1 2 0 15f 1 d 0 31 1 9 1 41eb 2 e25 36"]⟩,
   ⟨["t"],
     ["11a8 57 c5cc 30"]⟩,
   ⟨["v"],
     ["1160 47 c609 16 959d 0 4 3"]⟩,
   ⟨["zwj"],
     ["200d 0"]⟩]

end QueryTail.Text.Property
