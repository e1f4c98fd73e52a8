import RouteAtlas.Text.Basic
import RouteAtlas.Text.CodeRanges

/-!
# Classes of characters

The Unicode properties that decide what a word character, a digit, an identifier or a printable
character is. Below 128 each class is given outright; above, by its table.

The tables hold gaps and lengths of ranges (`CodeRanges.ofGaps`), one table for each class, taken
over from version 14 of the character database. Giving the lower part outright serves proofs: what a
class says of an ASCII character can be computed without opening its table.
-/

namespace RouteAtlas.Text

/-! ## Tables -/

/-- The letters and numbers of all scripts beyond ASCII. -/
def alphanumeric : CodeRanges := .ofGaps
  "170 1 7 2 1 1 3 2 1 3 1 23 1 31 1 458 4 12 14 5 7 1 1 1 129 5 1 2 2 4 1 1 6 1 1 3 1 1 1 20 1
   83 1 139 8 166 1 38 2 1 6 41 71 27 4 4 45 43 21 10 4 2 1 99 1 1 15 2 7 15 2 1 16 1 1 30 29
   89 11 1 14 43 9 2 4 1 5 22 4 1 9 1 3 1 23 25 7 11 5 24 1 6 17 42 58 54 3 1 18 1 7 10 4 10 1
   16 4 8 2 2 2 22 1 7 1 1 3 4 3 1 16 1 13 2 1 3 4 12 2 6 2 1 8 6 4 2 2 22 1 7 1 2 1 2 1 2 31 4
   1 1 7 10 2 3 16 9 1 3 1 22 1 7 1 2 1 5 3 1 18 1 15 2 4 10 9 1 11 8 2 2 2 22 1 7 1 2 1 5 3 1
   30 2 1 3 4 10 1 7 11 1 1 6 3 3 1 4 3 2 1 1 1 2 3 2 3 3 3 12 22 1 21 13 18 8 1 3 1 23 1 16 3
   1 26 3 2 1 2 2 4 10 8 7 1 1 4 8 1 3 1 23 1 10 1 5 3 1 31 2 1 2 4 10 1 2 17 9 1 3 1 41 2 1 16
   1 5 3 1 10 4 19 1 6 5 18 3 24 1 9 1 1 2 7 31 10 17 48 1 2 12 7 9 10 39 2 1 1 1 5 1 24 1 1 1
   10 1 2 9 1 2 5 1 1 9 10 2 4 32 1 31 20 12 8 1 36 27 5 115 43 20 11 6 6 4 4 3 1 3 2 7 3 4 13
   12 1 1 10 6 38 1 1 5 1 2 43 1 333 1 4 2 7 1 1 1 4 2 41 1 4 2 33 1 4 2 7 1 1 1 4 2 15 1 57 1
   4 2 67 14 20 3 16 16 86 2 6 3 620 2 17 1 26 5 75 3 11 7 18 13 19 14 18 14 13 1 3 15 52 35 1
   4 1 3 10 6 10 22 10 6 89 7 5 2 34 1 1 5 70 10 31 39 40 2 5 11 44 4 26 6 11 37 23 9 53 43 10
   6 10 13 1 93 47 17 8 3 10 41 30 13 56 26 36 28 10 3 49 2 9 7 43 2 3 41 4 1 6 1 2 3 1 5 192
   64 278 2 6 2 38 2 6 2 8 1 1 1 1 1 1 1 31 2 53 1 7 1 1 3 3 1 7 3 4 2 6 4 13 5 3 1 7 115 2 2 6
   5 11 6 13 101 1 4 1 2 10 1 1 3 5 6 1 1 1 1 1 1 4 1 11 2 4 5 5 4 1 1 58 726 60 78 22 630 30
   1132 229 6 4 3 2 9 1 2 38 1 1 5 1 2 56 7 1 16 23 9 7 1 7 1 7 1 7 1 7 1 7 1 7 1 7 80 1 469 3
   25 9 7 5 2 5 4 86 6 3 1 90 1 4 5 43 1 94 3 4 10 32 48 16 32 10 30 8 1 15 32 10 39 15 320
   6592 64 22157 67 46 2 269 3 28 20 47 16 31 2 80 39 9 2 103 2 64 5 2 1 1 1 5 24 16 1 3 1 4 1
   23 13 6 10 52 14 50 28 10 24 6 3 1 1 2 1 38 10 23 25 29 7 47 28 11 6 5 1 25 1 41 23 3 1 8 4
   10 6 23 3 1 3 50 1 1 3 2 2 5 2 1 1 1 24 3 2 11 7 3 12 6 2 6 2 6 9 7 1 7 1 43 1 14 6 115 13
   10 6 11172 12 23 4 49 8452 366 2 106 38 7 12 5 5 1 1 10 1 13 1 5 1 1 1 2 1 2 1 108 33 363 18
   64 2 54 40 12 116 5 1 135 19 10 7 26 6 26 11 89 3 6 2 6 2 6 2 3 35 12 1 26 1 19 1 2 1 15 2
   14 34 123 12 45 12 57 17 2 244 29 3 49 16 27 4 36 9 30 5 38 10 30 2 36 4 8 1 5 42 158 2 10 6
   36 4 36 4 40 8 52 12 11 1 15 1 7 1 2 1 11 1 15 1 7 1 2 67 311 9 22 10 8 24 6 1 42 1 9 69 6 2
   1 1 44 1 2 3 1 2 23 2 31 2 38 8 9 48 19 1 2 5 33 4 26 70 56 4 20 2 47 15 4 1 3 1 29 10 9 23
   31 1 32 32 8 1 28 6 5 16 54 10 22 2 27 5 26 23 7 80 73 55 51 13 51 7 42 12 10 294 31 1 42 6
   2 78 40 8 22 11 4 27 18 46 28 20 23 12 53 26 30 1 2 2 1 13 45 32 25 7 10 9 36 15 10 4 1 2 1
   8 35 3 1 12 48 14 4 11 11 1 1 4 20 11 18 1 25 84 7 1 1 1 4 1 15 1 10 7 47 17 10 11 8 2 2 2
   22 1 7 1 2 1 5 3 1 18 1 12 5 158 53 18 4 5 10 5 3 30 48 20 2 1 1 8 10 166 47 41 4 36 48 20 1
   11 10 38 43 13 1 7 10 54 27 21 12 4 7 185 44 116 83 12 8 2 1 2 8 1 2 1 24 15 1 1 1 14 10 70
   8 2 39 16 1 1 1 28 1 10 40 7 1 21 1 11 46 19 1 18 73 263 9 1 37 17 1 15 29 5 30 112 7 1 2 1
   38 21 1 9 10 6 6 1 2 1 32 14 1 7 10 310 19 189 1 15 21 43 922 102 111 17 196 2636 97 15 1071
   4049 583 8633 569 7 31 1 10 6 79 1 10 6 30 18 48 16 4 12 10 1 7 1 21 5 19 688 87 105 75 5 1
   66 13 64 2 1 1 28 6136 8 1238 42 9 8935 4 1 7 1 2 1 291 45 3 17 4 8 396 2308 107 5 13 3 9 7
   10 5702 20 108 25 135 85 1 71 1 2 2 1 2 2 2 4 1 12 1 1 1 7 1 65 1 4 2 8 1 7 1 28 1 4 1 5 1 1
   3 7 1 340 2 25 1 25 1 31 1 25 1 31 1 25 1 31 1 25 1 31 1 25 1 8 2 50 1792 31 481 45 10 7 2
   10 4 1 321 30 18 44 4 10 1254 7 1 4 1 2 1 15 1 197 2 9 48 68 7 1 4 10 791 59 1 3 1 4 76 45 1
   15 194 4 1 27 1 2 1 1 2 1 1 10 1 4 1 1 1 1 6 1 4 1 1 1 1 1 1 3 1 2 1 1 2 1 1 1 1 1 1 1 1 1 1
   2 1 1 2 4 1 7 1 4 1 4 1 1 1 10 1 17 5 3 1 5 1 17 580 13 2787 10 1030 42720 32 4153 7 222 2
   5762 14 7473 3103 542 1506 4939"

/-- The letters of all scripts beyond ASCII. -/
def alphabetic : CodeRanges := .ofGaps
  "170 1 10 1 4 1 5 23 1 31 1 458 4 12 14 5 7 1 1 1 129 5 1 2 2 4 1 1 6 1 1 3 1 1 1 20 1 83 1
   139 8 166 1 38 2 1 6 41 71 27 4 4 45 43 35 2 1 99 1 1 15 2 7 2 10 3 2 1 16 1 1 30 29 89 11 1
   24 33 9 2 4 1 5 22 4 1 9 1 3 1 23 25 7 11 5 24 1 6 17 42 58 54 3 1 18 1 7 10 15 16 4 8 2 2 2
   22 1 7 1 1 3 4 3 1 16 1 13 2 1 3 14 2 10 1 8 6 4 2 2 22 1 7 1 2 1 2 1 2 31 4 1 1 19 3 16 9 1
   3 1 22 1 7 1 2 1 5 3 1 18 1 15 2 23 1 11 8 2 2 2 22 1 7 1 2 1 5 3 1 30 2 1 3 15 1 17 1 1 6 3
   3 1 4 3 2 1 1 1 2 3 2 3 3 3 12 22 1 52 8 1 3 1 23 1 16 3 1 26 3 2 1 2 2 30 1 4 8 1 3 1 23 1
   10 1 5 3 1 31 2 1 2 15 2 17 9 1 3 1 41 2 1 16 1 5 3 8 3 24 6 5 18 3 24 1 9 1 1 2 7 58 48 1 2
   12 7 58 2 1 1 1 5 1 24 1 1 1 10 1 2 9 1 2 5 1 1 21 4 32 1 63 8 1 36 27 5 115 43 20 1 16 6 4
   4 3 1 3 2 7 3 4 13 12 1 17 38 1 1 5 1 2 43 1 333 1 4 2 7 1 1 1 4 2 41 1 4 2 33 1 4 2 7 1 1 1
   4 2 15 1 57 1 4 2 67 37 16 16 86 2 6 3 620 2 17 1 26 5 75 6 8 7 18 13 19 14 18 14 13 1 3 15
   52 35 1 4 1 67 89 7 5 2 34 1 1 5 70 10 31 49 30 2 5 11 44 4 26 54 23 9 53 82 1 93 47 17 8 54
   30 13 2 10 44 26 36 41 3 10 36 2 9 7 43 2 3 41 4 1 6 1 2 3 1 5 192 64 278 2 6 2 38 2 6 2 8 1
   1 1 1 1 1 1 31 2 53 1 7 1 1 3 3 1 7 3 4 2 6 4 13 5 3 1 7 116 1 13 1 16 13 101 1 4 1 2 10 1 1
   3 5 6 1 1 1 1 1 1 4 1 11 2 4 5 5 4 1 52 2 2683 229 6 4 3 2 12 38 1 1 5 1 2 56 7 1 16 23 9 7
   1 7 1 7 1 7 1 7 1 7 1 7 1 7 80 1 469 2 42 5 5 2 4 86 6 3 1 90 1 4 5 43 1 94 17 32 48 16 512
   6592 64 22157 67 46 2 269 3 16 10 2 20 47 16 31 2 70 49 9 2 103 2 64 5 2 1 1 1 5 24 16 1 3 1
   4 1 23 29 52 14 50 62 6 3 1 1 2 11 28 10 23 25 29 7 47 28 1 16 5 1 10 10 5 1 41 23 3 1 8 20
   23 3 1 3 50 1 1 3 2 2 5 2 1 1 1 24 3 2 11 7 3 12 6 2 6 2 6 9 7 1 7 1 43 1 14 6 115 29 11172
   12 23 4 49 8452 366 2 106 38 7 12 5 5 1 1 10 1 13 1 5 1 1 1 2 1 2 1 108 33 363 18 64 2 54 40
   12 116 5 1 135 36 26 6 26 11 89 3 6 2 6 2 6 2 3 35 12 1 26 1 19 1 2 1 15 2 14 34 123 389 29
   3 49 47 32 13 20 1 8 6 38 10 30 2 36 4 8 48 158 18 36 4 36 4 40 8 52 12 11 1 15 1 7 1 2 1 11
   1 15 1 7 1 2 67 311 9 22 10 8 24 6 1 42 1 9 69 6 2 1 1 44 1 2 3 1 2 23 10 23 9 31 65 19 1 2
   10 22 10 26 70 56 6 2 64 1 15 4 1 3 1 29 42 29 3 29 35 8 1 28 27 54 10 22 10 19 13 18 110 73
   55 51 13 51 13 36 348 42 6 2 78 29 10 1 8 22 42 18 46 21 27 23 12 53 57 2 2 1 13 45 32 25 26
   36 29 1 2 1 8 35 3 1 12 48 14 4 21 1 1 1 35 18 1 25 84 7 1 1 1 4 1 15 1 10 7 47 38 8 2 2 2
   22 1 7 1 2 1 5 3 1 18 1 12 5 158 53 18 4 20 3 30 48 20 2 1 1 184 47 41 4 36 48 20 1 59 43 13
   1 71 27 37 7 185 44 116 64 31 8 2 1 2 8 1 2 1 24 15 1 1 1 94 8 2 39 16 1 1 1 28 1 10 40 7 1
   21 1 11 46 19 1 18 73 263 9 1 37 17 1 49 30 112 7 1 2 1 38 21 1 25 6 1 2 1 32 14 1 327 19
   189 1 79 922 230 196 2636 97 15 1071 4049 583 8633 569 7 31 17 79 17 30 18 48 16 4 31 21 5
   19 688 64 128 75 5 1 66 13 64 2 1 1 28 6136 8 1238 42 9 8935 4 1 7 1 2 1 291 45 3 17 4 8 396
   2308 107 5 13 3 9 7 10 5990 85 1 71 1 2 2 1 2 2 2 4 1 12 1 1 1 7 1 65 1 4 2 8 1 7 1 28 1 4 1
   5 1 1 3 7 1 340 2 25 1 25 1 31 1 25 1 31 1 25 1 31 1 25 1 31 1 25 1 8 1844 31 481 45 10 7 16
   1 321 30 18 44 1268 7 1 4 1 2 1 15 1 197 59 68 7 1 1204 4 1 27 1 2 1 1 2 1 1 10 1 4 1 1 1 1
   6 1 4 1 1 1 1 1 1 3 1 2 1 1 2 1 1 1 1 1 1 1 1 1 1 2 1 1 2 4 1 7 1 4 1 4 1 1 1 10 1 17 5 3 1
   5 1 17 4420 42720 32 4153 7 222 2 5762 14 7473 3103 542 1506 4939"

/-- The decimal digits of all scripts beyond ASCII. Each script has ten in a row, from zero to nine.
-/
def decimalDigit : CodeRanges := .ofGaps
  "1632 10 134 10 198 10 412 10 118 10 118 10 118 10 118 10 118 10 118 10 118 10 118 10 118 10
   96 10 118 10 70 10 278 10 70 10 1862 10 38 10 300 10 128 10 166 10 6 10 182 10 86 10 134 10
   6 10 35270 10 678 10 38 10 198 10 22 10 86 10 406 10 21270 10 1414 10 2182 10 812 10 128 10
   60 10 144 10 278 10 342 10 118 10 374 10 102 10 102 10 422 10 102 10 758 10 246 10 70 10
   19638 10 86 10 134 10 27764 50 2368 10 422 10 1622 10 4758 10"

/-- The decimal digits beyond ASCII together with the signs that stand for one digit, such as
superscripts and circled digits. -/
def digitSymbol : CodeRanges := .ofGaps
  "178 2 5 1 1446 10 134 10 198 10 412 10 118 10 118 10 118 10 118 10 118 10 118 10 118 10 118
   10 118 10 96 10 118 10 70 10 278 10 70 10 719 9 1134 10 38 10 300 10 128 11 165 10 6 10 182
   10 86 10 134 10 6 10 1046 1 3 6 6 10 982 9 11 9 11 9 89 1 10 9 1 1 630 9 1 9 1 9 32397 10
   678 10 38 10 198 10 22 10 86 10 406 10 21270 10 1414 10 1430 4 748 10 294 9 489 9 11 10 128
   10 60 10 144 10 278 10 342 10 118 10 374 10 102 10 102 10 422 10 102 10 758 10 246 10 70 10
   19638 10 86 10 134 10 27764 50 2368 10 422 10 1622 10 1958 11 2789 10"

/-- The characters beyond ASCII that are written as they are when a text is quoted: not controls,
separators, private or unassigned ones. -/
def printable : CodeRanges := .ofGaps
  "161 12 1 714 2 6 4 7 1 1 1 20 1 397 1 38 2 50 2 3 1 55 8 27 4 6 17 22 1 192 1 48 2 59 2 101
   14 59 2 49 2 15 1 28 2 1 1 11 5 31 9 74 1 161 1 8 2 2 2 22 1 7 1 1 3 4 2 9 2 2 2 4 8 1 4 2 1
   5 2 25 2 3 1 6 4 2 2 22 1 7 1 2 1 2 1 2 2 1 1 5 4 2 2 3 3 1 7 4 1 1 7 17 10 3 1 9 1 3 1 22 1
   7 1 2 1 5 2 10 1 3 1 3 2 1 15 4 2 12 7 7 1 3 1 8 2 2 2 22 1 7 1 2 1 5 2 9 2 2 2 3 7 3 4 2 1
   5 2 18 10 2 1 6 3 3 1 4 3 2 1 1 1 2 3 2 3 3 3 12 4 5 3 3 1 4 2 1 6 1 14 21 5 13 1 3 1 23 1
   16 2 9 1 3 1 4 7 2 1 3 2 1 2 4 2 10 7 22 1 3 1 23 1 10 1 5 2 9 1 3 1 4 7 2 6 2 1 4 2 10 1 2
   13 13 1 3 1 51 1 3 1 6 4 16 2 26 1 3 1 18 3 24 1 9 1 1 2 7 3 1 4 6 1 1 1 8 6 10 2 3 12 58 4
   29 37 2 1 1 1 5 1 24 1 1 1 23 2 5 1 1 1 6 2 10 2 4 32 72 1 36 4 39 1 36 1 15 1 13 37 198 1 1
   5 1 2 377 1 4 2 7 1 1 1 4 2 41 1 4 2 33 1 4 2 7 1 1 1 4 2 15 1 57 1 4 2 67 2 32 3 26 6 86 2
   6 2 640 1 28 3 89 7 22 9 24 9 20 12 13 1 3 1 2 12 94 2 10 6 10 6 14 1 11 6 89 7 43 5 70 10
   31 1 12 4 12 4 1 3 42 2 5 11 44 4 26 6 11 3 62 2 65 1 29 2 11 6 10 6 14 2 31 49 77 3 47 1
   116 8 60 3 15 3 60 7 43 2 11 8 43 5 534 2 6 2 38 2 6 2 8 1 1 1 1 1 1 1 31 2 53 1 15 1 14 2 6
   1 19 2 3 1 9 17 24 8 47 17 2 2 27 1 13 3 33 15 33 15 140 4 663 25 11 21 1812 2 32 1 349 5 45
   1 1 5 1 2 56 7 2 14 24 9 7 1 7 1 7 1 7 1 7 1 7 1 7 1 7 1 126 34 26 1 89 12 214 26 12 5 63 1
   86 2 103 5 43 1 94 1 84 12 47 1 29293 3 55 9 348 20 184 8 203 5 2 1 1 1 5 24 59 3 10 6 56 8
   70 8 12 6 116 11 30 3 78 1 11 4 33 1 55 9 14 2 10 2 103 24 28 10 6 2 6 2 6 9 7 1 7 1 60 4
   126 2 10 6 11172 12 23 4 49 8452 366 2 106 38 7 12 5 5 26 1 5 1 1 1 2 1 2 1 125 16 445 2 54
   7 1 32 42 6 51 1 19 1 4 4 5 1 135 4 190 3 6 2 6 2 6 2 3 3 7 1 7 13 2 2 12 1 26 1 19 1 2 1 15
   2 14 34 123 5 3 4 45 3 88 1 13 3 1 47 46 130 29 3 49 15 28 4 36 9 30 5 43 5 30 1 37 4 14 42
   158 2 10 6 36 4 36 4 40 8 52 11 12 1 15 1 7 1 2 1 11 1 15 1 7 1 2 67 311 9 22 10 8 24 6 1 42
   1 9 69 6 2 1 1 44 1 2 3 1 2 23 1 72 8 9 48 19 1 2 5 33 3 27 5 1 64 56 4 20 2 50 1 2 5 8 1 3
   1 29 2 3 4 10 7 9 7 64 32 39 4 12 9 54 3 29 2 27 5 26 7 4 12 7 80 73 55 51 13 51 7 46 8 10
   294 31 1 42 1 3 2 2 78 40 8 42 22 26 38 28 20 23 9 78 4 36 9 62 1 5 13 25 7 10 6 53 1 18 8
   39 9 96 1 20 11 18 1 44 65 7 1 1 1 4 1 15 1 11 6 59 5 10 6 4 1 8 2 2 2 22 1 7 1 2 1 5 1 10 2
   2 2 3 2 1 6 1 5 7 2 7 3 5 139 92 1 5 30 72 8 10 166 54 2 38 34 69 11 10 6 13 19 58 6 10 54
   27 2 15 4 23 185 60 100 83 12 8 2 1 2 8 1 2 1 30 1 2 2 12 9 10 70 8 2 46 2 11 27 72 8 83 13
   73 263 9 1 45 1 14 10 29 3 32 2 22 1 14 73 7 1 2 1 44 3 1 1 2 1 9 8 10 6 6 1 2 1 37 1 2 1 6
   7 10 310 25 183 1 15 50 13 923 102 111 1 5 11 196 2636 99 13 1071 4049 583 8633 569 7 31 1
   10 4 81 1 10 6 30 2 6 10 70 10 10 1 7 1 21 5 19 688 91 101 75 4 57 7 17 64 5 11 2 14 6136 8
   1238 42 9 8935 4 1 7 1 2 1 291 45 3 17 4 8 396 2308 107 5 13 3 9 7 10 2 4 4704 46 2 23 9 116
   60 246 10 39 2 74 8 112 21 70 154 20 12 87 9 25 135 85 1 71 1 2 2 1 2 2 2 4 1 12 1 1 1 7 1
   65 1 4 2 8 1 7 1 28 1 4 1 5 1 1 3 7 1 340 2 292 2 702 15 5 1 15 1104 31 225 7 1 17 2 7 1 2 1
   5 213 45 3 14 2 10 4 2 320 31 17 58 5 1 1248 7 1 4 1 2 1 15 1 197 2 16 41 76 4 10 4 2 785 68
   76 61 194 4 1 27 1 2 1 1 2 1 1 10 1 4 1 1 1 1 6 1 4 1 1 1 1 1 1 3 1 2 1 1 2 1 1 1 1 1 1 1 1
   1 1 2 1 1 2 4 1 7 1 4 1 4 1 1 1 10 1 17 5 3 1 5 1 17 52 2 270 44 4 100 12 15 2 15 1 15 1 37
   10 174 56 29 13 44 4 9 7 2 14 6 154 984 5 16 3 13 3 116 12 89 7 12 4 1 15 12 4 56 8 10 6 40
   8 30 2 2 78 340 12 14 2 5 3 5 3 7 9 29 3 11 5 6 10 10 6 8 8 7 9 147 1 55 37 10 1030 42720 32
   4153 7 222 2 5762 14 7473 3103 542 1506 4939 716213 240"

/-- The characters beyond ASCII that can open an identifier. -/
def identifierStart : CodeRanges := .ofGaps
  "170 1 10 1 4 1 5 23 1 31 1 458 4 12 14 5 7 1 1 1 129 5 1 2 3 3 1 1 6 1 1 3 1 1 1 20 1 83 1
   139 8 166 1 38 2 1 6 41 71 27 4 4 45 43 35 2 1 99 1 1 15 2 7 2 10 3 2 1 16 1 1 30 29 89 11 1
   24 33 9 2 4 1 5 22 4 1 9 1 3 1 23 25 7 11 5 24 1 6 17 42 58 54 3 1 18 1 7 10 15 16 4 8 2 2 2
   22 1 7 1 1 3 4 3 1 16 1 13 2 1 3 14 2 10 1 8 6 4 2 2 22 1 7 1 2 1 2 1 2 31 4 1 1 19 3 16 9 1
   3 1 22 1 7 1 2 1 5 3 1 18 1 15 2 23 1 11 8 2 2 2 22 1 7 1 2 1 5 3 1 30 2 1 3 15 1 17 1 1 6 3
   3 1 4 3 2 1 1 1 2 3 2 3 3 3 12 22 1 52 8 1 3 1 23 1 16 3 1 26 3 2 1 2 2 30 1 4 8 1 3 1 23 1
   10 1 5 3 1 31 2 1 2 15 2 17 9 1 3 1 41 2 1 16 1 5 3 8 3 24 6 5 18 3 24 1 9 1 1 2 7 58 48 1 1
   13 7 58 2 1 1 1 5 1 24 1 1 1 10 1 1 10 1 2 5 1 1 21 4 32 1 63 8 1 36 27 5 115 43 20 1 16 6 4
   4 3 1 3 2 7 3 4 13 12 1 17 38 1 1 5 1 2 43 1 333 1 4 2 7 1 1 1 4 2 41 1 4 2 33 1 4 2 7 1 1 1
   4 2 15 1 57 1 4 2 67 37 16 16 86 2 6 3 620 2 17 1 26 5 75 3 11 7 18 13 19 14 18 14 13 1 3 15
   52 35 1 4 1 67 89 7 41 1 1 5 70 10 31 49 30 2 5 11 44 4 26 54 23 9 53 82 1 93 47 17 8 54 30
   13 2 10 44 26 36 41 3 10 36 2 9 7 43 2 3 41 4 1 6 1 2 3 1 5 192 64 278 2 6 2 38 2 6 2 8 1 1
   1 1 1 1 1 31 2 53 1 7 1 1 3 3 1 7 3 4 2 6 4 13 5 3 1 7 116 1 13 1 16 13 101 1 4 1 2 10 1 1 2
   6 6 1 1 1 1 1 1 16 2 4 5 5 4 1 17 41 2679 229 6 4 3 2 12 38 1 1 5 1 2 56 7 1 16 23 9 7 1 7 1
   7 1 7 1 7 1 7 1 7 1 7 550 3 25 9 7 5 2 5 4 86 6 3 1 90 1 4 5 43 1 94 17 32 48 16 512 6592 64
   22157 67 46 2 269 3 16 10 2 20 47 16 31 2 80 39 9 2 103 2 64 5 2 1 1 1 5 24 16 1 3 1 4 1 23
   29 52 14 50 62 6 3 1 1 2 11 28 10 23 25 29 7 47 28 1 16 5 1 10 10 5 1 41 23 3 1 8 20 23 3 1
   3 50 1 1 3 2 2 5 2 1 1 1 24 3 2 11 7 3 12 6 2 6 2 6 9 7 1 7 1 43 1 14 6 115 29 11172 12 23 4
   49 8452 366 2 106 38 7 12 5 5 1 1 10 1 13 1 5 1 1 1 2 1 2 1 108 33 139 6 218 18 64 2 54 40
   10 119 1 1 1 3 1 1 1 1 1 1 1 1 126 36 26 6 26 11 56 2 31 3 6 2 6 2 6 2 3 35 12 1 26 1 19 1 2
   1 15 2 14 34 123 69 53 267 29 3 49 47 32 13 30 5 38 10 30 2 36 4 8 1 5 42 158 18 36 4 36 4
   40 8 52 12 11 1 15 1 7 1 2 1 11 1 15 1 7 1 2 67 311 9 22 10 8 24 6 1 42 1 9 69 6 2 1 1 44 1
   2 3 1 2 23 10 23 9 31 65 19 1 2 10 22 10 26 70 56 6 2 64 1 15 4 1 3 1 29 42 29 3 29 35 8 1
   28 27 54 10 22 10 19 13 18 110 73 55 51 13 51 13 36 348 42 6 2 78 29 10 1 8 22 42 18 46 21
   27 23 12 53 57 2 2 1 13 45 32 25 26 36 29 1 2 1 8 35 3 1 12 48 14 4 21 1 1 1 35 18 1 25 84 7
   1 1 1 4 1 15 1 10 7 47 38 8 2 2 2 22 1 7 1 2 1 5 3 1 18 1 12 5 158 53 18 4 20 3 30 48 20 2 1
   1 184 47 41 4 36 48 20 1 59 43 13 1 71 27 37 7 185 44 116 64 31 8 2 1 2 8 1 2 1 24 15 1 1 1
   94 8 2 39 16 1 1 1 28 1 10 40 7 1 21 1 11 46 19 1 18 73 263 9 1 37 17 1 49 30 112 7 1 2 1 38
   21 1 25 6 1 2 1 32 14 1 327 19 189 1 79 922 102 111 17 196 2636 97 15 1071 4049 583 8633 569
   7 31 17 79 17 30 18 48 16 4 31 21 5 19 688 64 128 75 5 1 66 13 64 2 1 1 28 6136 8 1238 42 9
   8935 4 1 7 1 2 1 291 45 3 17 4 8 396 2308 107 5 13 3 9 7 10 5990 85 1 71 1 2 2 1 2 2 2 4 1
   12 1 1 1 7 1 65 1 4 2 8 1 7 1 28 1 4 1 5 1 1 3 7 1 340 2 25 1 25 1 31 1 25 1 31 1 25 1 31 1
   25 1 31 1 25 1 8 1844 31 481 45 10 7 16 1 321 30 18 44 1268 7 1 4 1 2 1 15 1 197 59 68 7 1
   1204 4 1 27 1 2 1 1 2 1 1 10 1 4 1 1 1 1 6 1 4 1 1 1 1 1 1 3 1 2 1 1 2 1 1 1 1 1 1 1 1 1 1 2
   1 1 2 4 1 7 1 4 1 4 1 1 1 10 1 17 5 3 1 5 1 17 4420 42720 32 4153 7 222 2 5762 14 7473 3103
   542 1506 4939"

/-- The characters beyond ASCII that can stand inside an identifier. -/
def identifierPart : CodeRanges := .ofGaps
  "170 1 10 1 1 1 2 1 5 23 1 31 1 458 4 12 14 5 7 1 1 1 17 117 1 2 3 3 1 1 6 5 1 1 1 20 1 83 1
   139 1 5 2 166 1 38 2 1 6 41 8 45 1 1 1 2 1 2 1 1 8 27 4 4 29 11 5 74 4 102 1 8 2 10 1 19 2 1
   16 59 2 101 14 54 4 1 2 1 2 46 18 28 4 11 5 24 1 6 9 74 1 129 2 10 1 19 1 8 2 2 2 22 1 7 1 1
   3 4 2 9 2 2 2 4 8 1 4 2 1 5 2 12 10 1 1 1 2 3 1 6 4 2 2 22 1 7 1 2 1 2 1 2 2 1 1 5 4 2 2 3 3
   1 7 4 1 1 7 16 11 3 1 9 1 3 1 22 1 7 1 2 1 5 2 10 1 3 1 3 2 1 15 4 2 10 9 7 1 3 1 8 2 2 2 22
   1 7 1 2 1 5 2 9 2 2 2 3 7 3 4 2 1 5 2 10 1 1 16 2 1 6 3 3 1 4 3 2 1 1 1 2 3 2 3 3 3 12 4 5 3
   3 1 4 2 1 6 1 14 10 16 13 1 3 1 23 1 16 2 9 1 3 1 4 7 2 1 3 2 1 2 4 2 10 16 4 1 8 1 3 1 23 1
   10 1 5 2 9 1 3 1 4 7 2 6 2 1 4 2 10 1 2 13 13 1 3 1 51 1 3 1 5 5 4 7 5 2 10 10 6 1 3 1 18 3
   24 1 9 1 1 2 7 3 1 4 6 1 1 1 8 6 10 2 2 13 58 5 15 1 10 39 2 1 1 1 5 1 24 1 1 1 23 2 5 1 1 1
   6 2 10 2 4 32 1 23 2 6 10 11 1 1 1 1 1 4 10 1 36 4 20 1 18 1 36 9 1 57 74 6 78 2 38 1 1 5 1
   2 43 1 333 1 4 2 7 1 1 1 4 2 41 1 4 2 33 1 4 2 7 1 1 1 4 2 15 1 57 1 4 2 67 2 3 9 9 14 16 16
   86 2 6 3 620 2 17 1 26 5 75 3 11 7 22 9 22 11 20 12 13 1 3 1 2 12 84 3 1 4 2 2 10 33 3 1 11
   6 89 7 43 5 70 10 31 1 12 4 12 10 40 2 5 11 44 4 26 6 11 37 28 4 63 1 29 2 11 6 10 13 1 8 14
   1 16 49 77 3 10 17 9 12 116 12 56 8 10 3 49 2 9 7 43 2 3 16 3 1 39 5 534 2 6 2 38 2 6 2 8 1
   1 1 1 1 1 1 31 2 53 1 7 1 1 3 3 1 7 3 4 2 6 4 13 5 3 1 7 66 2 19 1 28 1 13 1 16 13 51 13 4 1
   3 12 17 1 4 1 2 10 1 1 2 6 6 1 1 1 1 1 1 16 2 4 5 5 4 1 17 41 2679 229 6 9 12 38 1 1 5 1 2
   56 7 1 15 24 9 7 1 7 1 7 1 7 1 7 1 7 1 7 1 7 1 32 517 3 25 15 1 5 2 5 4 86 2 2 2 3 1 90 1 4
   5 43 1 94 17 32 48 16 512 6592 64 22157 67 46 2 269 3 28 20 48 4 10 1 115 37 9 2 103 2 64 5
   2 1 1 1 5 24 54 4 1 19 52 12 70 10 10 6 24 3 1 1 49 2 36 12 29 3 65 14 11 6 31 1 55 9 14 2
   10 6 23 3 73 24 3 2 16 2 5 10 6 2 6 2 6 9 7 1 7 1 43 1 14 6 123 1 2 2 10 6 11172 12 23 4 49
   8452 366 2 106 38 7 12 5 5 12 1 13 1 5 1 1 1 2 1 2 1 108 33 139 6 218 18 64 2 54 40 10 6 16
   16 16 3 2 24 3 33 1 1 1 3 1 1 1 1 1 1 1 1 126 19 10 7 26 4 1 1 26 11 89 3 6 2 6 2 6 2 3 35
   12 1 26 1 19 1 2 1 15 2 14 34 123 69 53 136 1 130 29 3 49 15 1 31 32 13 30 5 43 5 30 2 36 4
   8 1 5 42 158 2 10 6 36 4 36 4 40 8 52 12 11 1 15 1 7 1 2 1 11 1 15 1 7 1 2 67 311 9 22 10 8
   24 6 1 42 1 9 69 6 2 1 1 44 1 2 3 1 2 23 10 23 9 31 65 19 1 2 10 22 10 26 70 56 6 2 64 4 1 2
   5 8 1 3 1 29 2 3 4 1 32 29 3 29 35 8 1 30 25 54 10 22 10 19 13 18 110 73 55 51 13 51 13 40 8
   10 326 42 1 2 3 2 78 29 10 1 8 33 31 22 42 21 27 23 9 71 31 16 9 60 7 1 13 25 7 10 6 53 1 10
   4 4 8 36 2 1 9 69 4 4 1 13 1 1 35 18 1 37 6 1 65 7 1 1 1 4 1 15 1 10 7 59 5 10 6 4 1 8 2 2 2
   22 1 7 1 2 1 5 1 10 2 2 2 3 2 1 6 1 5 7 2 7 3 5 139 75 5 10 4 4 30 70 1 1 8 10 166 54 2 9 23
   6 34 65 3 1 11 10 38 57 7 10 54 27 2 15 4 10 6 7 185 59 101 74 21 8 2 1 2 8 1 2 1 30 1 2 2 9
   12 10 70 8 2 46 2 8 1 2 27 63 8 1 8 74 3 1 18 73 263 9 1 45 1 9 15 10 24 30 2 22 1 14 73 7 1
   2 1 44 3 1 1 2 1 9 8 10 6 6 1 2 1 37 1 2 1 6 7 10 310 23 185 1 79 922 102 111 17 196 2636 97
   15 1071 4049 583 8633 569 7 31 1 10 6 79 1 10 6 30 2 5 11 55 9 4 12 10 9 21 5 19 688 64 128
   75 4 57 7 17 64 2 1 2 11 2 14 6136 8 1238 42 9 8935 4 1 7 1 2 1 291 45 3 17 4 8 396 2308 107
   5 13 3 9 7 10 3 2 4705 46 2 23 542 5 3 6 8 8 2 7 30 4 148 3 443 85 1 71 1 2 2 1 2 2 2 4 1 12
   1 1 1 7 1 65 1 4 2 8 1 7 1 28 1 4 1 5 1 1 3 7 1 340 2 25 1 25 1 31 1 25 1 31 1 25 1 31 1 25
   1 31 1 25 1 8 2 50 512 55 4 50 8 1 14 1 22 5 1 15 1104 31 225 7 1 17 2 7 1 2 1 5 213 45 3 14
   2 10 4 1 321 31 17 58 1254 7 1 4 1 2 1 15 1 197 11 7 41 76 4 10 1190 4 1 27 1 2 1 1 2 1 1 10
   1 4 1 1 1 1 6 1 4 1 1 1 1 1 1 3 1 2 1 1 2 1 1 1 1 1 1 1 1 1 1 2 1 1 2 4 1 7 1 4 1 4 1 1 1 10
   1 17 5 3 1 5 1 17 3380 10 1030 42720 32 4153 7 222 2 5762 14 7473 3103 542 1506 4939 716213
   240"

/-! ## Classes -/

/-- A letter or a number of any script. -/
def isAlphanumeric (c : Char) : Bool :=
  if c.toNat < 128 then isAsciiLetter c || isAsciiDigit c else alphanumeric.contains c

/-- A letter of any script. -/
def isLetter (c : Char) : Bool :=
  if c.toNat < 128 then isAsciiLetter c else alphabetic.contains c

/-- A letter, a number or the low line. -/
def isWordChar (c : Char) : Bool := c == '_' || isAlphanumeric c

/-- A decimal digit of any script. -/
def isDecimal (c : Char) : Bool :=
  if c.toNat < 128 then isAsciiDigit c else decimalDigit.contains c

/-- A decimal digit, or a sign that stands for a digit. -/
def isDigit (c : Char) : Bool :=
  if c.toNat < 128 then isAsciiDigit c else digitSymbol.contains c

/-- The value of a decimal digit of any script: its distance from the zero of its script. The
digits of one range of the table are whole tens, so the distance from the start of the range
decides it. -/
def decimalDigit? (c : Char) : Option Nat :=
  if c.toNat < 128 then if isAsciiDigit c then some (c.toNat - '0'.toNat) else none
  else
    (decimalDigit.bounds.find? fun (first, last) => first ≤ c.toNat && c.toNat ≤ last).map
      fun (first, _) => (c.toNat - first) % 10

/-- A character that is written as it is when a text is quoted. -/
def isPrintable (c : Char) : Bool :=
  if c.toNat < 128 then 32 ≤ c.toNat && c.toNat < 127 else printable.contains c

/-- A character that can open an identifier. -/
def startsIdentifier (c : Char) : Bool :=
  if c.toNat < 128 then isAsciiLetter c || c == '_' else identifierStart.contains c

/-- A character that can stand inside an identifier. -/
def continuesIdentifier (c : Char) : Bool :=
  if c.toNat < 128 then isAsciiLetter c || isAsciiDigit c || c == '_'
  else identifierPart.contains c

/-- The text is an identifier. -/
def isIdentifier : Text → Bool
  | [] => false
  | c :: rest => startsIdentifier c && rest.all continuesIdentifier

end RouteAtlas.Text
