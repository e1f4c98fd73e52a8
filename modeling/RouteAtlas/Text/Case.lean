import RouteAtlas.Text.Basic
import RouteAtlas.Text.CodeRanges

/-!
# Upper and lower case

Two kinds of case mapping. The *simple* one sends a character to one character and is what
case-insensitive pattern matching compares. The *full* one is for texts: it may lengthen them
(`ß` in upper case is `SS`), and the capital sigma has two small forms, of which the final one
stands at the end of a word.

The simple mapping is kept as runs of characters that all move by the same distance. ASCII has
its own branch, so that nothing about it depends on a table.
-/

namespace RouteAtlas.Text

/-! ## Runs -/

/-- Characters `first`, `first + stride`, … (`count` of them), each mapped `shift` further. -/
structure CaseRun where
  first : Nat
  count : Nat
  stride : Nat
  shift : Int

/-- Reads runs from rows of four numbers: the distance from the run before, then the other three
fields. -/
def caseRunsFrom : Nat → List Int → List CaseRun
  | start, gap :: count :: stride :: shift :: rest =>
    let first := start + gap.toNat
    ⟨first, count.toNat, stride.toNat, shift⟩ :: caseRunsFrom first rest
  | _, _ => []

/-- The runs that a text lists. -/
def caseRuns (rows : String) : Array CaseRun := (caseRunsFrom 0 (numbersIn rows)).toArray

/-- The last of the runs numbered below `high` and from `low` on that starts at or before
`code`. -/
def lastRunFrom (runs : Array CaseRun) (code low high : Nat) : Option CaseRun :=
  if _h : low + 1 < high then
    let middle := (low + high) / 2
    match runs[middle]? with
    | none => none
    | some run =>
      if run.first ≤ code then lastRunFrom runs code middle high
      else lastRunFrom runs code low middle
  else runs[low]?
termination_by high - low

/-- Moves a character by the run it belongs to, if there is one. -/
def mapByRuns (runs : Array CaseRun) (c : Char) : Char :=
  match lastRunFrom runs c.toNat 0 runs.size with
  | none => c
  | some run =>
    if run.first ≤ c.toNat && (c.toNat - run.first) % run.stride == 0
        && (c.toNat - run.first) / run.stride < run.count then
      Char.ofNat ((c.toNat : Int) + run.shift).toNat
    else c

/-! ## Tables -/

/-- The simple mapping to lower case beyond ASCII. -/
def lowerRuns : Array CaseRun := caseRuns
  "192 23 1 32 24 7 1 32 40 24 2 1 48 1 1 -199 2 3 2 1 7 8 2 1 17 23 2 1 46 1 1 -121 1 3 2 1 8
   1 1 210 1 2 2 1 4 1 1 206 1 1 1 1 2 2 1 205 2 1 1 1 3 1 1 79 1 1 1 202 1 1 1 203 1 1 1 1 2 1
   1 205 1 1 1 207 2 1 1 211 1 1 1 209 1 1 1 1 4 1 1 211 1 1 1 213 2 1 1 214 1 3 2 1 6 1 1 218
   1 1 1 1 2 1 1 218 3 1 1 1 2 1 1 218 1 1 1 1 2 2 1 217 2 2 2 1 4 1 1 219 1 1 1 1 4 1 1 1 8 1
   1 2 1 1 1 1 2 1 1 2 1 1 1 1 2 1 1 2 1 9 2 1 19 9 2 1 19 1 1 2 1 2 2 1 4 1 1 -97 1 1 1 -56 1
   20 2 1 40 1 1 -130 2 9 2 1 24 1 1 10795 1 1 1 1 2 1 1 -163 1 1 1 10792 3 1 1 1 2 1 1 -195 1
   1 1 69 1 1 1 71 1 5 2 1 298 2 2 1 6 1 1 1 9 1 1 116 7 1 1 38 2 3 1 37 4 1 1 64 2 2 1 63 3 17
   1 32 18 9 1 32 44 1 1 8 9 12 2 1 28 1 1 -60 3 1 1 1 2 1 1 -7 1 1 1 1 3 3 1 -130 3 16 1 80 16
   32 1 32 80 17 2 1 42 27 2 1 54 1 1 15 1 7 2 1 15 48 2 1 97 38 1 48 2927 38 1 7264 39 1 1
   7264 6 1 1 7264 723 80 1 38864 80 6 1 8 2208 43 1 -3008 45 3 1 -3008 323 75 2 1 158 1 1
   -7615 2 48 2 1 104 8 1 -8 16 6 1 -8 16 8 1 -8 16 8 1 -8 16 6 1 -8 17 4 2 -8 15 8 1 -8 32 8 1
   -8 16 8 1 -8 16 8 1 -8 16 2 1 -8 2 2 1 -74 2 1 1 -9 12 4 1 -86 4 1 1 -9 12 2 1 -8 2 2 1 -100
   14 2 1 -8 2 2 1 -112 2 1 1 -7 12 2 1 -128 2 2 1 -126 2 1 1 -9 298 1 1 -7517 4 1 1 -8383 1 1
   1 -8262 7 1 1 28 46 16 1 16 35 1 1 1 819 26 1 26 1866 48 1 48 96 1 1 1 2 1 1 -10743 1 1 1
   -3814 1 1 1 -10727 3 3 2 1 6 1 1 -10780 1 1 1 -10749 1 1 1 -10783 1 1 1 -10782 2 1 1 1 3 1 1
   1 9 2 1 -10815 2 50 2 1 107 2 2 1 7 1 1 1 31054 23 2 1 64 14 2 1 162 7 2 1 16 31 2 1 71 2 2
   1 4 1 1 -35332 1 5 2 1 13 1 1 1 2 1 1 -42280 3 2 2 1 6 10 2 1 20 1 1 -42308 1 1 1 -42319 1 1
   1 -42315 1 1 1 -42305 1 1 1 -42308 2 1 1 -42258 1 1 1 -42282 1 1 1 -42261 1 1 1 928 1 8 2 1
   16 1 1 -48 1 1 1 -42307 1 1 1 -35384 1 2 2 1 9 1 1 1 6 2 2 1 31 1 1 1 22316 26 1 32 1247 40
   1 40 176 36 1 40 192 11 1 39 12 15 1 39 16 7 1 39 8 2 1 39 1772 51 1 64 3104 32 1 32 21920
   32 1 32 31424 34 1 34"

/-- The simple mapping to upper case beyond ASCII. -/
def upperRuns : Array CaseRun := caseRuns
  "181 1 1 743 43 23 1 -32 24 7 1 -32 7 1 1 121 2 24 2 -1 48 1 1 -232 2 3 2 -1 7 8 2 -1 17 23 2
   -1 47 3 2 -1 5 1 1 -300 1 1 1 195 3 2 2 -1 5 1 1 -1 4 1 1 -1 6 1 1 -1 3 1 1 97 4 1 1 -1 1 1
   1 163 4 1 1 130 3 3 2 -1 7 1 1 -1 5 1 1 -1 3 1 1 -1 4 2 2 -1 5 1 1 -1 4 1 1 -1 2 1 1 56 6 1
   1 -1 1 1 1 -2 2 1 1 -1 1 1 1 -2 2 1 1 -1 1 1 1 -2 2 8 2 -1 15 1 1 -79 2 9 2 -1 19 1 1 -1 1 1
   1 -2 2 1 1 -1 4 20 2 -1 42 9 2 -1 25 1 1 -1 3 2 1 10815 3 1 1 -1 5 5 2 -1 9 1 1 10783 1 1 1
   10780 1 1 1 10782 1 1 1 -210 1 1 1 -206 2 2 1 -205 3 1 1 -202 2 1 1 -203 1 1 1 42319 4 1 1
   -205 1 1 1 42315 2 1 1 -207 2 1 1 42280 1 1 1 42308 2 1 1 -209 1 1 1 -211 1 1 1 42308 1 1 1
   10743 1 1 1 42305 3 1 1 -211 2 1 1 10749 1 1 1 -213 3 1 1 -214 8 1 1 10727 3 1 1 -218 2 1 1
   42307 1 1 1 -218 4 1 1 42282 1 1 1 -218 1 1 1 -69 1 2 1 -217 2 1 1 -71 6 1 1 -219 11 1 1
   42261 1 1 1 42258 167 1 1 84 44 2 2 -1 6 1 1 -1 4 3 1 130 49 1 1 -38 1 3 1 -37 4 17 1 -32 17
   1 1 -31 1 9 1 -32 9 1 1 -64 1 2 1 -63 3 1 1 -62 1 1 1 -57 4 1 1 -47 1 1 1 -54 1 1 1 -8 2 12
   2 -1 23 1 1 -86 1 1 1 -80 1 1 1 7 1 1 1 -116 2 1 1 -96 3 1 1 -1 3 1 1 -1 53 32 1 -32 32 16 1
   -80 17 17 2 -1 42 27 2 -1 55 7 2 -1 13 1 1 -15 2 48 2 -1 144 38 1 -48 2927 43 1 3008 45 3 1
   3008 763 6 1 -8 2184 1 1 -6254 1 1 1 -6253 1 1 1 -6244 1 2 1 -6242 2 1 1 -6243 1 1 1 -6236 1
   1 1 -6181 1 1 1 35266 241 1 1 35332 4 1 1 3814 17 1 1 35384 115 75 2 -1 154 1 1 -59 6 48 2
   -1 95 8 1 8 16 6 1 8 16 8 1 8 16 8 1 8 16 6 1 8 17 4 2 8 15 8 1 8 16 2 1 74 2 4 1 86 4 2 1
   100 2 2 1 128 2 2 1 112 2 2 1 126 4 8 1 8 16 8 1 8 16 8 1 8 16 2 1 8 3 1 1 9 11 1 1 -7205 5
   1 1 9 13 2 1 8 16 2 1 8 5 1 1 7 14 1 1 9 347 1 1 -28 34 16 1 -16 20 1 1 -1 844 26 1 -26 1888
   48 1 -48 49 1 1 -1 4 1 1 -10795 1 1 1 -10792 2 3 2 -1 11 1 1 -1 3 1 1 -1 11 50 2 -1 107 2 2
   -1 7 1 1 -1 13 38 1 -7264 39 1 1 -7264 6 1 1 -7264 30996 23 2 -1 64 14 2 -1 162 7 2 -1 16 31
   2 -1 71 2 2 -1 5 5 2 -1 13 1 1 -1 5 2 2 -1 3 1 1 48 3 10 2 -1 30 8 2 -1 19 2 2 -1 9 1 1 -1 6
   2 2 -1 31 1 1 -1 861 1 1 -928 29 80 1 -38864 21457 26 1 -32 1255 40 1 -40 176 36 1 -40 191
   11 1 -39 12 15 1 -39 16 7 1 -39 8 2 1 -39 1797 51 1 -64 3072 32 1 -32 21920 32 1 -32 31426
   34 1 -34"

/-- The characters whose upper case is more than one character: code point, how many, which. -/
def longUpperCodes : String :=
  "223 2 83 83 329 2 700 78 496 2 74 780 912 3 921 776 769 944 3 933 776 769 1415 2 1333 1362
   7830 2 72 817 7831 2 84 776 7832 2 87 778 7833 2 89 778 7834 2 65 702 8016 2 933 787 8018 3
   933 787 768 8020 3 933 787 769 8022 3 933 787 834 8064 2 7944 921 8065 2 7945 921 8066 2
   7946 921 8067 2 7947 921 8068 2 7948 921 8069 2 7949 921 8070 2 7950 921 8071 2 7951 921
   8072 2 7944 921 8073 2 7945 921 8074 2 7946 921 8075 2 7947 921 8076 2 7948 921 8077 2 7949
   921 8078 2 7950 921 8079 2 7951 921 8080 2 7976 921 8081 2 7977 921 8082 2 7978 921 8083 2
   7979 921 8084 2 7980 921 8085 2 7981 921 8086 2 7982 921 8087 2 7983 921 8088 2 7976 921
   8089 2 7977 921 8090 2 7978 921 8091 2 7979 921 8092 2 7980 921 8093 2 7981 921 8094 2 7982
   921 8095 2 7983 921 8096 2 8040 921 8097 2 8041 921 8098 2 8042 921 8099 2 8043 921 8100 2
   8044 921 8101 2 8045 921 8102 2 8046 921 8103 2 8047 921 8104 2 8040 921 8105 2 8041 921
   8106 2 8042 921 8107 2 8043 921 8108 2 8044 921 8109 2 8045 921 8110 2 8046 921 8111 2 8047
   921 8114 2 8122 921 8115 2 913 921 8116 2 902 921 8118 2 913 834 8119 3 913 834 921 8124 2
   913 921 8130 2 8138 921 8131 2 919 921 8132 2 905 921 8134 2 919 834 8135 3 919 834 921 8140
   2 919 921 8146 3 921 776 768 8147 3 921 776 769 8150 2 921 834 8151 3 921 776 834 8162 3 933
   776 768 8163 3 933 776 769 8164 2 929 787 8166 2 933 834 8167 3 933 776 834 8178 2 8186 921
   8179 2 937 921 8180 2 911 921 8182 2 937 834 8183 3 937 834 921 8188 2 937 921 64256 2 70 70
   64257 2 70 73 64258 2 70 76 64259 3 70 70 73 64260 3 70 70 76 64261 2 83 84 64262 2 83 84
   64275 2 1348 1350 64276 2 1348 1333 64277 2 1348 1339 64278 2 1358 1350 64279 2 1348 1341"

/-- Reads rows of a code point, a count and as many code points. The count of characters still to
read for the current row is `pending`. -/
def longRowsFrom : List Int → Option (Nat × Text) → Nat → List (Nat × Text)
  | code :: count :: rest, none, _ => longRowsFrom rest (some (code.toNat, [])) count.toNat
  | next :: rest, some (code, spelled), pending + 1 =>
    let spelled := spelled ++ [Char.ofNat next.toNat]
    if pending = 0 then (code, spelled) :: longRowsFrom rest none 0
    else longRowsFrom rest (some (code, spelled)) pending
  | _, _, _ => []

/-- The characters whose upper case is more than one character, with it. -/
def longUpper : List (Nat × Text) := longRowsFrom (numbersIn longUpperCodes) none 0

/-! ## Single characters -/

/-- The one-character lower case of a character. -/
def lowerChar (c : Char) : Char :=
  if c.toNat < 128 then
    if 'A' ≤ c && c ≤ 'Z' then Char.ofNat (c.toNat + 32) else c
  else mapByRuns lowerRuns c

/-- The one-character upper case of a character. -/
def upperChar (c : Char) : Char :=
  if c.toNat < 128 then
    if 'a' ≤ c && c ≤ 'z' then Char.ofNat (c.toNat - 32) else c
  else mapByRuns upperRuns c

/-! ## The final sigma -/

/-- Characters beyond ASCII that are looked through when the surroundings of a sigma are judged:
marks, modifiers and some punctuation. -/
def caseIgnorable : CodeRanges := .ofGaps
  "168 1 4 1 1 1 4 1 2 2 503 192 4 2 4 1 9 2 1 1 251 7 207 1 5 1 49 45 1 1 1 2 1 2 1 1 44 1 11
   6 10 11 1 1 35 1 10 21 16 1 101 8 1 10 1 4 33 1 1 1 30 27 91 11 58 11 4 1 2 1 24 24 43 3 44
   1 7 2 6 8 41 58 55 1 1 1 4 8 4 1 3 7 10 2 13 1 15 1 58 1 4 4 8 1 20 2 26 1 2 2 57 1 4 2 4 2
   2 3 3 1 30 2 3 1 11 2 57 1 4 5 1 2 4 1 20 2 22 6 1 1 58 1 2 1 1 4 8 1 7 2 11 2 30 1 61 1 12
   1 50 1 3 1 55 1 1 3 5 3 1 4 7 2 11 2 29 1 58 1 2 1 6 1 5 2 20 2 28 2 57 2 4 4 8 1 20 2 29 1
   72 1 7 3 1 1 90 1 2 7 11 9 98 1 2 9 9 1 1 6 74 2 27 1 1 1 1 1 55 14 1 5 1 2 5 11 1 36 9 1
   102 4 1 6 1 2 2 2 25 2 4 3 16 4 13 1 2 2 6 1 15 1 94 1 608 3 946 3 29 2 30 2 30 2 64 2 1 7 8
   1 2 11 3 1 5 1 45 5 51 1 65 2 34 1 118 3 4 2 9 1 6 3 219 2 2 1 58 1 1 7 1 1 1 1 2 8 6 10 2 1
   39 1 8 31 49 4 48 1 1 5 1 1 5 1 40 9 12 2 32 4 2 2 1 3 56 1 1 2 3 1 1 3 58 8 2 2 64 6 82 3 1
   13 1 7 4 1 6 1 3 2 50 63 13 1 34 101 445 1 1 3 11 3 13 3 13 3 13 2 12 5 8 2 10 1 2 1 2 5 49
   5 1 10 1 1 13 1 16 13 51 33 2955 2 113 3 125 1 15 1 96 32 47 1 469 1 36 4 3 5 5 1 93 6 93 3
   28438 1 1250 6 270 1 98 4 1 10 1 1 28 4 80 2 14 34 78 1 23 3 103 3 3 2 8 1 3 1 4 1 25 2 5 1
   151 2 26 18 13 1 38 8 25 11 46 3 48 1 2 4 2 2 17 1 21 2 66 6 2 2 2 2 12 1 8 1 35 1 11 1 51 1
   1 3 2 2 5 2 1 1 27 1 14 2 5 2 1 1 100 5 9 3 121 1 2 1 4 1 20272 1 147 17 573 16 3 1 12 16 34
   1 2 1 169 1 7 1 6 1 11 1 35 1 1 1 47 1 45 2 67 1 21 3 513 1 226 1 149 5 1029 6 1 42 1 9 582
   3 1 2 5 4 40 3 4 1 165 2 573 4 387 2 153 11 49 4 123 1 54 15 41 1 2 2 10 3 49 4 2 2 2 1 4 1
   10 1 50 3 36 5 1 8 62 1 12 2 52 9 10 4 2 1 95 3 2 1 1 2 6 1 160 1 3 8 21 2 57 2 3 1 37 7 3 5
   195 8 2 3 1 1 23 1 84 6 1 1 4 2 1 2 238 4 6 2 1 2 27 2 85 8 2 1 1 2 106 1 1 1 2 6 1 1 101 3
   2 4 1 5 259 9 1 2 256 2 1 1 4 1 144 4 2 2 4 1 32 10 40 6 2 4 8 1 9 6 2 3 46 13 1 2 406 7 1 6
   1 1 82 22 2 7 1 2 1 2 122 6 3 1 1 2 1 7 1 1 72 2 3 1 1 1 347 2 5435 9 14007 5 59 7 9 4 1035
   1 63 17 64 2 1 2 16395 4 1 7 1 2 3230 2 1 4 4700 46 2 23 544 3 9 16 2 7 30 4 148 3 1979 55 4
   50 8 1 14 1 22 5 1 15 1360 7 1 17 2 7 1 2 1 5 261 14 368 1 61 4 1504 7 109 8 2735 5 789505 1
   30 96 128 240"

/-- The cased characters beyond ASCII that are not looked through. -/
def casedLetter : CodeRanges := .ofGaps
  "170 1 10 1 4 1 5 23 1 31 1 195 1 4 4 208 1 27 192 4 2 2 3 3 1 1 6 1 1 3 1 1 1 20 1 83 1 139
   8 166 1 38 9 41 2839 38 1 1 5 1 2 43 2 3 672 86 2 6 2178 9 7 43 2 3 64 44 63 13 1 34 101 278
   2 6 2 38 2 6 2 8 1 1 1 1 1 1 1 31 2 53 1 7 1 1 3 3 1 7 3 4 2 6 4 13 5 3 1 7 261 1 4 1 2 10 1
   1 3 5 6 1 1 1 1 1 1 4 1 6 4 1 2 4 5 5 4 1 17 32 3 2 817 52 1814 124 2 103 6 4 3 2 12 38 1 1
   5 1 30994 46 18 28 134 78 1 23 3 4 1 59 5 2 1 1 1 5 27 2 3 1 821 43 5 9 7 80 20288 7 12 5
   1033 26 6 26 1189 80 96 36 4 36 116 11 1 15 1 7 1 2 1 11 1 15 1 7 1 2 1731 51 13 51 2989 64
   21856 64 25984 85 1 71 1 2 2 1 2 2 2 4 1 12 1 1 1 7 1 65 1 4 2 8 1 7 1 28 1 4 1 5 1 1 3 7 1
   340 2 25 1 25 1 31 1 25 1 31 1 25 1 31 1 25 1 31 1 25 1 8 1844 10 1 20 2529 68 2028 26 6 26
   6 26"

/-- A character that is looked through when the surroundings of a sigma are judged. -/
def isCaseIgnorable (c : Char) : Bool :=
  if c.toNat < 128 then c == '\x27' || c == '.' || c == ':' || c == '^' || c == '\x60'
  else caseIgnorable.contains c

/-- A letter that has case and is not looked through. -/
def isCasedLetter (c : Char) : Bool :=
  if c.toNat < 128 then isAsciiLetter c else casedLetter.contains c

/-- The first character that is not looked through is a cased letter. -/
def facesCased (s : Text) : Bool :=
  match s.dropWhile isCaseIgnorable with
  | [] => false
  | c :: _ => isCasedLetter c

/-! ## Texts -/

/-- Lower case, where `before` holds what precedes, backwards: a capital sigma takes its final form
after a cased letter when no cased letter follows. -/
def lowerFrom : Text → Text → Text
  | _, [] => []
  | before, c :: rest =>
    let small :=
      if c = 'Σ' then if facesCased before && !facesCased rest then ['ς'] else ['σ']
      else if c = 'İ' then ['i', '\u0307']
      else [lowerChar c]
    small ++ lowerFrom (c :: before) rest

/-- The text in lower case. -/
def lower (s : Text) : Text := lowerFrom [] s

/-- The upper case of one character, which may be several. -/
def upperOf (c : Char) : Text :=
  if c.toNat < 128 then [upperChar c]
  else match longUpper.find? (fun row => row.1 == c.toNat) with
    | some (_, spelled) => spelled
    | none => [upperChar c]

/-- The text in upper case. -/
def upper (s : Text) : Text := s.flatMap upperOf

/-! ## Letters that differ only in case -/

/-- Small letters that share their capital with another small letter, grouped by it, such as `i`
with the dotless `ı` and `s` with the long `ſ`. -/
def sharedCapital : List (List Nat) :=
  [[105, 305],
   [115, 383],
   [181, 956],
   [837, 953, 8126],
   [912, 8147],
   [946, 976],
   [949, 1013],
   [952, 977],
   [954, 1008],
   [960, 982],
   [961, 1009],
   [962, 963],
   [966, 981],
   [944, 8163],
   [1074, 7296],
   [1076, 7297],
   [1086, 7298],
   [1089, 7299],
   [1090, 7300, 7301],
   [1098, 7302],
   [1123, 7303],
   [7304, 42571],
   [7777, 7835],
   [64261, 64262]]

/-- The small letters that count as the same letter when case is ignored: the letter itself, then
those with the same capital. -/
def lowerVariants (c : Char) : List Char :=
  match sharedCapital.find? (·.contains c.toNat) with
  | none => [c]
  | some group => c :: (group.filter (· != c.toNat)).map Char.ofNat

/-- The first character of the upper case of a character. -/
def capital (c : Char) : Char := (upperOf c).headD c

/-- The characters are the same when case is ignored. -/
def sameLetter (a c : Char) : Bool := (lowerVariants (lowerChar a)).contains (lowerChar c)

/-- A character that case mapping changes. -/
def isCased (c : Char) : Bool := lowerChar c != c || capital c != c

/-- The code points that a run of the mapping sends to a character. -/
def CaseRun.source? (run : CaseRun) (c : Char) : Option Char :=
  let code := ((c.toNat : Int) - run.shift).toNat
  if run.first ≤ code && (code - run.first) % run.stride == 0
      && (code - run.first) / run.stride < run.count then some (Char.ofNat code)
  else none

/-- The characters whose one-character lower case is `c`, besides `c` itself. -/
def capitalsOf (c : Char) : List Char :=
  let ascii := if 'a' ≤ c && c ≤ 'z' then [Char.ofNat (c.toNat - 32)] else []
  ascii ++ lowerRuns.toList.filterMap fun run => run.source? c

/-- A run of the mapping starts or passes between two code points, both included. -/
def CaseRun.meets (run : CaseRun) (low high : Nat) : Bool :=
  let past := if low ≤ run.first then 0 else (low - run.first + run.stride - 1) / run.stride
  past < run.count && run.first + past * run.stride ≤ high

/-- Some character between two code points, both included, is changed by case mapping. -/
def anyCased (low high : Nat) : Bool :=
  let meets := fun first last => max low first ≤ min high last
  meets 'A'.toNat 'Z'.toNat || meets 'a'.toNat 'z'.toNat
    || lowerRuns.any (·.meets low high) || upperRuns.any (·.meets low high)
    || longUpper.any fun (code, _) => low ≤ code && code ≤ high

end RouteAtlas.Text
