import Flowboard.Text.Category
import Flowboard.Text.Integer
import Flowboard.Text.Octet

/-! What characters do beside others: where marks go, how wide characters are, in which direction
they run, and which numbers they stand for. -/
namespace Flowboard.Text

/-- The value of a decimal digit of any script. Those of one script stand side by side, the zero
first. -/
def decimalValue? (c : Char) : Option Nat :=
  if c.toNat < 128 then if c.isDigit then some (c.toNat - '0'.toNat) else none
  else
    let (start, kind) := categoryRun c
    if kind == "Nd" then some ((c.toNat - start) % 10) else none

/-- Digits that stand above or below a line or in circles: the first of some, how many there are,
and the value of the first. -/
def specialDigits : List (Nat × Nat × Nat) :=
  [(0xB2, 2, 2), (0xB9, 1, 1), (0x1369, 9, 1), (0x19DA, 1, 1), (0x2070, 1, 0), (0x2074, 6, 4),
   (0x2080, 10, 0), (0x2460, 9, 1), (0x2474, 9, 1), (0x2488, 9, 1), (0x24EA, 1, 0), (0x24F5, 9,
   1), (0x24FF, 1, 0), (0x2776, 9, 1), (0x2780, 9, 1), (0x278A, 9, 1), (0x10A40, 4, 1), (0x10E60,
   9, 1), (0x11052, 9, 1), (0x1F100, 1, 0), (0x1F101, 10, 0)]

def digitValue? (c : Char) : Option Nat :=
  (decimalValue? c).or ((specialDigits.find? fun (first, count, _) =>
    first ≤ c.toNat && c.toNat < first + count).map fun (first, _, v) => v + (c.toNat - first))

/-- Letters that stand for numbers. -/
def numeralLetters : List (Nat × Nat) :=
  [(0x3405, 0x3405), (0x3483, 0x3483), (0x382A, 0x382A), (0x3B4D, 0x3B4D), (0x4E00, 0x4E00),
   (0x4E03, 0x4E03), (0x4E07, 0x4E07), (0x4E09, 0x4E09), (0x4E5D, 0x4E5D), (0x4E8C, 0x4E8C),
   (0x4E94, 0x4E94), (0x4E96, 0x4E96), (0x4EBF, 0x4EC0), (0x4EDF, 0x4EDF), (0x4EE8, 0x4EE8),
   (0x4F0D, 0x4F0D), (0x4F70, 0x4F70), (0x5104, 0x5104), (0x5146, 0x5146), (0x5169, 0x5169),
   (0x516B, 0x516B), (0x516D, 0x516D), (0x5341, 0x5341), (0x5343, 0x5345), (0x534C, 0x534C),
   (0x53C1, 0x53C4), (0x56DB, 0x56DB), (0x58F1, 0x58F1), (0x58F9, 0x58F9), (0x5E7A, 0x5E7A),
   (0x5EFE, 0x5EFF), (0x5F0C, 0x5F0E), (0x5F10, 0x5F10), (0x62FE, 0x62FE), (0x634C, 0x634C),
   (0x67D2, 0x67D2), (0x6F06, 0x6F06), (0x7396, 0x7396), (0x767E, 0x767E), (0x8086, 0x8086),
   (0x842C, 0x842C), (0x8CAE, 0x8CAE), (0x8CB3, 0x8CB3), (0x8D30, 0x8D30), (0x9621, 0x9621),
   (0x9646, 0x9646), (0x964C, 0x964C), (0x9678, 0x9678), (0x96F6, 0x96F6), (0xF96B, 0xF96B),
   (0xF973, 0xF973), (0xF978, 0xF978), (0xF9B2, 0xF9B2), (0xF9D1, 0xF9D1), (0xF9D3, 0xF9D3),
   (0xF9FD, 0xF9FD), (0x20001, 0x20001), (0x20064, 0x20064), (0x200E2, 0x200E2), (0x20121,
   0x20121), (0x2092A, 0x2092A), (0x20983, 0x20983), (0x2098C, 0x2098C), (0x2099C, 0x2099C),
   (0x20AEA, 0x20AEA), (0x20AFD, 0x20AFD), (0x20B19, 0x20B19), (0x22390, 0x22390), (0x22998,
   0x22998), (0x23B1B, 0x23B1B), (0x2626D, 0x2626D), (0x2F890, 0x2F890)]

/-- Whether a character stands for a number. -/
def isNumeral (c : Char) : Bool :=
  isOfClass 'N' c || numeralLetters.any fun (a, b) => a ≤ c.toNat && c.toNat ≤ b

/-- Reads runs in the order of the characters: a value, and after a star how many characters have
it if there are more than one. -/
def readRuns : List String → Nat → Array (Nat × String) → Array (Nat × String)
  | [], _, done => done
  | w :: ws, start, done =>
    match w.splitOn "*" with
    | [v, count] => readRuns ws (start + (natural? count.toList).getD 1) (done.push (start, v))
    | _ => readRuns ws (start + 1) (done.push (start, w))

/-- Reads values of single characters: the number of a character after an at sign, and the values
of the characters from it on. -/
def readPlaced : List String → Nat → Array (Nat × String) → Array (Nat × String)
  | [], _, done => done
  | w :: ws, next, done =>
    match w.toList with
    | '@' :: digits => readPlaced ws ((naturalIn? 16 digits).getD 0) done
    | _ => readPlaced ws (next + 1) (done.push (next, w))

def tableWords (table : String) : List String :=
  (table.split Char.isWhitespace).toStringList.filter (· ≠ "")

def traitIn (runs : Array (Nat × String)) (c : Char) : String :=
  ((runs[runAt runs (codePoint c) 32 0 runs.size]?).map (·.2)).getD ""

/-- The value of a character in a table of single ones. -/
def placedIn? (values : Array (Nat × String)) (c : Char) : Option String :=
  let n := codePoint c
  ((values[runAt values n 32 0 values.size]?).filter (·.1 == n)).map (·.2)

/-- Where marks go: zero for characters that stand for themselves. -/
def markRuns : String := "
0*768 230*21 232 220*4 232 216 220*5 202*2 220*4 202*2 220*11 1*5 220*4 230*8 240 230 220*3 230*3
220*2 0 230*3 220*4 230 232 220*2 230 233 234*2 233 234*2 233 230*13 0*275 230*5 0*265 220 230*4
220 230*3 222 220 230*6 220*6 230*2 220 230*2 222 228 230 10 11 12 13 14 15 16 17 18 19*2 20 21 22
0 23 0 24 25 0 230 220 0 18 0*72 230*8 30 31 32 0*48 27 28 29 30 31 32 33 34 230*2 220*2 230*5 220
230*2 220 0*16 35 0*101 230*7 0*2 230*4 220 230 0*2 230*2 0 220 230*2 220 0*35 36 0*30 230 220
230*2 220 230*2 220*3 230 220*2 230 220 230*3 220 230 220 230 220 230 220 230*2 0*160 230*7 220
230 0*9 220 0*24 230*4 0 230*9 0 230*3 0 230*5 0*43 220*3 0*60 230 220*3 230*4 0*42 230*5 220*5
230*14 0 220 230*2 220 230*2 220 230*3 220*3 27 28 29 230*3 220 230*2 220*2 230*5 0*60 7 0*16 9
0*3 230 220 230*2 0*103 7 0*16 9 0*48 230 0*61 7 0*16 9 0*110 7 0*16 9 0*110 7 0*16 9 0*127 9
0*110 7 0*16 9 0*7 84 91 0*101 7 0*16 9 0*109 9*2 0*16 9 0*124 9 0*109 103*2 9 0*13 107*4 0*108
118*2 9 0*13 122*4 0*76 220*2 0*27 220 0 220 0 216 0*55 129 130 0 132 0*5 130*4 0*2 130 0 230*2 9
0 230*2 0*62 220 0*112 7 0 9*2 0*82 220 0*719 230*3 0*948 9*2 0*30 9 0*157 9 0*10 230 0*203 228
0*143 222 230 220 0*219 230 220 0*71 9 0*20 230*8 0*2 220 0*48 230*5 220*6 230*2 220 0 220*2 230*2
220*2 230*5 220 230*4 0*101 7 0*15 9 0*38 230 220 230*7 0*54 9*2 0*58 7 0*11 9*2 0*67 7 0*152
230*3 0 1 220*5 230*2 220*4 230 0 1*7 0*4 220 0*6 230 0*3 230*2 0*198 230*2 220 230*7 220 230*2
234 214 220 202 230*37 232 228*2 220 218 230 233 220 230 220 0*720 230*2 1*2 230*4 1*3 230*2 0*4
230 0*3 1*2 230 220 230 1*2 220*4 230 0*3070 230*3 0*141 9 0*96 230*32 0*554 218 228 232 222 224*2
0*105 8*2 0*30164 230 0*4 230*10 0*32 230*2 0*80 230*2 0*276 9 0*37 9 0*151 9 0*27 230*18 0*57
220*3 0*37 9 0*95 7 0*12 9 0*239 230 0 230*2 220 0*2 230*2 0*5 230*2 0 230 0*52 9 0*246 9 0*20272
26 0*769 230*7 220*7 230*2 0*973 220 0*226 220 0*149 230*5 0*1682 220 0 230 0*40 230 1 220 0*4 9
0*165 230 220 0*573 230*4 0*387 230*2 0*153 220*2 230*3 220 230 220*4 0*49 230 220 230 220 0*192 9
0*41 9 0*14 9 0*57 9 7 0*69 230*3 0*48 9*2 0*62 7 0*76 9 0*9 7 0*106 9 7 0*178 7 9 0*80 7*2 0*16 9
0*24 230*7 0*3 230*5 0*205 9 0*3 7 0*23 230 0*99 9 7 0*251 9 7 0*126 9 0*118 9 7 0*115 9 0*269 9 7
0*258 9*2 0*4 7 0*156 9 0*83 9 0*18 9 0*81 9 0*421 9 0*258 7 0 9*2 0*81 9 0*19800 1*5 0*59 230*7
0*1209 6*2 0*19628 1 0*5318 216*2 1*3 0*3 226 216*5 0*8 220*8 0*2 230*5 220*2 0*30 230*4 0*148
230*3 0*3515 230*7 0 230*17 0*2 230*7 0 230*2 0 230*5 0*261 230*7 0*375 230 0*61 230*4 0*1504
220*7 0*109 230*6 7 0*988853"

def marks : Thunk (Array (Nat × String)) :=
  .mk fun _ => readRuns (tableWords markRuns) 0 #[]

/-- The class of a mark, which tells where it goes; zero for other characters. -/
def markClass (c : Char) : Nat :=
  if c.toNat < 0x300 then 0 else (natural? (traitIn marks.get c).toList).getD 0

/-- How wide characters are in texts of East Asia. -/
def widthRuns : String := "
N*32 Na*95 N*34 A Na*2 A Na*2 A*2 N A N Na A*2 Na A*5 N A*5 N A*4 N*6 A N*9 A N*6 A*2 N*5 A*4 N*4
A N A*3 N A*2 N*2 A N A*2 N*3 A*4 N A N A N*2 A N*15 A N A N*7 A N*10 A*2 N*3 A N*5 A*3 N*4 A N*6
A*4 N A N*3 A*4 N A N*4 A*2 N*18 A*2 N*3 A N*98 A N A N A N A N A N A N A N A N*116 A N*15 A N*98
A N*2 A N A*3 N A N*2 A N*7 A*4 N A N A N*32 A*112 N*8 F*2 N*6 F*4 N*7 F N F N*3 A*17 F A*7 N*7
A*17 N A*7 N*55 A N*14 A*64 N A N*222 F N*38 F*2 N*50 F*2 N*3 F N*55 F*8 N*27 F*4 N*6 F*11 N*270 F
N*60 F*2 N*101 F*14 N*59 F*2 N*49 F*2 N*15 F N*28 F*2 N F N*11 F*5 N*31 F N*2 F*6 N*236 F N*8 F*2
N*2 F*2 N*22 F N*7 F N F*3 N*4 F*2 N*9 F*2 N*2 F*2 N*4 F*8 N F*4 N*2 F N*5 F*2 N*25 F*2 N*3 F N*6
F*4 N*2 F*2 N*22 F N*7 F N*2 F N*2 F N*2 F*2 N F N*5 F*4 N*2 F*2 N*3 F*3 N F*7 N*4 F N F*7 N*17
F*10 N*3 F N*9 F N*3 F N*22 F N*7 F N*2 F N*5 F*2 N*10 F N*3 F N*3 F*2 N F*15 N*4 F*2 N*12 F*7 N*7
F N*3 F N*8 F*2 N*2 F*2 N*22 F N*7 F N*2 F N*5 F*2 N*9 F*2 N*2 F*2 N*3 F*7 N*3 F*4 N*2 F N*5 F*2
N*18 F*10 N*2 F N*6 F*3 N*3 F N*4 F*3 N*2 F N F N*2 F*3 N*2 F*3 N*3 F*3 N*12 F*4 N*5 F*3 N*3 F N*4
F*2 N F*6 N F*14 N*21 F*5 N*13 F N*3 F N*23 F N*16 F*2 N*9 F N*3 F N*4 F*7 N*2 F N*3 F*2 N F*2 N*4
F*2 N*10 F*7 N*22 F N*3 F N*23 F N*10 F N*5 F*2 N*9 F N*3 F N*4 F*7 N*2 F*6 N*2 F N*4 F*2 N*10 F
N*2 F*13 N*13 F N*3 F N*51 F N*3 F N*6 F*4 N*16 F*2 N*26 F N*3 F N*18 F*3 N*24 F N*9 F N F*2 N*7
F*3 N F*4 N*6 F N F N*8 F*6 N*10 F*2 N*3 F*12 N*58 F*4 N*29 F*37 N*2 F N F N*5 F N*24 F N F N*23
F*2 N*5 F N F N*6 F*2 N*10 F*2 N*4 F*32 N*72 F N*36 F*4 N*39 F N*36 F N*15 F N*13 F*37 N*198 F N
F*5 N F*2 N*48 W*96 N*233 F N*4 F*2 N*7 F N F N*4 F*2 N*41 F N*4 F*2 N*33 F N*4 F*2 N*7 F N F N*4
F*2 N*15 F N*57 F N*4 F*2 N*67 F*2 N*32 F*3 N*26 F*6 N*86 F*2 N*6 F*2 N*669 F*3 N*89 F*7 N*22 F*9
N*24 F*9 N*20 F*12 N*13 F N*3 F N*2 F*12 N*94 F*2 N*10 F*6 N*10 F*6 N*26 F*6 N*89 F*7 N*43 F*5
N*70 F*10 N*31 F N*12 F*4 N*12 F*4 N F*3 N*42 F*2 N*5 F*11 N*44 F*4 N*26 F*6 N*11 F*3 N*62 F*2
N*65 F N*29 F*2 N*11 F*6 N*10 F*6 N*14 F*2 N*31 F*49 N*77 F*3 N*47 F N*116 F*8 N*60 F*3 N*15 F*3
N*60 F*7 N*43 F*2 N*11 F*8 N*43 F*5 N*534 F*2 N*6 F*2 N*38 F*2 N*6 F*2 N*8 F N F N F N F N*31 F*2
N*53 F N*15 F N*14 F*2 N*6 F N*19 F*2 N*3 F N*9 F N*16 A N*2 A*4 N A*2 N*2 A*2 N*2 A*3 N A*4 N*8 A
N A*2 N A N*5 A N*2 A N*38 F N*12 F*2 A N*10 A N A*4 N*10 F N*13 F*3 N*9 H N*2 A N*20 F*15 N*33
F*15 N*3 A N A N*3 A N*9 A N*2 A N*10 A*2 N*3 A N*4 A N*39 A*2 N*6 A*4 N A*12 N*4 A*10 N*15 A N*2
F*4 A*10 N*30 A*2 N*24 A N A N*18 A N*24 A N A*2 N*3 A*2 N*2 A N*3 A N A N*3 A N*4 A N*2 A*4 N*2 A
N A N A*6 N A N*5 A*4 N*4 A*2 N*10 A N*3 A N*5 A N*13 A*2 N*2 A*4 N*2 A*2 N*2 A*2 N*18 A*2 N*2 A*2
N*13 A N*3 A N*11 A N*25 A N*82 A N*7 W*2 N*13 W*2 N*190 W*4 N*3 W N*2 W N*51 F*25 N*11 F*21 A*138
N A*97 N*4 A*36 N*12 A*16 N*2 A*4 N*10 A*2 N A*7 N*8 A*2 N*2 A*2 N*4 A*2 N*2 A*2 N*4 A*3 N*2 A N*2
A*4 N*16 A*4 N*9 A N*13 W*2 N*6 A*2 N*2 A N*4 A*2 N*4 W*2 N*6 A N A N*33 A N A N*5 W*12 N*12 A*2 N
A*3 N A*4 N A*2 N A N*15 W N*19 W N*10 A*2 N W N*8 W*2 N*17 W*2 A N*4 W*2 A*8 W A*5 W A*13 N A N*4
A*2 W A*7 W*2 A W A*4 W A*2 W A*2 N*5 W N*4 W*2 N*28 W N*20 A N*14 W N W N*4 W*3 N W N*30 A*10
N*21 W*3 N*24 W N*14 W N*38 Na*8 N*407 Na*2 N*404 W*2 N*51 W N*4 W A*4 N*26 F*2 N*32 F N*349 F*5
N*45 F N F*5 N F*2 N*56 F*7 N*2 F*14 N*24 F*9 N*7 F N*7 F N*7 F N*7 F N*7 F N*7 F N*7 F N*7 F
N*126 F*34 W*26 F W*89 F*12 W*214 F*26 W*12 F*5 W*62 N F W*86 F*2 W*103 F*5 W*43 F W*94 F W*84
F*12 W*47 F W*40 A*8 W*7024 N*64 W*22157 F*3 W*55 F*9 N*348 F*20 N*184 F*8 N*203 F*5 N*2 F N F N*5
F*24 N*59 F*3 N*10 F*6 N*56 F*8 N*70 F*8 N*12 F*6 N*116 F*11 N W*29 F*3 N*78 F N*11 F*4 N*33 F
N*55 F*9 N*14 F*2 N*10 F*2 N*103 F*24 N*28 F*10 N*6 F*2 N*6 F*2 N*6 F*9 N*7 F N*7 F N*60 F*4 N*126
F*2 N*10 F*6 W*11172 F*12 N*23 F*4 N*49 F*4 N*2048 A*6400 W*366 F*2 W*106 F*38 N*7 F*12 N*5 F*5
N*26 F N*5 F N F N*2 F N*2 F N*125 F*16 N*445 F*2 N*54 F*7 N F*32 N*16 A*16 W*10 F*6 N*16 W*35 F
W*19 F W*4 F*4 N*5 F N*135 F*2 N F*97 H*94 F*3 H*6 F*2 H*6 F*2 H*6 F*2 H*3 F*11 H*7 F*10 N*4 A F*2
N*12 F N*26 F N*19 F N*2 F N*15 F*2 N*14 F*34 N*123 F*5 N*3 F*4 N*45 F*3 N*88 F N*13 F*3 N F*47
N*46 F*130 N*29 F*3 N*49 F*15 N*28 F*4 N*36 F*9 N*30 F*5 N*43 F*5 N*30 F N*37 F*4 N*14 F*42 N*158
F*2 N*10 F*6 N*36 F*4 N*36 F*4 N*40 F*8 N*52 F*11 N*12 F N*15 F N*7 F N*2 F N*11 F N*15 F N*7 F
N*2 F*67 N*311 F*9 N*22 F*10 N*8 F*24 N*6 F N*42 F N*9 F*69 N*6 F*2 N F N*44 F N*2 F*3 N F*2 N*23
F N*72 F*8 N*9 F*48 N*19 F N*2 F*5 N*33 F*3 N*27 F*5 N F*64 N*56 F*4 N*20 F*2 N*50 F N*2 F*5 N*8 F
N*3 F N*29 F*2 N*3 F*4 N*10 F*7 N*9 F*7 N*64 F*32 N*39 F*4 N*12 F*9 N*54 F*3 N*29 F*2 N*27 F*5
N*26 F*7 N*4 F*12 N*7 F*80 N*73 F*55 N*51 F*13 N*51 F*7 N*46 F*8 N*10 F*294 N*31 F N*42 F N*3 F*2
N*2 F*78 N*40 F*8 N*42 F*22 N*26 F*38 N*28 F*20 N*23 F*9 N*78 F*4 N*36 F*9 N*68 F*10 N F*2 N*25
F*7 N*10 F*6 N*53 F N*18 F*8 N*39 F*9 N*96 F N*20 F*11 N*18 F N*44 F*65 N*7 F N F N*4 F N*15 F
N*11 F*6 N*59 F*5 N*10 F*6 N*4 F N*8 F*2 N*2 F*2 N*22 F N*7 F N*2 F N*5 F N*10 F*2 N*2 F*2 N*3 F*2
N F*6 N F*5 N*7 F*2 N*7 F*3 N*5 F*139 N*92 F N*5 F*30 N*72 F*8 N*10 F*166 N*54 F*2 N*38 F*34 N*69
F*11 N*10 F*6 N*13 F*19 N*58 F*6 N*10 F*54 N*27 F*2 N*15 F*4 N*23 F*185 N*60 F*100 N*83 F*12 N*8
F*2 N F*2 N*8 F N*2 F N*30 F N*2 F*2 N*12 F*9 N*10 F*70 N*8 F*2 N*46 F*2 N*11 F*27 N*72 F*8 N*83
F*13 N*73 F*263 N*9 F N*45 F N*14 F*10 N*29 F*3 N*32 F*2 N*22 F N*14 F*73 N*7 F N*2 F N*44 F*3 N F
N*2 F N*9 F*8 N*10 F*6 N*6 F N*2 F N*37 F N*2 F N*6 F*7 N*10 F*310 N*25 F*183 N F*15 N*50 F*13
N*923 F*102 N*111 F N*5 F*11 N*196 F*2636 N*99 F*13 N*1071 F N*9 F*4039 N*583 F*8633 N*569 F*7
N*31 F N*10 F*4 N*81 F N*10 F*6 N*30 F*2 N*6 F*10 N*70 F*10 N*10 F N*7 F N*21 F*5 N*19 F*688 N*91
F*101 N*75 F*4 N*57 F*7 N*17 F*64 W*5 F*11 W*2 F*14 W*6136 F*8 W*1238 F*42 W*9 F*8935 W*4 F W*7 F
W*2 F W*291 F*45 W*3 F*17 W*4 F*8 W*396 F*2308 N*107 F*5 N*13 F*3 N*9 F*7 N*10 F*2 N*8 F*4700 N*46
F*2 N*23 F*9 N*116 F*60 N*246 F*10 N*39 F*2 N*194 F*21 N*70 F*154 N*20 F*12 N*87 F*9 N*25 F*135
N*85 F N*71 F N*2 F*2 N F*2 N*2 F*2 N*4 F N*12 F N F N*7 F N*65 F N*4 F*2 N*8 F N*7 F N*28 F N*4 F
N*5 F N F*3 N*7 F N*340 F*2 N*292 F*2 N*702 F*15 N*5 F N*15 F*1104 N*31 F*225 N*7 F N*17 F*2 N*7 F
N*2 F N*5 F*213 N*45 F*3 N*14 F*2 N*10 F*4 N*2 F*320 N*31 F*17 N*58 F*5 N F*1248 N*7 F N*4 F N*2 F
N*15 F N*197 F*2 N*16 F*41 N*76 F*4 N*10 F*4 N*2 F*785 N*68 F*76 N*61 F*194 N*4 F N*27 F N*2 F N
F*2 N F N*10 F N*4 F N F N F*6 N F*4 N F N F N F N*3 F N*2 F N F*2 N F N F N F N F N F N*2 F N F*2
N*4 F N*7 F N*4 F N*4 F N F N*10 F N*17 F*5 N*3 F N*5 F N*17 F*52 N*2 F*270 N*4 W N*39 F*4 N*100
F*12 N*15 F*2 N*15 F N*14 W F N*37 F*10 A*11 N*5 A*30 N*2 A*58 N*6 A*30 W A*2 W*10 A*18 N F*56
N*26 W*3 F*13 W*44 F*4 W*9 F*7 W*2 F*14 W*6 F*154 W*33 N*12 W*9 N W*70 N W*22 N*12 W*43 N*4 W*5
N*12 W*17 N*3 W N*3 W*71 N W N W*187 N*2 W*63 N*13 W*4 N W*24 N*18 W N*26 W*2 N*13 W N*86 W*85
N*48 W*70 N*6 W N*3 W*3 N*2 W*3 F*5 W*3 N*11 W*2 F*3 N*4 W*9 F*3 N*116 F*12 N*89 F*7 W*12 F*4 W
F*15 N*12 F*4 N*56 F*8 N*10 F*6 N*40 F*8 N*30 F*2 N*2 F*78 N*12 W*47 N W*10 N W*185 N*84 F*12 N*14
F*2 W*5 F*3 W*5 F*3 W*7 F*9 W*29 F*3 W*11 F*5 W*6 F*10 W*10 F*6 W*8 F*8 W*7 F*9 N*147 F N*55 F*37
N*10 F*1030 W*42720 F*32 W*4153 F*7 W*222 F*2 W*5762 F*14 W*7473 F*3103 W*542 F*1506 W*4939
F*715958 N F*30 N*96 F*128 A*240 F*65040 A*65534 F*2 A*65534 F*2"

def widths : Thunk (Array (Nat × String)) :=
  .mk fun _ => readRuns (tableWords widthRuns) 0 #[]

/-- How wide a character is: narrow, wide, half or full, neutral, or of no one width. -/
def width (c : Char) : String :=
  traitIn widths.get c

/-- The numbers that characters stand for that are no digits. -/
def ratioTable : String := "
@BC 1/4 1/2 3/4 @9F4 1/16 1/8 3/16 1/4 3/4 16 @B72 1/4 1/2 3/4 1/16 1/8 3/16 @BF0 10 100 1000 @C78
0 1 2 3 1 2 3 @D58 1/160 1/40 3/80 1/20 1/10 3/20 1/5 @D70 10 100 1000 1/4 1/2 3/4 1/16 1/8 3/16
@F2A 1/2 3/2 5/2 7/2 9/2 11/2 13/2 15/2 17/2 -1/2 @1372 10 20 30 40 50 60 70 80 90 100 10000 @16EE
17 18 19 @17F0 0 1 2 3 4 5 6 7 8 9 @2150 1/7 1/9 1/10 1/3 2/3 1/5 2/5 3/5 4/5 1/6 5/6 1/8 3/8 5/8
7/8 1 1 2 3 4 5 6 7 8 9 10 11 12 50 100 500 1000 1 2 3 4 5 6 7 8 9 10 11 12 50 100 500 1000 1000
5000 10000 @2185 6 50 50000 100000 0 @2469 10 11 12 13 14 15 16 17 18 19 20 @247D 10 11 12 13 14
15 16 17 18 19 20 @2491 10 11 12 13 14 15 16 17 18 19 20 @24EB 11 12 13 14 15 16 17 18 19 20 @24FE
10 @277F 10 @2789 10 @2793 10 @2CFD 1/2 @3007 0 @3021 1 2 3 4 5 6 7 8 9 @3038 10 20 30 @3192 1 2 3
4 @3220 1 2 3 4 5 6 7 8 9 10 @3248 10 20 30 40 50 60 70 80 @3251 21 22 23 24 25 26 27 28 29 30 31
32 33 34 35 @3280 1 2 3 4 5 6 7 8 9 10 @32B1 36 37 38 39 40 41 42 43 44 45 46 47 48 49 50 @3405 5
@3483 2 @382A 5 @3B4D 7 @4E00 1 @4E03 7 @4E07 10000 @4E09 3 @4E5D 9 @4E8C 2 @4E94 5 @4E96 4 @4EBF
100000000 10 @4EDF 1000 @4EE8 3 @4F0D 5 @4F70 100 @5104 100000000 @5146 1000000000000 @5169 2
@516B 8 @516D 6 @5341 10 @5343 1000 20 30 @534C 40 @53C1 3 3 3 3 @56DB 4 @58F1 1 @58F9 1 @5E7A 1
@5EFE 9 20 @5F0C 1 2 3 @5F10 2 @62FE 10 @634C 8 @67D2 7 @6F06 7 @7396 9 @767E 100 @8086 4 @842C
10000 @8CAE 2 @8CB3 2 @8D30 2 @9621 1000 @9646 6 @964C 100 @9678 6 @96F6 0 @A6E6 1 2 3 4 5 6 7 8 9
0 @A830 1/4 1/2 3/4 1/16 1/8 3/16 @F96B 3 @F973 10 @F978 2 @F9B2 0 @F9D1 6 @F9D3 6 @F9FD 10 @10107
1 2 3 4 5 6 7 8 9 10 20 30 40 50 60 70 80 90 100 200 300 400 500 600 700 800 900 1000 2000 3000
4000 5000 6000 7000 8000 9000 10000 20000 30000 40000 50000 60000 70000 80000 90000 @10140 1/4 1/2
1 5 50 500 5000 50000 5 10 50 100 500 1000 5000 5 10 50 100 500 1000 10000 50000 10 1 1 1 2 2 2 2
5 10 10 10 10 10 30 50 50 50 50 100 300 500 500 500 500 500 1000 5000 5 50 1/2 1/2 2/3 3/4 @1018A
0 1/4 @102E1 1 2 3 4 5 6 7 8 9 10 20 30 40 50 60 70 80 90 100 200 300 400 500 600 700 800 900
@10320 1 5 10 50 @10341 90 @1034A 900 @103D1 1 2 10 20 100 @10858 1 2 3 10 20 100 1000 10000
@10879 1 2 3 4 5 10 20 @108A7 1 2 3 4 4 5 10 20 100 @108FB 1 5 10 20 100 @10916 1 10 20 100 2 3
@109BC 11/12 1/2 @109C0 1 2 3 4 5 6 7 8 9 10 20 30 40 50 60 70 @109D2 100 200 300 400 500 600 700
800 900 1000 2000 3000 4000 5000 6000 7000 8000 9000 10000 20000 30000 40000 50000 60000 70000
80000 90000 100000 200000 300000 400000 500000 600000 700000 800000 900000 1/12 1/6 1/4 1/3 5/12
1/2 7/12 2/3 3/4 5/6 @10A44 10 20 100 1000 1/2 @10A7D 1 50 @10A9D 1 10 20 @10AEB 1 5 10 20 100
@10B58 1 2 3 4 10 20 100 1000 @10B78 1 2 3 4 10 20 100 1000 @10BA9 1 2 3 4 10 20 100 @10CFA 1 5 10
50 100 1000 @10E69 10 20 30 40 50 60 70 80 90 100 200 300 400 500 600 700 800 900 1/2 1/4 1/3 2/3
@10F1D 1 2 3 4 5 10 20 30 100 1/2 @10F51 1 10 20 100 @10FC5 1 2 3 4 10 20 100 @1105B 10 20 30 40
50 60 70 80 90 100 1000 @111E1 1 2 3 4 5 6 7 8 9 10 20 30 40 50 60 70 80 90 100 1000 @1173A 10 20
@118EA 10 20 30 40 50 60 70 80 90 @11C5A 1 2 3 4 5 6 7 8 9 10 20 30 40 50 60 70 80 90 100 @11FC0
1/320 1/160 1/80 1/64 1/40 1/32 3/80 3/64 1/20 1/16 1/16 1/10 1/8 3/20 3/16 1/5 1/4 1/2 1/2 3/4
1/320 @12400 2 3 4 5 6 7 8 9 3 4 5 6 7 8 9 4 5 6 7 8 9 1 2 3 4 5 6 7 8 9 1 2 3 4 5 2 3 3 4 5 6 7 8
9 1 2 3 3 4 5 216000 432000 1 2 3 3 4 5 3 3 4 4 4 4 6 7 7 7 8 8 9 9 9 9 2 3 4 5 6 1 2 3 4 4 5 5 2
3 1 2 1/3 2/3 5/6 1/3 2/3 1/8 1/4 1/6 1/4 1/4 1/2 1/3 2/3 40 50 4 5 6 7 8 9 @16B5B 10 100 10000
1000000 100000000 10000000000 1000000000000 @16E80 0 1 2 3 4 5 6 7 8 9 10 11 12 13 14 15 16 17 18
19 1 2 3 @1D2E0 0 1 2 3 4 5 6 7 8 9 10 11 12 13 14 15 16 17 18 19 @1D360 1 2 3 4 5 6 7 8 9 10 20
30 40 50 60 70 80 90 1 2 3 4 5 1 5 @1E8C7 1 2 3 4 5 6 7 8 9 @1EC71 1 2 3 4 5 6 7 8 9 10 20 30 40
50 60 70 80 90 100 200 300 400 500 600 700 800 900 1000 2000 3000 4000 5000 6000 7000 8000 9000
10000 20000 30000 40000 50000 60000 70000 80000 90000 100000 200000 100000 10000000 20000000 1 2 3
4 5 6 7 8 9 @1ECAD 1/4 1/2 3/4 @1ECB1 1 2 10000 100000 @1ED01 1 2 3 4 5 6 7 8 9 10 20 30 40 50 60
70 80 90 100 200 300 400 500 600 700 800 900 1000 2000 3000 4000 5000 6000 7000 8000 9000 10000
20000 30000 40000 50000 60000 70000 80000 90000 @1ED2F 2 3 4 5 6 7 8 9 10 400 600 2000 10000 1/2
1/6 @1F10B 0 0 @20001 7 @20064 4 @200E2 4 @20121 5 @2092A 1 @20983 30 @2098C 40 @2099C 40 @20AEA 6
@20AFD 3 @20B19 3 @22390 2 @22998 3 @23B1B 3 @2626D 4 @2F890 9"

def ratios : Thunk (Array (Nat × String)) :=
  .mk fun _ => readPlaced (tableWords ratioTable) 0 #[]

/-- The number that a character stands for, as a quotient of whole numbers. -/
def ratio? (c : Char) : Option (Int × Nat) :=
  match digitValue? c with
  | some n => some (n, 1)
  | none => (placedIn? ratios.get c).bind fun s =>
    match s.splitOn "/" with
    | [a, b] => do some (← integer? a.toList, ← natural? b.toList)
    | _ => (integer? s.toList).map fun n => (n, 1)

end Flowboard.Text
