import Flowboard.Text.Category

/-! Upper and lower letters. -/
namespace Flowboard.Text

/-- Characters that have another form: the first one, how many there are, how far they stand apart,
and how far the other form is from each. -/
abbrev CaseRun := Nat × Nat × Nat × Int

def upperRuns : List CaseRun :=
  [(0x61, 26, 1, -32), (0xB5, 1, 1, 743), (0xE0, 23, 1, -32), (0xF8, 7, 1, -32), (0xFF, 1, 1, 121),
   (0x101, 24, 2, -1), (0x131, 1, 1, -232), (0x133, 3, 2, -1), (0x13A, 8, 2, -1),
   (0x14B, 23, 2, -1), (0x17A, 3, 2, -1), (0x17F, 1, 1, -300), (0x180, 1, 1, 195),
   (0x183, 2, 2, -1), (0x188, 1, 1, -1), (0x18C, 1, 1, -1), (0x192, 1, 1, -1), (0x195, 1, 1, 97),
   (0x199, 1, 1, -1), (0x19A, 1, 1, 163), (0x19E, 1, 1, 130), (0x1A1, 3, 2, -1), (0x1A8, 1, 1, -1),
   (0x1AD, 1, 1, -1), (0x1B0, 1, 1, -1), (0x1B4, 2, 2, -1), (0x1B9, 1, 1, -1), (0x1BD, 1, 1, -1),
   (0x1BF, 1, 1, 56), (0x1C5, 1, 1, -1), (0x1C6, 1, 1, -2), (0x1C8, 1, 1, -1), (0x1C9, 1, 1, -2),
   (0x1CB, 1, 1, -1), (0x1CC, 1, 1, -2), (0x1CE, 8, 2, -1), (0x1DD, 1, 1, -79), (0x1DF, 9, 2, -1),
   (0x1F2, 1, 1, -1), (0x1F3, 1, 1, -2), (0x1F5, 1, 1, -1), (0x1F9, 20, 2, -1), (0x223, 9, 2, -1),
   (0x23C, 1, 1, -1), (0x23F, 2, 1, 10815), (0x242, 1, 1, -1), (0x247, 5, 2, -1),
   (0x250, 1, 1, 10783), (0x251, 1, 1, 10780), (0x252, 1, 1, 10782), (0x253, 1, 1, -210),
   (0x254, 1, 1, -206), (0x256, 2, 1, -205), (0x259, 1, 1, -202), (0x25B, 1, 1, -203),
   (0x25C, 1, 1, 42319), (0x260, 1, 1, -205), (0x261, 1, 1, 42315), (0x263, 1, 1, -207),
   (0x265, 1, 1, 42280), (0x266, 1, 1, 42308), (0x268, 1, 1, -209), (0x269, 1, 1, -211),
   (0x26A, 1, 1, 42308), (0x26B, 1, 1, 10743), (0x26C, 1, 1, 42305), (0x26F, 1, 1, -211),
   (0x271, 1, 1, 10749), (0x272, 1, 1, -213), (0x275, 1, 1, -214), (0x27D, 1, 1, 10727),
   (0x280, 1, 1, -218), (0x282, 1, 1, 42307), (0x283, 1, 1, -218), (0x287, 1, 1, 42282),
   (0x288, 1, 1, -218), (0x289, 1, 1, -69), (0x28A, 2, 1, -217), (0x28C, 1, 1, -71),
   (0x292, 1, 1, -219), (0x29D, 1, 1, 42261), (0x29E, 1, 1, 42258), (0x345, 1, 1, 84),
   (0x371, 2, 2, -1), (0x377, 1, 1, -1), (0x37B, 3, 1, 130), (0x3AC, 1, 1, -38),
   (0x3AD, 3, 1, -37), (0x3B1, 17, 1, -32), (0x3C2, 1, 1, -31), (0x3C3, 9, 1, -32),
   (0x3CC, 1, 1, -64), (0x3CD, 2, 1, -63), (0x3D0, 1, 1, -62), (0x3D1, 1, 1, -57),
   (0x3D5, 1, 1, -47), (0x3D6, 1, 1, -54), (0x3D7, 1, 1, -8), (0x3D9, 12, 2, -1),
   (0x3F0, 1, 1, -86), (0x3F1, 1, 1, -80), (0x3F2, 1, 1, 7), (0x3F3, 1, 1, -116),
   (0x3F5, 1, 1, -96), (0x3F8, 1, 1, -1), (0x3FB, 1, 1, -1), (0x430, 32, 1, -32),
   (0x450, 16, 1, -80), (0x461, 17, 2, -1), (0x48B, 27, 2, -1), (0x4C2, 7, 2, -1),
   (0x4CF, 1, 1, -15), (0x4D1, 48, 2, -1), (0x561, 38, 1, -48), (0x10D0, 43, 1, 3008),
   (0x10FD, 3, 1, 3008), (0x13F8, 6, 1, -8), (0x1C80, 1, 1, -6254), (0x1C81, 1, 1, -6253),
   (0x1C82, 1, 1, -6244), (0x1C83, 2, 1, -6242), (0x1C85, 1, 1, -6243), (0x1C86, 1, 1, -6236),
   (0x1C87, 1, 1, -6181), (0x1C88, 1, 1, 35266), (0x1D79, 1, 1, 35332), (0x1D7D, 1, 1, 3814),
   (0x1D8E, 1, 1, 35384), (0x1E01, 75, 2, -1), (0x1E9B, 1, 1, -59), (0x1EA1, 48, 2, -1),
   (0x1F00, 8, 1, 8), (0x1F10, 6, 1, 8), (0x1F20, 8, 1, 8), (0x1F30, 8, 1, 8), (0x1F40, 6, 1, 8),
   (0x1F51, 4, 2, 8), (0x1F60, 8, 1, 8), (0x1F70, 2, 1, 74), (0x1F72, 4, 1, 86),
   (0x1F76, 2, 1, 100), (0x1F78, 2, 1, 128), (0x1F7A, 2, 1, 112), (0x1F7C, 2, 1, 126),
   (0x1FB0, 2, 1, 8), (0x1FBE, 1, 1, -7205), (0x1FD0, 2, 1, 8), (0x1FE0, 2, 1, 8),
   (0x1FE5, 1, 1, 7), (0x214E, 1, 1, -28), (0x2170, 16, 1, -16), (0x2184, 1, 1, -1),
   (0x24D0, 26, 1, -26), (0x2C30, 48, 1, -48), (0x2C61, 1, 1, -1), (0x2C65, 1, 1, -10795),
   (0x2C66, 1, 1, -10792), (0x2C68, 3, 2, -1), (0x2C73, 1, 1, -1), (0x2C76, 1, 1, -1),
   (0x2C81, 50, 2, -1), (0x2CEC, 2, 2, -1), (0x2CF3, 1, 1, -1), (0x2D00, 38, 1, -7264),
   (0x2D27, 1, 1, -7264), (0x2D2D, 1, 1, -7264), (0xA641, 23, 2, -1), (0xA681, 14, 2, -1),
   (0xA723, 7, 2, -1), (0xA733, 31, 2, -1), (0xA77A, 2, 2, -1), (0xA77F, 5, 2, -1),
   (0xA78C, 1, 1, -1), (0xA791, 2, 2, -1), (0xA794, 1, 1, 48), (0xA797, 10, 2, -1),
   (0xA7B5, 8, 2, -1), (0xA7C8, 2, 2, -1), (0xA7D1, 1, 1, -1), (0xA7D7, 2, 2, -1),
   (0xA7F6, 1, 1, -1), (0xAB53, 1, 1, -928), (0xAB70, 80, 1, -38864), (0xFF41, 26, 1, -32),
   (0x10428, 40, 1, -40), (0x104D8, 36, 1, -40), (0x10597, 11, 1, -39), (0x105A3, 15, 1, -39),
   (0x105B3, 7, 1, -39), (0x105BB, 2, 1, -39), (0x10CC0, 51, 1, -64), (0x118C0, 32, 1, -32),
   (0x16E60, 32, 1, -32), (0x1E922, 34, 1, -34)]

/-- Characters whose lower form does not have them as its upper form. -/
def ownLowerRuns : List CaseRun :=
  [(0x1C4, 1, 1, 2), (0x1C5, 1, 1, 1), (0x1C7, 1, 1, 2), (0x1C8, 1, 1, 1), (0x1CA, 1, 1, 2),
   (0x1CB, 1, 1, 1), (0x1F1, 1, 1, 2), (0x1F2, 1, 1, 1), (0x399, 1, 1, 32), (0x39C, 1, 1, 32),
   (0x3A3, 1, 1, 32), (0x3F4, 1, 1, -60), (0x1E9E, 1, 1, -7615), (0x1F88, 8, 1, -8),
   (0x1F98, 8, 1, -8), (0x1FA8, 8, 1, -8), (0x1FBC, 1, 1, -9), (0x1FCC, 1, 1, -9),
   (0x1FFC, 1, 1, -9), (0x2126, 1, 1, -7517), (0x212A, 1, 1, -8383), (0x212B, 1, 1, -8262),
   (0xA64A, 1, 1, 1)]

/-- Letters whose form at the start of a word is not the upper one. -/
def titleRuns : List CaseRun :=
  [(0x1C4, 1, 1, 1), (0x1C5, 1, 1, 0), (0x1C6, 1, 1, -1), (0x1C7, 1, 1, 1), (0x1C8, 1, 1, 0),
   (0x1C9, 1, 1, -1), (0x1CA, 1, 1, 1), (0x1CB, 1, 1, 0), (0x1CC, 1, 1, -1), (0x1F1, 1, 1, 1),
   (0x1F2, 1, 1, 0), (0x1F3, 1, 1, -1), (0x10D0, 43, 1, 0), (0x10FD, 3, 1, 0), (0x1F80, 8, 1, 8),
   (0x1F88, 8, 1, 0), (0x1F90, 8, 1, 8), (0x1F98, 8, 1, 0), (0x1FA0, 8, 1, 8), (0x1FA8, 8, 1, 0),
   (0x1FB3, 1, 1, 9), (0x1FBC, 1, 1, 0), (0x1FC3, 1, 1, 9), (0x1FCC, 1, 1, 0), (0x1FF3, 1, 1, 9),
   (0x1FFC, 1, 1, 0)]

/-- Letters whose form in comparisons is not the lower one. -/
def foldRuns : List CaseRun :=
  [(0xB5, 1, 1, 775), (0x17F, 1, 1, -268), (0x345, 1, 1, 116), (0x3C2, 1, 1, 1),
   (0x3D0, 1, 1, -30), (0x3D1, 1, 1, -25), (0x3D5, 1, 1, -15), (0x3D6, 1, 1, -22),
   (0x3F0, 1, 1, -54), (0x3F1, 1, 1, -48), (0x3F5, 1, 1, -64), (0x13A0, 86, 1, 0),
   (0x13F8, 6, 1, -8), (0x1C80, 1, 1, -6222), (0x1C81, 1, 1, -6221), (0x1C82, 1, 1, -6212),
   (0x1C83, 2, 1, -6210), (0x1C85, 1, 1, -6211), (0x1C86, 1, 1, -6204), (0x1C87, 1, 1, -6180),
   (0x1C88, 1, 1, 35267), (0x1E9B, 1, 1, -58), (0x1FBE, 1, 1, -7173), (0xAB70, 80, 1, -38864)]

/-- Letters whose upper form has several letters. -/
def longUppers : List (String × String) :=
  [("\u00df", "\u0053\u0053"), ("\u0149", "\u02bc\u004e"), ("\u01f0", "\u004a\u030c"),
   ("\u0390", "\u0399\u0308\u0301"), ("\u03b0", "\u03a5\u0308\u0301"), ("\u0587", "\u0535\u0552"),
   ("\u1e96", "\u0048\u0331"), ("\u1e97", "\u0054\u0308"), ("\u1e98", "\u0057\u030a"),
   ("\u1e99", "\u0059\u030a"), ("\u1e9a", "\u0041\u02be"), ("\u1f50", "\u03a5\u0313"),
   ("\u1f52", "\u03a5\u0313\u0300"), ("\u1f54", "\u03a5\u0313\u0301"),
   ("\u1f56", "\u03a5\u0313\u0342"), ("\u1f80", "\u1f08\u0399"), ("\u1f81", "\u1f09\u0399"),
   ("\u1f82", "\u1f0a\u0399"), ("\u1f83", "\u1f0b\u0399"), ("\u1f84", "\u1f0c\u0399"),
   ("\u1f85", "\u1f0d\u0399"), ("\u1f86", "\u1f0e\u0399"), ("\u1f87", "\u1f0f\u0399"),
   ("\u1f88", "\u1f08\u0399"), ("\u1f89", "\u1f09\u0399"), ("\u1f8a", "\u1f0a\u0399"),
   ("\u1f8b", "\u1f0b\u0399"), ("\u1f8c", "\u1f0c\u0399"), ("\u1f8d", "\u1f0d\u0399"),
   ("\u1f8e", "\u1f0e\u0399"), ("\u1f8f", "\u1f0f\u0399"), ("\u1f90", "\u1f28\u0399"),
   ("\u1f91", "\u1f29\u0399"), ("\u1f92", "\u1f2a\u0399"), ("\u1f93", "\u1f2b\u0399"),
   ("\u1f94", "\u1f2c\u0399"), ("\u1f95", "\u1f2d\u0399"), ("\u1f96", "\u1f2e\u0399"),
   ("\u1f97", "\u1f2f\u0399"), ("\u1f98", "\u1f28\u0399"), ("\u1f99", "\u1f29\u0399"),
   ("\u1f9a", "\u1f2a\u0399"), ("\u1f9b", "\u1f2b\u0399"), ("\u1f9c", "\u1f2c\u0399"),
   ("\u1f9d", "\u1f2d\u0399"), ("\u1f9e", "\u1f2e\u0399"), ("\u1f9f", "\u1f2f\u0399"),
   ("\u1fa0", "\u1f68\u0399"), ("\u1fa1", "\u1f69\u0399"), ("\u1fa2", "\u1f6a\u0399"),
   ("\u1fa3", "\u1f6b\u0399"), ("\u1fa4", "\u1f6c\u0399"), ("\u1fa5", "\u1f6d\u0399"),
   ("\u1fa6", "\u1f6e\u0399"), ("\u1fa7", "\u1f6f\u0399"), ("\u1fa8", "\u1f68\u0399"),
   ("\u1fa9", "\u1f69\u0399"), ("\u1faa", "\u1f6a\u0399"), ("\u1fab", "\u1f6b\u0399"),
   ("\u1fac", "\u1f6c\u0399"), ("\u1fad", "\u1f6d\u0399"), ("\u1fae", "\u1f6e\u0399"),
   ("\u1faf", "\u1f6f\u0399"), ("\u1fb2", "\u1fba\u0399"), ("\u1fb3", "\u0391\u0399"),
   ("\u1fb4", "\u0386\u0399"), ("\u1fb6", "\u0391\u0342"), ("\u1fb7", "\u0391\u0342\u0399"),
   ("\u1fbc", "\u0391\u0399"), ("\u1fc2", "\u1fca\u0399"), ("\u1fc3", "\u0397\u0399"),
   ("\u1fc4", "\u0389\u0399"), ("\u1fc6", "\u0397\u0342"), ("\u1fc7", "\u0397\u0342\u0399"),
   ("\u1fcc", "\u0397\u0399"), ("\u1fd2", "\u0399\u0308\u0300"), ("\u1fd3", "\u0399\u0308\u0301"),
   ("\u1fd6", "\u0399\u0342"), ("\u1fd7", "\u0399\u0308\u0342"), ("\u1fe2", "\u03a5\u0308\u0300"),
   ("\u1fe3", "\u03a5\u0308\u0301"), ("\u1fe4", "\u03a1\u0313"), ("\u1fe6", "\u03a5\u0342"),
   ("\u1fe7", "\u03a5\u0308\u0342"), ("\u1ff2", "\u1ffa\u0399"), ("\u1ff3", "\u03a9\u0399"),
   ("\u1ff4", "\u038f\u0399"), ("\u1ff6", "\u03a9\u0342"), ("\u1ff7", "\u03a9\u0342\u0399"),
   ("\u1ffc", "\u03a9\u0399"), ("\ufb00", "\u0046\u0046"), ("\ufb01", "\u0046\u0049"),
   ("\ufb02", "\u0046\u004c"), ("\ufb03", "\u0046\u0046\u0049"), ("\ufb04", "\u0046\u0046\u004c"),
   ("\ufb05", "\u0053\u0054"), ("\ufb06", "\u0053\u0054"), ("\ufb13", "\u0544\u0546"),
   ("\ufb14", "\u0544\u0535"), ("\ufb15", "\u0544\u053b"), ("\ufb16", "\u054e\u0546"),
   ("\ufb17", "\u0544\u053d")]

/-- Letters whose form at the start of a word has several letters other than the upper ones. -/
def longTitles : List (String × String) :=
  [("\u00df", "\u0053\u0073"), ("\u0587", "\u0535\u0582"), ("\u1fb2", "\u1fba\u0345"),
   ("\u1fb4", "\u0386\u0345"), ("\u1fb7", "\u0391\u0342\u0345"), ("\u1fc2", "\u1fca\u0345"),
   ("\u1fc4", "\u0389\u0345"), ("\u1fc7", "\u0397\u0342\u0345"), ("\u1ff2", "\u1ffa\u0345"),
   ("\u1ff4", "\u038f\u0345"), ("\u1ff7", "\u03a9\u0342\u0345"), ("\ufb00", "\u0046\u0066"),
   ("\ufb01", "\u0046\u0069"), ("\ufb02", "\u0046\u006c"), ("\ufb03", "\u0046\u0066\u0069"),
   ("\ufb04", "\u0046\u0066\u006c"), ("\ufb05", "\u0053\u0074"), ("\ufb06", "\u0053\u0074"),
   ("\ufb13", "\u0544\u0576"), ("\ufb14", "\u0544\u0565"), ("\ufb15", "\u0544\u056b"),
   ("\ufb16", "\u054e\u0576"), ("\ufb17", "\u0544\u056d")]

def inRuns? (runs : List CaseRun) (c : Char) : Option (List Char) :=
  let n := c.toNat
  (runs.find? fun (first, count, step, _) =>
    first ≤ n && n < first + count * step && (n - first) % step == 0).map fun (_, _, _, d) =>
      [Char.ofNat (n + d).toNat]

/-- The character that has another one as its other form in some runs. -/
def backInRuns? (runs : List CaseRun) (c : Char) : Option (List Char) :=
  runs.findSome? fun (first, count, step, d) =>
    let n := (c.toNat : Int) - d
    if first ≤ n && n < first + count * step && (n - first) % step == 0 then
      some [Char.ofNat n.toNat]
    else none

/-- The other form of a character among longer ones. -/
def inTexts? (texts : List (String × String)) (c : Char) : Option (List Char) :=
  (texts.lookup c.toString).map String.toList

def upperOf (c : Char) : List Char :=
  if c.toNat < 128 then [c.toUpper]
  else ((inRuns? upperRuns c).or (inTexts? longUppers c)).getD [c]

def lowerOf (c : Char) : List Char :=
  if c.toNat < 128 then [c.toLower]
  else if c.toNat = 0x130 then ['i', Char.ofNat 0x307]
  else ((inRuns? ownLowerRuns c).or (backInRuns? upperRuns c)).getD [c]

/-- The form of a character at the start of a word. -/
def titleOf (c : Char) : List Char :=
  if c.toNat < 128 then [c.toUpper]
  else ((inRuns? titleRuns c).or (inTexts? longTitles c)).getD (upperOf c)

/-- The form of a character in comparisons that do not tell upper from lower letters. -/
def foldOf (c : Char) : List Char :=
  if c.toNat < 128 then [c.toLower]
  else if c.toNat = 0x1E9E then ['s', 's']
  else
    match inTexts? longUppers c with
    | some cs => cs.flatMap lowerOf
    | none => (inRuns? foldRuns c).getD (lowerOf c)

/-- Characters that count as lower ones without being letters of that kind. -/
def otherLower : List (Nat × Nat) :=
  [(0xAA, 0xAA), (0xBA, 0xBA), (0x2B0, 0x2B8), (0x2C0, 0x2C1), (0x2E0, 0x2E4), (0x345, 0x345),
   (0x37A, 0x37A), (0x1D2C, 0x1D6A), (0x1D78, 0x1D78), (0x1D9B, 0x1DBF), (0x2071, 0x2071),
   (0x207F, 0x207F), (0x2090, 0x209C), (0x2170, 0x217F), (0x24D0, 0x24E9), (0x2C7C, 0x2C7D),
   (0xA69C, 0xA69D), (0xA770, 0xA770), (0xA7F8, 0xA7F9), (0xAB5C, 0xAB5F), (0x10780, 0x10780),
   (0x10783, 0x10785), (0x10787, 0x107B0), (0x107B2, 0x107BA)]

/-- Characters that count as upper ones without being letters of that kind. -/
def otherUpper : List (Nat × Nat) :=
  [(0x2160, 0x216F), (0x24B6, 0x24CF), (0x1F130, 0x1F149), (0x1F150, 0x1F169), (0x1F170, 0x1F189)]

def isLowerCase (c : Char) : Bool :=
  if c.toNat < 128 then c.isLower
  else category c == "Ll" || otherLower.any fun (a, b) => a ≤ c.toNat && c.toNat ≤ b

def isUpperCase (c : Char) : Bool :=
  if c.toNat < 128 then c.isUpper
  else category c == "Lu" || otherUpper.any fun (a, b) => a ≤ c.toNat && c.toNat ≤ b

end Flowboard.Text
