import Flowboard.Text.Integer
import Flowboard.Text.Octet
import Flowboard.Text.Symbol

/-! Encodings: how texts become bytes, and bytes texts. -/
namespace Flowboard.Script

/-- The characters of the upper half of the bytes in encodings with one byte for each character.
Those of the ones with 96 characters follow 32 controls. -/
def pages : List (String × String) :=
  [("cp1252",
    "€\ufffd‚ƒ„…†‡ˆ‰Š‹Œ\ufffdŽ\ufffd\ufffd‘’“”•–—˜™š›œ\ufffdžŸ" ++
    "\u00a0¡¢£¤¥¦§¨©ª«¬\u00ad®¯°±²³´µ¶·¸¹º»¼½¾¿" ++
    "ÀÁÂÃÄÅÆÇÈÉÊËÌÍÎÏÐÑÒÓÔÕÖ×ØÙÚÛÜÝÞßàáâãäåæçèéêëìíîïðñòóôõö÷øùúûüýþÿ"),
   ("cp1250",
    "€\ufffd‚\ufffd„…†‡\ufffd‰Š‹ŚŤŽŹ\ufffd‘’“”•–—\ufffd™š›śťžź" ++
    "\u00a0ˇ˘Ł¤Ą¦§¨©Ş«¬\u00ad®Ż°±˛ł´µ¶·¸ąş»Ľ˝ľż" ++
    "ŔÁÂĂÄĹĆÇČÉĘËĚÍÎĎĐŃŇÓÔŐÖ×ŘŮÚŰÜÝŢßŕáâăäĺćçčéęëěíîďđńňóôőö÷řůúűüýţ˙"),
   ("cp1251",
    "ЂЃ‚ѓ„…†‡€‰Љ‹ЊЌЋЏђ‘’“”•–—\ufffd™љ›њќћџ\u00a0ЎўЈ¤Ґ¦§Ё©Є«¬\u00ad®Ї°±Ііґµ¶·ё№є»јЅѕї" ++
    "АБВГДЕЖЗИЙКЛМНОПРСТУФХЦЧШЩЪЫЬЭЮЯабвгдежзийклмнопрстуфхцчшщъыьэюя"),
   ("cp437",
    "ÇüéâäàåçêëèïîìÄÅÉæÆôöòûùÿÖÜ¢£¥₧ƒáíóúñÑªº¿⌐¬½¼¡«»░▒▓│┤╡╢╖╕╣║╗╝╜╛┐" ++
    "└┴┬├─┼╞╟╚╔╩╦╠═╬╧╨╤╥╙╘╒╓╫╪┘┌█▄▌▐▀αßΓπΣσµτΦΘΩδ∞φε∩≡±≥≤⌠⌡÷≈°∙·√ⁿ²■\u00a0"),
   ("cp850",
    "ÇüéâäàåçêëèïîìÄÅÉæÆôöòûùÿÖÜø£Ø×ƒáíóúñÑªº¿®¬½¼¡«»░▒▓│┤ÁÂÀ©╣║╗╝¢¥┐" ++
    "└┴┬├─┼ãÃ╚╔╩╦╠═╬¤ðÐÊËÈıÍÎÏ┘┌█▄¦Ì▀ÓßÔÒõÕµþÞÚÛÙýÝ¯´\u00ad±‗¾¶§÷¸°¨·¹³²■\u00a0"),
   ("cp866",
    "АБВГДЕЖЗИЙКЛМНОПРСТУФХЦЧШЩЪЫЬЭЮЯабвгдежзийклмноп░▒▓│┤╡╢╖╕╣║╗╝╜╛┐" ++
    "└┴┬├─┼╞╟╚╔╩╦╠═╬╧╨╤╥╙╘╒╓╫╪┘┌█▄▌▐▀рстуфхцчшщъыьэюяЁёЄєЇїЎў°∙·√№¤■\u00a0"),
   ("koi8_r",
    "─│┌┐└┘├┤┬┴┼▀▄█▌▐░▒▓⌠■∙√≈≤≥\u00a0⌡°²·÷═║╒ё╓╔╕╖╗╘╙╚╛╜╝╞╟╠╡Ё╢╣╤╥╦╧╨╩╪╫╬©" ++
    "юабцдефгхийклмнопярстужвьызшэщчъЮАБЦДЕФГХИЙКЛМНОПЯРСТУЖВЬЫЗШЭЩЧЪ"),
   ("mac_roman",
    "ÄÅÇÉÑÖÜáàâäãåçéèêëíìîïñóòôöõúùûü†°¢£§•¶ß®©™´¨≠ÆØ∞±≤≥¥µ∂∑∏π∫ªºΩæø" ++
    "¿¡¬√ƒ≈∆«»…\u00a0ÀÃÕŒœ–—“”‘’÷◊ÿŸ⁄€‹›ﬁﬂ‡·‚„‰ÂÊÁËÈÍÎÏÌÓÔ\uf8ffÒÚÛÙıˆ˜¯˘˙˚¸˝˛ˇ"),
   ("iso8859_2",
    "\u00a0Ą˘Ł¤ĽŚ§¨ŠŞŤŹ\u00adŽŻ°ą˛ł´ľśˇ¸šşťź˝žżŔÁÂĂÄĹĆÇČÉĘËĚÍÎĎ" ++
    "ĐŃŇÓÔŐÖ×ŘŮÚŰÜÝŢßŕáâăäĺćçčéęëěíîďđńňóôőö÷řůúűüýţ˙"),
   ("iso8859_5",
    "\u00a0ЁЂЃЄЅІЇЈЉЊЋЌ\u00adЎЏАБВГДЕЖЗИЙКЛМНОПРСТУФХЦЧШЩЪЫЬЭЮЯ" ++
    "абвгдежзийклмнопрстуфхцчшщъыьэюя№ёђѓєѕіїјљњћќ§ўџ"),
   ("iso8859_7",
    "\u00a0‘’£€₯¦§¨©ͺ«¬\u00ad\ufffd―°±²³΄΅Ά·ΈΉΊ»Ό½ΎΏΐΑΒΓΔΕΖΗΘΙΚΛΜΝΞΟ" ++
    "ΠΡ\ufffdΣΤΥΦΧΨΩΪΫάέήίΰαβγδεζηθικλμνξοπρςστυφχψωϊϋόύώ\ufffd"),
   ("iso8859_15",
    "\u00a0¡¢£€¥Š§š©ª«¬\u00ad®¯°±²³Žµ¶·ž¹º»ŒœŸ¿ÀÁÂÃÄÅÆÇÈÉÊËÌÍÎÏ" ++
    "ÐÑÒÓÔÕÖ×ØÙÚÛÜÝÞßàáâãäåæçèéêëìíîïðñòóôõö÷øùúûüýþÿ")]

def otherEncodings : List (String × String) :=
  [("646", "ascii"), ("us", "ascii"), ("us_ascii", "ascii"), ("8859", "latin_1"),
   ("iso8859", "latin_1"), ("iso8859_1", "latin_1"), ("iso_8859_1", "latin_1"), ("l1", "latin_1"),
   ("latin", "latin_1"), ("latin1", "latin_1"), ("cp819", "latin_1"), ("u8", "utf_8"),
   ("utf", "utf_8"), ("utf8", "utf_8"), ("u16", "utf_16"), ("utf16", "utf_16"),
   ("utf_16le", "utf_16_le"), ("utf_16be", "utf_16_be"), ("u32", "utf_32"), ("utf32", "utf_32"),
   ("utf_32le", "utf_32_le"), ("utf_32be", "utf_32_be"), ("1252", "cp1252"),
   ("windows_1252", "cp1252"), ("1250", "cp1250"), ("windows_1250", "cp1250"),
   ("1251", "cp1251"), ("windows_1251", "cp1251"), ("437", "cp437"), ("ibm437", "cp437"),
   ("850", "cp850"), ("ibm850", "cp850"), ("866", "cp866"), ("ibm866", "cp866"),
   ("cskoi8r", "koi8_r"), ("macintosh", "mac_roman"), ("macroman", "mac_roman"),
   ("iso_8859_2", "iso8859_2"), ("l2", "iso8859_2"), ("latin2", "iso8859_2"),
   ("iso_8859_5", "iso8859_5"), ("cyrillic", "iso8859_5"), ("iso_8859_7", "iso8859_7"),
   ("greek", "iso8859_7"), ("iso_8859_15", "iso8859_15"), ("l9", "iso8859_15"),
   ("latin9", "iso8859_15"), ("unicodeescape", "unicode_escape"),
   ("rawunicodeescape", "raw_unicode_escape")]

/-- How texts become bytes. -/
inductive Codec where
  /-- with a mark in front or without -/
  | utf8 (marked : Bool)
  /-- numbers of `width` bytes; without an order, a mark in front tells it -/
  | wide (width : Nat) (bigEndian : Option Bool)
  /-- one byte for each of the first characters -/
  | first (count : Nat)
  | page (upper : Array Char)
  /-- escapes for what is not ASCII -/
  | escapes (raw : Bool)

/-- Why a text or bytes cannot be taken: the name of the encoding, from where to where, and a
reason. -/
structure CodecFault where
  codec : String
  first : Nat
  last : Nat
  reason : String

namespace Codec

def ofName? (name : String) : Option Codec :=
  let plain := String.ofList (name.toList.map fun c =>
    if c.isAlphanum then c.toLower else '_')
  let plain := (otherEncodings.lookup plain).getD plain
  match plain with
  | "utf_8" => some (.utf8 false)
  | "utf_8_sig" => some (.utf8 true)
  | "ascii" => some (.first 128)
  | "latin_1" => some (.first 256)
  | "utf_16" => some (.wide 2 none)
  | "utf_16_le" => some (.wide 2 (some false))
  | "utf_16_be" => some (.wide 2 (some true))
  | "utf_32" => some (.wide 4 none)
  | "utf_32_le" => some (.wide 4 (some false))
  | "utf_32_be" => some (.wide 4 (some true))
  | "unicode_escape" => some (.escapes false)
  | "raw_unicode_escape" => some (.escapes true)
  | name =>
    (pages.lookup name).map fun upper =>
      let controls := if upper.length = 128 then []
        else (List.range 32).map fun n => Char.ofNat (128 + n)
      .page (controls ++ upper.toList).toArray

/-- How an encoding is called in messages. -/
def title : Codec → String
  | .utf8 _ => "utf-8"
  | .wide 2 (some false) => "utf-16-le"
  | .wide 2 (some true) => "utf-16-be"
  | .wide 2 none => "utf-16"
  | .wide _ (some false) => "utf-32-le"
  | .wide _ (some true) => "utf-32-be"
  | .wide _ none => "utf-32"
  | .first 128 => "ascii"
  | .first _ => "latin-1"
  | .page _ => "charmap"
  | .escapes false => "unicodeescape"
  | .escapes true => "rawunicodeescape"

def wideBytes (width : Nat) (big : Bool) (n : Nat) : List UInt8 :=
  let low := (List.range width).map fun i => UInt8.ofNat (n / Nat.pow 256 i)
  if big then low.reverse else low

def escapeOf (c : Char) : List Char :=
  let n := Text.codePoint c
  if n < 256 then '\\' :: 'x' :: Text.paddedIn 16 2 n
  else if n < 65536 then '\\' :: 'u' :: Text.paddedIn 16 4 n
  else '\\' :: 'U' :: Text.paddedIn 16 8 n

def bytesOf? (codec : Codec) (c : Char) : Option (List UInt8) :=
  match codec with
  | .utf8 _ => if Text.isHalf c then none else some (Text.encode c.toString)
  | .wide 2 order =>
    if Text.isHalf c then none
    else
      let n := c.toNat
      let big := order.getD false
      if n < 0x10000 then some (wideBytes 2 big n)
      else
        let m := n - 0x10000
        some (wideBytes 2 big (0xD800 + m / 1024) ++ wideBytes 2 big (0xDC00 + m % 1024))
  | .wide width order =>
    if Text.isHalf c then none else some (wideBytes width (order.getD false) c.toNat)
  | .first count =>
    if c.toNat < count then some [UInt8.ofNat c.toNat] else none
  | .page upper =>
    if c.toNat < 128 then some [UInt8.ofNat c.toNat]
    else if c = '\ufffd' then none
    else (upper.findIdx? (· == c)).map fun i => [UInt8.ofNat (128 + i)]
  | .escapes raw =>
    let n := c.toNat
    let text : List Char :=
      if raw then (if n < 256 then [c] else escapeOf c)
      else if c = '\\' then ['\\', '\\']
      else if c = '\n' then ['\\', 'n']
      else if c = '\r' then ['\\', 'r']
      else if c = '\t' then ['\\', 't']
      else if 32 ≤ n ∧ n < 127 then [c]
      else escapeOf c
    some (text.map fun c => UInt8.ofNat c.toNat)

def encodeReason : Codec → String
  | .first count => "ordinal not in range(" ++ (if count = 128 then "128" else "256") ++ ")"
  | .page _ => "character maps to <undefined>"
  | _ => "surrogates not allowed"

/-- The bytes that a way to handle errors puts for a character. -/
def substitute? (codec : Codec) (handler : String) (nameOf : Char → Option String) (c : Char) :
    Option (List UInt8) :=
  let n := Text.codePoint c
  let text (s : List Char) : Option (List UInt8) :=
    some (s.flatMap fun c => (codec.bytesOf? c).getD [])
  match handler with
  | "ignore" => some []
  | "replace" => text ['?']
  | "xmlcharrefreplace" => text ("&#".toList ++ Nat.toDigits 10 n ++ [';'])
  | "backslashreplace" => text (escapeOf c)
  | "namereplace" =>
    text (match nameOf c with
      | some name => '\\' :: 'N' :: '{' :: (name.toList ++ ['}'])
      | none => escapeOf c)
  | "surrogateescape" =>
    if 0xDC80 ≤ n ∧ n < 0xDD00 then some [UInt8.ofNat (n - 0xDC00)] else none
  | "surrogatepass" =>
    if ¬ Text.isHalf c then none
    else
      match codec with
      | .utf8 _ =>
        some [UInt8.ofNat (0xE0 + n / 4096), UInt8.ofNat (0x80 + n / 64 % 64),
          UInt8.ofNat (0x80 + n % 64)]
      | .wide width order => some (wideBytes width (order.getD false) n)
      | _ => none
  | _ => none

/-- Turns characters into bytes, which are kept backwards; `i` characters came before. -/
def encodeFrom (codec : Codec) (handler : String) (nameOf : Char → Option String) :
    Nat → List UInt8 → List Char → Except CodecFault (List UInt8)
  | _, done, [] => .ok done.reverse
  | i, done, c :: s =>
    match (codec.bytesOf? c).or (codec.substitute? handler nameOf c) with
    | some bytes => encodeFrom codec handler nameOf (i + 1) (bytes.reverse ++ done) s
    | none =>
      let more := (s.takeWhile fun c => (codec.bytesOf? c).isNone).length
      .error ⟨codec.title, i, i + 1 + more, codec.encodeReason⟩

/-- The mark that stands in front of a text. -/
def mark : Codec → List UInt8
  | .utf8 true => [0xEF, 0xBB, 0xBF]
  | .wide width none => wideBytes width false 0xFEFF
  | _ => []

def encode (codec : Codec) (handler : String) (nameOf : Char → Option String) (s : List Char) :
    Except CodecFault (List UInt8) :=
  (encodeFrom codec handler nameOf 0 [] s).map (codec.mark ++ ·)

/-- The characters that a way to handle errors puts for bytes. -/
def restored? (handler : String) (bytes : List UInt8) : Option (List Char) :=
  match handler with
  | "ignore" => some []
  | "replace" => some ['\ufffd']
  | "backslashreplace" => some (bytes.flatMap fun b => '\\' :: 'x' :: Text.paddedIn 16 2 b.toNat)
  | _ => none

/-- What is wrong with bytes that are no character in UTF-8; `rest` starts with them. -/
def strayReason (width : Nat) (rest : List UInt8) : String :=
  match rest with
  | b :: more =>
    if b < 0xC2 ∨ 0xF5 ≤ b then "invalid start byte"
    else if more.length < width then "unexpected end of data"
    else "invalid continuation byte"
  | [] => "unexpected end of data"

/-- Puts the symbols of bytes together; `i` bytes came before. -/
def joinSymbols (handler : String) :
    Nat → List Char → List UInt8 → List Text.Symbol → Except CodecFault (List Char)
  | _, done, _, [] => .ok done.reverse
  | i, done, rest, .char c :: more =>
    joinSymbols handler (i + c.utf8Size) (c :: done) (rest.drop c.utf8Size) more
  | i, done, rest, .stray width :: more =>
    match restored? handler (rest.take width) with
    | some cs => joinSymbols handler (i + width) (cs.reverse ++ done) (rest.drop width) more
    | none => .error ⟨"utf-8", i, i + width, strayReason width rest⟩

/-- Halves of pairs in UTF-8 as one group of bytes each. -/
def decodeHalves (handler : String) : Nat → List Char → List UInt8 → Except CodecFault (List Char)
  | 0, done, _ => .ok done.reverse
  | fuel + 1, done, bytes =>
    let whole := bytes.takeWhile (· != 0xED)
    match joinSymbols handler 0 [] whole (Text.symbols whole), bytes.drop whole.length with
    | .error e, _ => .error e
    | .ok cs, [] => .ok (done.reverse ++ cs)
    | .ok cs, a :: b :: c :: rest =>
      let n := (a.toNat % 16) * 4096 + (b.toNat % 64) * 64 + c.toNat % 64
      decodeHalves handler fuel (Text.ofCodePoint n :: (cs.reverse ++ done)) rest
    | .ok _, _ => .error ⟨"utf-8", 0, 1, "unexpected end of data"⟩

/-- Characters of one byte each; `i` bytes came before. -/
def decodeSingle (name reason handler : String) (charOf : UInt8 → Option Char) :
    Nat → List Char → List UInt8 → Except CodecFault (List Char)
  | _, done, [] => .ok done.reverse
  | i, done, b :: rest =>
    match charOf b with
    | some c => decodeSingle name reason handler charOf (i + 1) (c :: done) rest
    | none =>
      match restored? handler [b] with
      | some cs => decodeSingle name reason handler charOf (i + 1) (cs.reverse ++ done) rest
      | none => .error ⟨name, i, i + 1, reason⟩

def wideNumber (big : Bool) (bytes : List UInt8) : Nat :=
  (if big then bytes else bytes.reverse).foldl (fun n b => 256 * n + b.toNat) 0

/-- Characters of several bytes each; `i` bytes came before. -/
def decodeWide (name handler : String) (width : Nat) (big : Bool) :
    Nat → Nat → List Char → List UInt8 → Except CodecFault (List Char)
  | 0, _, done, _ => .ok done.reverse
  | _, _, done, [] => .ok done.reverse
  | fuel + 1, i, done, bytes =>
    let unit := bytes.take width
    let rest := bytes.drop width
    let n := wideNumber big unit
    let fail (count : Nat) (reason : String) : Except CodecFault (List Char) :=
      match restored? handler (bytes.take count) with
      | some cs =>
        decodeWide name handler width big fuel (i + count) (cs.reverse ++ done) (bytes.drop count)
      | none => .error ⟨name, i, i + min count bytes.length, reason⟩
    if unit.length < width then fail unit.length "truncated data"
    else if width = 2 ∧ 0xD800 ≤ n ∧ n < 0xDC00 then
      let m := wideNumber big (rest.take 2)
      if rest.length < 2 then
        if handler = "surrogatepass" then
          decodeWide name handler width big fuel (i + 2) (Text.ofCodePoint n :: done) rest
        else fail bytes.length "unexpected end of data"
      else if 0xDC00 ≤ m ∧ m < 0xE000 then
        decodeWide name handler width big fuel (i + 4)
          (Char.ofNat (0x10000 + (n - 0xD800) * 1024 + (m - 0xDC00)) :: done) (rest.drop 2)
      else if handler = "surrogatepass" then
        decodeWide name handler width big fuel (i + 2) (Text.ofCodePoint n :: done) rest
      else fail 2 "illegal UTF-16 surrogate"
    else if 0xD800 ≤ n ∧ n < 0xE000 then
      if handler = "surrogatepass" then
        decodeWide name handler width big fuel (i + width) (Text.ofCodePoint n :: done) rest
      else
        fail width (if width = 2 then "illegal encoding"
          else "code point in surrogate code point range(0xd800, 0xe000)")
    else if 0x110000 ≤ n then fail width "code point not in range(0x110000)"
    else decodeWide name handler width big fuel (i + width) (Char.ofNat n :: done) rest

/-- The text of bytes; `unescaped` is the text of characters with escapes. -/
def decode (codec : Codec) (handler : String) (unescaped : Bool → List Char → List Char)
    (bytes : List UInt8) : Except CodecFault (List Char) :=
  match codec with
  | .utf8 marked =>
    let bytes := if marked ∧ [0xEF, 0xBB, 0xBF].isPrefixOf bytes then bytes.drop 3 else bytes
    if handler = "surrogatepass" then decodeHalves handler (bytes.length + 1) [] bytes
    else joinSymbols handler 0 [] bytes (Text.symbols bytes)
  | .wide width order =>
    let start := bytes.take width
    let fuel := bytes.length + 1
    match order with
    | some big => decodeWide codec.title handler width big fuel 0 [] bytes
    | none =>
      let name (big : Bool) : String :=
        if big then (Codec.wide width (some true)).title else (Codec.wide width (some false)).title
      if start = wideBytes width true 0xFEFF then
        decodeWide (name true) handler width true fuel width [] (bytes.drop width)
      else
        let marked := start = wideBytes width false 0xFEFF
        decodeWide (if marked then name false else codec.title) handler width false fuel
          (if marked then width else 0) [] (if marked then bytes.drop width else bytes)
  | .first count =>
    decodeSingle codec.title codec.encodeReason handler
      (fun b => if b.toNat < count then some (Char.ofNat b.toNat) else none) 0 [] bytes
  | .page upper =>
    decodeSingle codec.title codec.encodeReason handler
      (fun b => if b < 128 then some (Char.ofNat b.toNat)
        else (upper[b.toNat - 128]?).bind fun c => if c = '\ufffd' then none else some c) 0 [] bytes
  | .escapes raw => .ok (unescaped raw (Text.octets bytes))

end Codec

end Flowboard.Script
