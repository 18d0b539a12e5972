import Flowboard.Time.Calendar

/-! The clocks of places: how far they are from universal time, and when that changes. -/
namespace Flowboard

/-- A day of each year: a day of the week in a week of a month, of which the fifth is the last. -/
structure YearDay where
  month : Nat
  week : Nat
  day : Nat
  deriving DecidableEq, Repr

namespace YearDay

/-- The days from the first of January 1970 to the day in a year. -/
def days (d : YearDay) (year : Int) : Int :=
  let first := Moment.daysTo year d.month 1
  let next :=
    if d.month = 12 then Moment.daysTo (year + 1) 1 1 else Moment.daysTo year (d.month + 1) 1
  let shift := ((d.day : Int) - (first + 4)) % 7
  let date := first + shift + 7 * ((d.week : Int) - 1)
  if date < next then date else date - 7

end YearDay

/-- When summer begins and ends, each a day and the seconds after its start by the clock. -/
structure Summer where
  offset : Offset
  start : YearDay × Int
  finish : YearDay × Int
  deriving DecidableEq, Repr

/-- The clocks of a place. -/
structure Zone where
  standard : Offset := {}
  summer : Option Summer := none
  deriving DecidableEq, Repr

namespace Zone

/-- Universal time. -/
def universal : Zone := {}

/-- What the clocks show at a moment, in seconds since 1970. -/
def offsetAt (z : Zone) (seconds : Int) : Offset :=
  match z.summer with
  | none => z.standard
  | some s =>
    let year := (Moment.ofSeconds (seconds + z.standard.seconds)).year
    let a := s.start.1.days year * 86400 + s.start.2 - z.standard.seconds
    let b := s.finish.1.days year * 86400 + s.finish.2 - s.offset.seconds
    let inside : Bool := if a < b then a ≤ seconds && seconds < b else a ≤ seconds || seconds < b
    if inside then s.offset else z.standard

/-- The moment that the clocks show at a time. -/
def moment (z : Zone) (seconds : Int) : Moment :=
  .within (z.offsetAt seconds) seconds

/-- The seconds since 1970 at which the clocks show so many seconds, counted as if they showed
universal time. A time that is shown twice means the first, unless `late` holds; one that is never
shown is read with what was shown before. -/
def secondsOf (z : Zone) (shown : Int) (late : Bool) : Int :=
  match z.summer with
  | none => shown - z.standard.seconds
  | some s =>
    let a := shown - s.offset.seconds
    let b := shown - z.standard.seconds
    let fits (t : Int) : Bool := t + (z.offsetAt t).seconds == shown
    match fits a, fits b with
    | true, true => if late then max a b else min a b
    | true, false => a
    | false, true => b
    | false, false => b

/-- Reads a name: letters, or anything in angle brackets. -/
def readName (s : List Char) : Option (String × List Char) :=
  match s with
  | '<' :: rest =>
    let name := rest.takeWhile (· != '>')
    some (String.ofList name, rest.drop (name.length + 1))
  | s =>
    let name := s.takeWhile Char.isAlpha
    if name.length < 3 then none else some (String.ofList name, s.drop name.length)

/-- Reads hours, minutes and seconds with a sign. -/
def readTime (s : List Char) : Option (Int × List Char) :=
  let (sign, s) : Int × List Char := match s with
    | '-' :: rest => (-1, rest)
    | '+' :: rest => (1, rest)
    | s => (1, s)
  let number (s : List Char) : Option (Nat × List Char) :=
    let digits := s.takeWhile Char.isDigit
    (Text.natural? digits).map fun n => (n, s.drop digits.length)
  let part (s : List Char) : Nat × List Char :=
    match s with
    | ':' :: rest => (number rest).getD (0, s)
    | s => (0, s)
  (number s).map fun (h, s) =>
    let (m, s) := part s
    let (sec, s) := part s
    (sign * ((h * 3600 + m * 60 + sec : Nat) : Int), s)

/-- The clocks that a rule describes: a name and the time that is to be added to get universal time,
and perhaps the same for summer, with the days on which it begins and ends. -/
def ofRule? (rule : List Char) : Option Zone := do
  let (name, s) ← readName rule
  let (west, s) ← readTime s
  let standard : Offset := { seconds := -west, name }
  if s.isEmpty then return { standard }
  let (name, s) ← readName s
  let (west, _) := (readTime s).getD (west - 3600, s)
  let offset : Offset := { seconds := -west, name, summer := true }
  let summer : Summer := { offset, start := (⟨3, 2, 0⟩, 7200), finish := (⟨11, 1, 0⟩, 7200) }
  return { standard, summer := some summer }

/-- The rules of places. -/
def places : List (String × List String) :=
  [("<+00>0<+01>,0/0,J365/25",
    ["Africa/Casablanca Africa/El_Aaiun"]),
   ("<+00>0<+02>-2,M3.5.0/1,M10.5.0/3",
    ["Antarctica/Troll"]),
   ("<+01>-1",
    ["Etc/GMT-1"]),
   ("<+02>-2",
    ["Etc/GMT-2"]),
   ("<+0330>-3:30",
    ["Asia/Tehran"]),
   ("<+03>-3",
    ["Antarctica/Syowa Asia/Aden Asia/Amman Asia/Baghdad Asia/Bahrain Asia/Damascus",
     "Asia/Istanbul Asia/Kuwait Asia/Qatar Asia/Riyadh Etc/GMT-3 Europe/Istanbul",
     "Europe/Minsk"]),
   ("<+0430>-4:30",
    ["Asia/Kabul"]),
   ("<+04>-4",
    ["Asia/Baku Asia/Dubai Asia/Muscat Asia/Tbilisi Asia/Yerevan Etc/GMT-4",
     "Europe/Astrakhan Europe/Samara Europe/Saratov Europe/Ulyanovsk Indian/Mahe",
     "Indian/Mauritius Indian/Reunion"]),
   ("<+0530>-5:30",
    ["Asia/Colombo"]),
   ("<+0545>-5:45",
    ["Asia/Kathmandu"]),
   ("<+05>-5",
    ["Antarctica/Mawson Antarctica/Vostok Asia/Almaty Asia/Aqtau Asia/Aqtobe",
     "Asia/Ashgabat Asia/Atyrau Asia/Dushanbe Asia/Oral Asia/Qostanay Asia/Qyzylorda",
     "Asia/Samarkand Asia/Tashkent Asia/Yekaterinburg Etc/GMT-5 Indian/Kerguelen",
     "Indian/Maldives"]),
   ("<+0630>-6:30",
    ["Asia/Yangon Indian/Cocos"]),
   ("<+06>-6",
    ["Asia/Bishkek Asia/Dhaka Asia/Kashgar Asia/Omsk Asia/Thimphu Asia/Urumqi",
     "Etc/GMT-6 Indian/Chagos"]),
   ("<+07>-7",
    ["Antarctica/Davis Asia/Bangkok Asia/Barnaul Asia/Ho_Chi_Minh Asia/Hovd",
     "Asia/Krasnoyarsk Asia/Novokuznetsk Asia/Novosibirsk Asia/Phnom_Penh Asia/Tomsk",
     "Asia/Vientiane Etc/GMT-7 Indian/Christmas"]),
   ("<+0845>-8:45",
    ["Australia/Eucla"]),
   ("<+08>-8",
    ["Antarctica/Casey Asia/Brunei Asia/Choibalsan Asia/Irkutsk Asia/Kuala_Lumpur",
     "Asia/Kuching Asia/Singapore Asia/Ulaanbaatar Etc/GMT-8"]),
   ("<+09>-9",
    ["Asia/Chita Asia/Dili Asia/Khandyga Asia/Yakutsk Etc/GMT-9 Pacific/Palau"]),
   ("<+1030>-10:30<+11>-11,M10.1.0,M4.1.0",
    ["Australia/Lord_Howe"]),
   ("<+10>-10",
    ["Antarctica/DumontDUrville Asia/Ust-Nera Asia/Vladivostok Etc/GMT-10",
     "Pacific/Chuuk Pacific/Port_Moresby Pacific/Yap"]),
   ("<+11>-11",
    ["Asia/Magadan Asia/Sakhalin Asia/Srednekolymsk Etc/GMT-11 Pacific/Bougainville",
     "Pacific/Efate Pacific/Guadalcanal Pacific/Kosrae Pacific/Noumea Pacific/Pohnpei"]),
   ("<+11>-11<+12>,M10.1.0,M4.1.0/3",
    ["Pacific/Norfolk"]),
   ("<+1245>-12:45<+1345>,M9.5.0/2:45,M4.1.0/3:45",
    ["Pacific/Chatham"]),
   ("<+12>-12",
    ["Asia/Anadyr Asia/Kamchatka Etc/GMT-12 Pacific/Fiji Pacific/Funafuti",
     "Pacific/Kwajalein Pacific/Majuro Pacific/Nauru Pacific/Tarawa Pacific/Wake",
     "Pacific/Wallis"]),
   ("<+13>-13",
    ["Etc/GMT-13 Pacific/Apia Pacific/Fakaofo Pacific/Kanton Pacific/Tongatapu"]),
   ("<+14>-14",
    ["Etc/GMT-14 Pacific/Kiritimati"]),
   ("<-01>1",
    ["Atlantic/Cape_Verde Etc/GMT+1"]),
   ("<-01>1<+00>,M3.5.0/0,M10.5.0/1",
    ["Atlantic/Azores"]),
   ("<-02>2",
    ["America/Noronha Atlantic/South_Georgia Etc/GMT+2"]),
   ("<-02>2<-01>,M3.5.0/-1,M10.5.0/0",
    ["America/Nuuk America/Scoresbysund"]),
   ("<-03>3",
    ["America/Araguaina America/Argentina/Buenos_Aires America/Argentina/Catamarca",
     "America/Argentina/Cordoba America/Argentina/Jujuy America/Argentina/La_Rioja",
     "America/Argentina/Mendoza America/Argentina/Rio_Gallegos America/Argentina/Salta",
     "America/Argentina/San_Juan America/Argentina/San_Luis America/Argentina/Tucuman",
     "America/Argentina/Ushuaia America/Asuncion America/Bahia America/Belem",
     "America/Cayenne America/Coyhaique America/Fortaleza America/Maceio",
     "America/Montevideo America/Paramaribo America/Punta_Arenas America/Recife",
     "America/Santarem America/Sao_Paulo Antarctica/Palmer Antarctica/Rothera",
     "Atlantic/Stanley Etc/GMT+3"]),
   ("<-03>3<-02>,M3.2.0,M11.1.0",
    ["America/Miquelon"]),
   ("<-04>4",
    ["America/Boa_Vista America/Campo_Grande America/Caracas America/Cuiaba",
     "America/Guyana America/La_Paz America/Manaus America/Porto_Velho Etc/GMT+4"]),
   ("<-04>4<-03>,M9.1.6/24,M4.1.6/24",
    ["America/Santiago"]),
   ("<-05>5",
    ["America/Bogota America/Eirunepe America/Guayaquil America/Lima",
     "America/Porto_Acre America/Rio_Branco Etc/GMT+5"]),
   ("<-06>6",
    ["Etc/GMT+6 Pacific/Galapagos"]),
   ("<-06>6<-05>,M9.1.6/22,M4.1.6/22",
    ["Pacific/Easter"]),
   ("<-07>7",
    ["Etc/GMT+7"]),
   ("<-08>8",
    ["Etc/GMT+8 Pacific/Pitcairn"]),
   ("<-0930>9:30",
    ["Pacific/Marquesas"]),
   ("<-09>9",
    ["Etc/GMT+9 Pacific/Gambier"]),
   ("<-10>10",
    ["Etc/GMT+10 Pacific/Rarotonga Pacific/Tahiti"]),
   ("<-11>11",
    ["Etc/GMT+11 Pacific/Niue"]),
   ("<-12>12",
    ["Etc/GMT+12"]),
   ("ACST-9:30",
    ["Australia/Darwin"]),
   ("ACST-9:30ACDT,M10.1.0,M4.1.0/3",
    ["Australia/Adelaide Australia/Broken_Hill Australia/Yancowinna"]),
   ("AEST-10",
    ["Australia/Brisbane Australia/Lindeman"]),
   ("AEST-10AEDT,M10.1.0,M4.1.0/3",
    ["Antarctica/Macquarie Australia/Canberra Australia/Currie Australia/Hobart",
     "Australia/Melbourne Australia/Sydney"]),
   ("AKST9AKDT,M3.2.0,M11.1.0",
    ["America/Anchorage America/Juneau America/Metlakatla America/Nome America/Sitka",
     "America/Yakutat"]),
   ("AST4",
    ["America/Anguilla America/Antigua America/Aruba America/Barbados",
     "America/Blanc-Sablon America/Curacao America/Dominica America/Grenada",
     "America/Guadeloupe America/Kralendijk America/Lower_Princes America/Marigot",
     "America/Martinique America/Montserrat America/Port_of_Spain America/Puerto_Rico",
     "America/Santo_Domingo America/St_Barthelemy America/St_Kitts America/St_Lucia",
     "America/St_Thomas America/St_Vincent America/Tortola America/Virgin"]),
   ("AST4ADT,M3.2.0,M11.1.0",
    ["America/Glace_Bay America/Goose_Bay America/Halifax America/Moncton",
     "America/Thule Atlantic/Bermuda"]),
   ("AWST-8",
    ["Australia/Perth"]),
   ("CAT-2",
    ["Africa/Blantyre Africa/Bujumbura Africa/Gaborone Africa/Harare Africa/Juba",
     "Africa/Khartoum Africa/Kigali Africa/Lubumbashi Africa/Lusaka Africa/Maputo",
     "Africa/Windhoek"]),
   ("CET-1",
    ["Africa/Algiers Africa/Tunis"]),
   ("CET-1CEST,M3.5.0,M10.5.0/3",
    ["Africa/Ceuta Arctic/Longyearbyen Atlantic/Jan_Mayen CET Europe/Amsterdam",
     "Europe/Andorra Europe/Belgrade Europe/Berlin Europe/Bratislava Europe/Brussels",
     "Europe/Budapest Europe/Busingen Europe/Copenhagen Europe/Gibraltar",
     "Europe/Ljubljana Europe/Luxembourg Europe/Madrid Europe/Malta Europe/Monaco",
     "Europe/Oslo Europe/Paris Europe/Podgorica Europe/Prague Europe/Rome",
     "Europe/San_Marino Europe/Sarajevo Europe/Skopje Europe/Stockholm Europe/Tirane",
     "Europe/Vaduz Europe/Vatican Europe/Vienna Europe/Warsaw Europe/Zagreb",
     "Europe/Zurich"]),
   ("CST-8",
    ["Asia/Chongqing Asia/Harbin Asia/Macau Asia/Shanghai Asia/Taipei"]),
   ("CST5CDT,M3.2.0/0,M11.1.0/1",
    ["America/Havana"]),
   ("CST6",
    ["America/Bahia_Banderas America/Belize America/Chihuahua America/Costa_Rica",
     "America/El_Salvador America/Guatemala America/Managua America/Merida",
     "America/Mexico_City America/Monterrey America/Regina America/Swift_Current",
     "America/Tegucigalpa"]),
   ("CST6CDT,M3.2.0,M11.1.0",
    ["America/Chicago America/Indiana/Knox America/Indiana/Tell_City America/Matamoros",
     "America/Menominee America/North_Dakota/Beulah America/North_Dakota/Center",
     "America/North_Dakota/New_Salem America/Ojinaga America/Rainy_River",
     "America/Rankin_Inlet America/Resolute America/Winnipeg CST6CDT"]),
   ("ChST-10",
    ["Pacific/Guam Pacific/Saipan"]),
   ("EAT-3",
    ["Africa/Addis_Ababa Africa/Asmara Africa/Dar_es_Salaam Africa/Djibouti",
     "Africa/Kampala Africa/Mogadishu Africa/Nairobi Indian/Antananarivo Indian/Comoro",
     "Indian/Mayotte"]),
   ("EET-2",
    ["Africa/Tripoli Europe/Kaliningrad"]),
   ("EET-2EEST,M3.4.4/50,M10.4.4/50",
    ["Asia/Gaza Asia/Hebron"]),
   ("EET-2EEST,M3.5.0/0,M10.5.0/0",
    ["Asia/Beirut"]),
   ("EET-2EEST,M3.5.0/3,M10.5.0/4",
    ["Asia/Famagusta Asia/Nicosia EET Europe/Athens Europe/Bucharest Europe/Chisinau",
     "Europe/Helsinki Europe/Kyiv Europe/Mariehamn Europe/Nicosia Europe/Riga",
     "Europe/Sofia Europe/Tallinn Europe/Tiraspol Europe/Vilnius"]),
   ("EET-2EEST,M4.5.5/0,M10.5.4/24",
    ["Africa/Cairo"]),
   ("EST5",
    ["America/Atikokan America/Cancun America/Cayman America/Coral_Harbour",
     "America/Jamaica America/Panama EST"]),
   ("EST5EDT,M3.2.0,M11.1.0",
    ["America/Detroit America/Grand_Turk America/Indiana/Indianapolis",
     "America/Indiana/Marengo America/Indiana/Petersburg America/Indiana/Vevay",
     "America/Indiana/Vincennes America/Indiana/Winamac America/Iqaluit",
     "America/Kentucky/Louisville America/Kentucky/Monticello America/Montreal",
     "America/Nassau America/New_York America/Nipigon America/Pangnirtung",
     "America/Port-au-Prince America/Thunder_Bay America/Toronto EST5EDT"]),
   ("GMT0",
    ["Africa/Abidjan Africa/Accra Africa/Bamako Africa/Banjul Africa/Bissau",
     "Africa/Conakry Africa/Dakar Africa/Freetown Africa/Lome Africa/Monrovia",
     "Africa/Nouakchott Africa/Ouagadougou Africa/Sao_Tome Africa/Timbuktu",
     "America/Danmarkshavn Atlantic/Reykjavik Atlantic/St_Helena Etc/GMT Etc/GMT+0",
     "Etc/GMT-0 Etc/GMT0 Etc/Greenwich GMT"]),
   ("GMT0BST,M3.5.0/1,M10.5.0",
    ["Europe/Belfast Europe/Guernsey Europe/Isle_of_Man Europe/Jersey Europe/London"]),
   ("GMT0IST,M3.5.0/1,M10.5.0",
    ["Europe/Dublin"]),
   ("HKT-8",
    ["Asia/Hong_Kong"]),
   ("HST10",
    ["HST Pacific/Honolulu Pacific/Johnston"]),
   ("HST10HDT,M3.2.0,M11.1.0",
    ["America/Adak America/Atka"]),
   ("IST-2IDT,M3.4.4/26,M10.5.0",
    ["Asia/Jerusalem Asia/Tel_Aviv"]),
   ("IST-5:30",
    ["Asia/Kolkata"]),
   ("JST-9",
    ["Asia/Tokyo"]),
   ("KST-9",
    ["Asia/Pyongyang Asia/Seoul"]),
   ("MET-1MEST,M3.5.0,M10.5.0/3",
    ["MET"]),
   ("MSK-3",
    ["Europe/Kirov Europe/Moscow Europe/Simferopol Europe/Volgograd"]),
   ("MST7",
    ["America/Creston America/Dawson America/Dawson_Creek America/Fort_Nelson",
     "America/Hermosillo America/Mazatlan America/Phoenix America/Whitehorse MST"]),
   ("MST7MDT,M3.2.0,M11.1.0",
    ["America/Boise America/Cambridge_Bay America/Ciudad_Juarez America/Denver",
     "America/Edmonton America/Inuvik America/Shiprock America/Yellowknife MST7MDT"]),
   ("NST3:30NDT,M3.2.0,M11.1.0",
    ["America/St_Johns"]),
   ("NZST-12NZDT,M9.5.0,M4.1.0/3",
    ["Antarctica/McMurdo Pacific/Auckland"]),
   ("PKT-5",
    ["Asia/Karachi"]),
   ("PST-8",
    ["Asia/Manila"]),
   ("PST8PDT,M3.2.0,M11.1.0",
    ["America/Ensenada America/Los_Angeles America/Santa_Isabel America/Tijuana",
     "America/Vancouver PST8PDT"]),
   ("SAST-2",
    ["Africa/Johannesburg Africa/Maseru Africa/Mbabane"]),
   ("SST11",
    ["Pacific/Midway Pacific/Pago_Pago Pacific/Samoa"]),
   ("UTC0",
    ["Etc/UCT Etc/UTC Etc/Universal Etc/Zulu UTC"]),
   ("WAT-1",
    ["Africa/Bangui Africa/Brazzaville Africa/Douala Africa/Kinshasa Africa/Lagos",
     "Africa/Libreville Africa/Luanda Africa/Malabo Africa/Ndjamena Africa/Niamey",
     "Africa/Porto-Novo"]),
   ("WET0WEST,M3.5.0/1,M10.5.0",
    ["Atlantic/Canary Atlantic/Faroe Atlantic/Madeira Europe/Lisbon WET"]),
   ("WIB-7",
    ["Asia/Jakarta Asia/Pontianak"]),
   ("WIT-9",
    ["Asia/Jayapura"]),
   ("WITA-8",
    ["Asia/Makassar"])]

/-- The rule of a place. -/
def ruleOf? (place : String) : Option String :=
  (places.find? fun e => e.2.any fun names => (names.splitOn " ").contains place).map (·.1)

/-- The clocks of a place, if there are any. -/
def ofPlace? (place : String) : Option Zone :=
  (ruleOf? place).bind fun rule => ofRule? rule.toList

/-- The clocks that a setting asks for, which is a place or a rule. Others are those of universal
time under the name at their start. -/
def ofSetting (setting : String) : Zone :=
  let setting := if setting.startsWith ":" then String.ofList (setting.toList.drop 1) else setting
  match ofPlace? setting, ofRule? setting.toList with
  | some z, _ => z
  | none, some z => z
  | none, none =>
    if setting = "" then universal
    else { standard := { name := ((readName setting.toList).map (·.1)).getD "" } }

end Zone

end Flowboard
